import DirSchema.Proofs.Decoder.Entries
import DirSchema.Proofs.Decoder.Relocation
import DirSchema.Proofs.Decoder.Strings
import DirSchema.Proofs.Decoder.Terminators
import DirSchema.Proofs.Schema.Resolution
import DirSchema.Proofs.Source.Standing
set_option autoImplicit false

namespace DirSchema

/-- A string that is worth storing. -/
def Clean (given : String) : Prop := Source.IsLine given.toList

theorem Clean.ne_empty {given : String} (clean : Clean given) : given ≠ "" :=
  mt String.toList_eq_nil_iff.mpr clean.nonempty

namespace Decoder

open DirSchema.Source (Line)

section Lines

variable {text raw : List Char} {given : String}

/-- A value is clean if it starts with no white space. -/
theorem clean_of_value? (start : ∀ c ∈ raw.head?, Text.isBlank c = false) (single : '\n' ∉ raw)
    (read : value? raw = some given) : Clean given := by
  obtain ⟨same, nonempty⟩ := toList_of_value? read
  have front := stripTerminators_isPrefix raw
  rw [Clean, same]
  refine ⟨nonempty, ⟨?_, Text.last_dropEndWhile Text.isBlank _⟩, ?_⟩
  · obtain ⟨rest, whole⟩ := front
    rw [← whole, List.head?_append_of_ne_nil _ nonempty] at start
    exact start
  · exact fun newline => single (front.subset newline)

theorem clean_of_mem_namesOf (single : '\n' ∉ raw) (listed : given ∈ namesOf raw) :
    Clean given := by
  obtain ⟨nonempty, piece, cut, same⟩ := mem_namesOf.mp listed
  rw [Clean, ← same]
  rw [← same] at nonempty
  refine ⟨nonempty, Text.trimmed_trim piece, ?_⟩
  intro newline
  exact single (Text.mem_of_mem_fields cut ((Text.trim_isInfix piece).subset newline)).1

private theorem clean_of_mem_nameLine (single : '\n' ∉ raw)
    (listed : given ∈ (NameLine.ofText raw).names) :
    Clean given := by
  apply clean_of_mem_namesOf _ listed
  have front := (Text.dropEndWhile_isPrefix Text.isBlank _).trans
    (Text.dropEndWhile_isPrefix (· == ';') raw)
  exact fun newline => single (front.subset newline)

/-- The value of an entry starts with no white space. -/
theorem Entry.head_value (text : List Char) :
    ∀ c ∈ (Entry.ofLine text).value.head?, Text.isBlank c = false := by
  rcases Entry.ofLine_cases text with ⟨-, same⟩ | ⟨front, mark, rest, -, -, same⟩
  · rw [same]
    simp
  · rw [same]
    exact Text.head_trimStart rest

private theorem Entry.head_key (trimmed : Text.Trimmed text) :
    ∀ c ∈ (Entry.ofLine text).key.head?, Text.isBlank c = false := by
  intro c head
  obtain ⟨rest, whole⟩ := Entry.key_isPrefix text
  apply trimmed.start
  rw [← whole, List.head?_append, Option.mem_def.mp head]
  rfl

/-- What a line gives is clean, whatever form its entry has. -/
theorem clean_of_yields (trimmed : Text.Trimmed text) (single : '\n' ∉ text)
    (yields : Yields text given) : Clean given := by
  have inValue : '\n' ∉ (Entry.ofLine text).value := fun newline =>
    single ((Entry.value_isSuffix text).subset newline)
  cases yields with
  | value read => exact clean_of_value? (Entry.head_value text) inValue read
  | key read =>
      exact clean_of_value? (Entry.head_key trimmed)
        (fun newline => single ((Entry.key_isPrefix text).subset newline)) read
  | parent behind read =>
      apply clean_of_value? (Text.trimmed_trim _).start _ read
      intro newline
      have after := BindingDraft.parentAfter?_isSuffix behind
      exact inValue (after.subset ((Text.trim_isInfix _).subset newline))
  | reference listed =>
      apply clean_of_mem_namesOf _ listed
      exact fun newline => inValue ((stripTerminators_isPrefix _).subset newline)
  | begun listed => exact clean_of_mem_nameLine inValue listed
  | continued listed => exact clean_of_mem_nameLine single listed

theorem clean_of_line {line : Line} {inputs : List Input} (member : line ∈ linesOf inputs)
    (significant : line.isSignificant = true) :
    ∀ given, Yields line.text given → Clean given := by
  obtain ⟨input, -, among⟩ := List.mem_flatMap.mp member
  obtain ⟨standing, stands, same, -⟩ := Line.exists_standing among significant
  have written := stands.text
  rw [same] at written
  exact fun given => clean_of_yields written.trimmed written.single

end Lines

/-- What is kept holds of the draft of the state that lines lead to. -/
theorem Kept.draft {given : Line → Prop} {read : Draft → Prop} {made : Declaration → Prop}
    (kept : Kept given read made) {state : State} (keeps : ∀ draft ∈ state.draft?, read draft)
    {lines : List Line} (here : ∀ line ∈ lines, given line) :
    ∀ draft ∈ (state.steps lines).1.draft?, read draft := by
  induction lines generalizing state with
  | nil => exact keeps
  | cons line rest ih =>
      rw [List.forall_mem_cons] at here
      rw [State.steps_cons]
      exact ih (kept.step keeps here.1).1 here.2

end Decoder

/-- What a declaration is linked to, which is nothing before it is resolved. -/
def Declaration.links : Declaration → List Instance
  | .objectClass declared => declared.attributes
  | _ => []

private theorem Decoder.Draft.links_close {draft : Draft} {origin : Coord}
    {declaration : Declaration}
    (closed : draft.close origin = .ok declaration) : declaration.links = [] := by
  cases draft with
  | attr draft =>
      simp only [Draft.close, AttributeDraft.close] at closed
      split at closed <;> cases closed
      rfl
  | objectClass draft =>
      simp only [Draft.close, ClassDraft.close] at closed
      split at closed <;> cases closed
      rfl
  | binding kind draft =>
      simp only [Draft.close, BindingDraft.close] at closed
      split at closed <;> cases closed
      rfl

theorem Decoder.kept_unlinked :
    Kept (fun _ => True) (fun _ => True) fun declaration => declaration.links = [] where
  empty _ := trivial
  line _ _ _ _ := trivial
  close _ := Draft.links_close

namespace Schema

variable {schema : Schema} {given : String} {references : List Reference}

/-- A name that is looked up is written in a class. -/
theorem name_mem_strings {reference : Reference} (member : reference ∈ schema.references) :
    reference.name ∈ schema.strings := by
  obtain ⟨owner, among, inside⟩ := List.mem_flatMap.mp member
  obtain ⟨name, named, rfl⟩ := List.mem_map.mp inside
  have written : name ∈ owner.strings := by
    simp only [ObjectClass.strings, List.mem_cons, List.mem_append] at named ⊢
    exact .inr (.inr (.inr (.inr named)))
  exact mem_strings_of_owner among written

/-- What is registered after resolution has no other strings than the schema had before it. -/
theorem mem_strings_of_grown {entry : String × Instance}
    (member : entry ∈ (schema.growAll schema.references).attributes)
    (written : given ∈ entry.2.attr.strings) : given ∈ schema.strings := by
  obtain ⟨synthesized, grown, made⟩ := attributes_growAll schema schema.references
  rw [grown, List.mem_append] at member
  rcases member with old | new
  · simp only [strings, List.mem_append, List.mem_flatMap]
    exact .inl ⟨entry, old, written⟩
  · have told := List.mem_map_of_mem (f := Prod.map id Instance.attr) new
    rw [made] at told
    obtain ⟨reference, among, same⟩ := List.mem_map.mp told
    have attr : entry.2.attr = Attribute.synthesized reference.name :=
      (congrArg Prod.snd same).symm
    have name : given = reference.name := by
      rw [attr] at written
      simpa [Attribute.strings, Attribute.synthesized] using written
    rw [name]
    exact name_mem_strings (mem_of_mem_undeclared among)

/-- Resolution adds no strings. -/
theorem mem_strings_resolve (written : given ∈ schema.resolve.1.strings) :
    given ∈ schema.strings := by
  rw [resolve_eq, strings] at written
  simp only [List.mem_append, List.mem_flatMap] at written
  rcases written with ⟨entry, member, own⟩ | ⟨owner, member, own⟩ | ⟨entry, member, own⟩
  · exact mem_strings_of_grown member own
  · obtain ⟨declared, among, rfl⟩ := List.mem_map.mp member
    exact mem_strings_of_owner among own
  · rw [(growAll_frame schema schema.references).2] at member
    simp only [strings, List.mem_append, List.mem_flatMap]
    exact .inr (.inr ⟨entry, member, own⟩)

private theorem mem_foldl_link {links found : List Instance} {linked : Instance}
    (member : linked ∈ found.foldl Instance.link links) : linked ∈ links ∨ linked ∈ found := by
  induction found generalizing links with
  | nil => exact .inl member
  | cons first rest ih =>
      rcases ih member with here | later
      · rw [Instance.link] at here
        split at here
        · exact .inl here
        · rcases List.mem_append.mp here with old | new
          · exact .inl old
          · exact .inr (List.mem_singleton.mp new ▸ List.mem_cons_self)
      · exact .inr (List.mem_cons_of_mem _ later)

private theorem mem_attributes_of_attribute? {name : String} {found : Instance}
    (registered : schema.attribute? name = some found) :
    (Text.fold name, found) ∈ schema.attributes := by
  obtain ⟨before, after, split, -⟩ := List.lookup_eq_some_iff.mp registered
  rw [split]
  exact List.mem_append_right _ List.mem_cons_self

/-- What a class is linked to is registered, if the class was linked to nothing before. -/
theorem exists_entry_of_linked {registry : Schema} {owner : ObjectClass} {linked : Instance}
    (unlinked : owner.attributes = []) (member : linked ∈ (registry.linked owner).attributes) :
    ∃ key, (key, linked) ∈ registry.attributes := by
  obtain ⟨required, optional⟩ := List.append_eq_nil_iff.mp unlinked
  rw [ObjectClass.attributes, Schema.linked, required, optional] at member
  have found : ∃ name, registry.attribute? name = some linked := by
    rcases List.mem_append.mp member with here | here
    all_goals
      rcases mem_foldl_link here with nothing | among
      · cases nothing
      · obtain ⟨name, -, registered⟩ := List.mem_filterMap.mp among
        exact ⟨name, registered⟩
  obtain ⟨name, registered⟩ := found
  exact ⟨_, mem_attributes_of_attribute? registered⟩

end Schema
end DirSchema
