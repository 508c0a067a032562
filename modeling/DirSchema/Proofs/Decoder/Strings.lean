import DirSchema.Proofs.Decoder.Blocks
import DirSchema.Proofs.Decoder.Entries
import DirSchema.Proofs.Decoder.Relocation
import DirSchema.Proofs.Schema.Registration
import DirSchema.Proofs.Schema.Resolution
set_option autoImplicit false

namespace DirSchema

def Attribute.strings (attr : Attribute) : List String := attr.name :: attr.alternateNames.toList

def ObjectClass.strings (declared : ObjectClass) : List String :=
  declared.name :: (declared.alternateNames.toList ++ (declared.subclassOf.toList ++
    (declared.kind.toList ++ (declared.requiredNames ++ declared.optionalNames))))

def Binding.strings (binding : Binding) : List String :=
  [binding.bindingName, binding.ldapName, binding.allowableParent, binding.namedBy]

def Declaration.strings : Declaration → List String
  | .attr declared => declared.strings
  | .objectClass declared => declared.strings
  | .binding declared => declared.strings

def Schema.strings (schema : Schema) : List String :=
  schema.attributes.flatMap (·.2.attr.strings) ++
    (schema.objectClasses.flatMap ObjectClass.strings ++ schema.bindings.flatMap (·.2.strings))

theorem Schema.mem_strings_of_owner {schema : Schema} {owner : ObjectClass} {given : String}
    (among : owner ∈ schema.objectClasses) (own : given ∈ owner.strings) :
    given ∈ schema.strings := by
  simp only [strings, List.mem_append, List.mem_flatMap]
  exact .inr (.inl ⟨owner, among, own⟩)

/-- A declaration adds no strings but its own. -/
theorem Schema.mem_strings_declare {schema : Schema} {declaration : Declaration} {given : String}
    (member : given ∈ (schema.declare declaration).strings) :
    given ∈ schema.strings ∨ given ∈ declaration.strings := by
  simp only [strings, List.mem_append, List.mem_flatMap] at member ⊢
  cases declaration with
  | attr declared =>
      obtain ⟨entry, among, own⟩ | rest := member
      · rcases mem_insertAt among with rfl | old
        · exact Or.inr own
        · exact Or.inl (Or.inl ⟨entry, old, own⟩)
      · exact Or.inl (Or.inr rest)
  | objectClass declared =>
      obtain attrs | ⟨owner, among, own⟩ | bindings := member
      · exact Or.inl (Or.inl attrs)
      · rcases List.mem_append.mp among with old | new
        · exact Or.inl (Or.inr (Or.inl ⟨owner, old, own⟩))
        · exact Or.inr (List.mem_singleton.mp new ▸ own)
      · exact Or.inl (Or.inr (Or.inr bindings))
  | binding declared =>
      obtain attrs | classes | ⟨entry, among, own⟩ := member
      · exact Or.inl (Or.inl attrs)
      · exact Or.inl (Or.inr (Or.inl classes))
      · rcases mem_insertAt among with rfl | old
        · exact Or.inr own
        · exact Or.inl (Or.inr (Or.inr ⟨entry, old, own⟩))

private theorem Schema.mem_strings_declareEach {schema : Schema} {declared : List Declaration}
    {given : String} (member : given ∈ (schema.declareEach declared).strings) :
    given ∈ schema.strings ∨ ∃ declaration ∈ declared, given ∈ declaration.strings := by
  induction declared generalizing schema with
  | nil => exact Or.inl member
  | cons first rest ih =>
      rcases ih member with earlier | ⟨declaration, later, own⟩
      · rcases mem_strings_declare earlier with old | new
        · exact Or.inl old
        · exact Or.inr ⟨first, List.mem_cons_self, new⟩
      · exact Or.inr ⟨declaration, List.mem_cons_of_mem first later, own⟩

namespace Decoder

open DirSchema.Source (Line)

/-- The strings that a line gives: the value of its entry, the key where it is the name of a class
and the parent that stands behind it, each reference in the value, and each name of a list that the
entry begins or that the whole line continues. -/
inductive Yields (text : List Char) : String → Prop
  | value {given : String} (read : value? (Entry.ofLine text).value = some given) :
      Yields text given
  | key {given : String} (read : value? (Entry.ofLine text).key = some given) : Yields text given
  | parent {raw : List Char} {given : String}
      (behind : BindingDraft.parentAfter? (Entry.ofLine text).value = some raw)
      (read : value? (Text.trim raw) = some given) : Yields text given
  | reference {given : String}
      (listed : given ∈ namesOf (stripTerminators (Entry.ofLine text).value)) : Yields text given
  | begun {given : String} (listed : given ∈ (NameLine.ofText (Entry.ofLine text).value).names) :
      Yields text given
  | continued {given : String} (listed : given ∈ (NameLine.ofText text).names) : Yields text given

structure AttributeDraft.All (holds : String → Prop) (draft : AttributeDraft) : Prop where
  name : ∀ given ∈ draft.name, holds given
  alternateNames : ∀ given ∈ draft.alternateNames, holds given

structure ClassDraft.All (holds : String → Prop) (draft : ClassDraft) : Prop where
  name : ∀ given ∈ draft.name, holds given
  alternateNames : ∀ given ∈ draft.alternateNames, holds given
  subclassOf : ∀ given ∈ draft.subclassOf, holds given
  kind : ∀ given ∈ draft.kind, holds given
  required : ∀ given ∈ draft.required, holds given
  optional : ∀ given ∈ draft.optional, holds given

structure BindingDraft.All (holds : String → Prop) (draft : BindingDraft) : Prop where
  name : ∀ given ∈ draft.name, holds given
  ldapName : ∀ given ∈ draft.ldapName, holds given
  allowableParent : ∀ given ∈ draft.allowableParent, holds given
  namedBy : ∀ given ∈ draft.namedBy, holds given

/-- What holds of every string that was read of a block. -/
def Draft.All (holds : String → Prop) : Draft → Prop
  | .attr draft => draft.All holds
  | .objectClass draft => draft.All holds
  | .binding _ draft => draft.All holds

variable {holds : String → Prop}

theorem Draft.all_empty (kind : BlockKind) : (Draft.empty kind).All holds := by
  cases kind <;> constructor <;> simp

private theorem AttributeDraft.all_read {draft : AttributeDraft} (all : draft.All holds)
    {line : Line}
    (here : ∀ given, Yields line.text given → holds given) : (draft.read line).1.All holds := by
  simp only [AttributeDraft.read]
  split
  · exact { all with name := fun given read => here given (.value read) }
  · exact { all with alternateNames := fun given read => here given (.value read) }
  · split <;> exact { all with }
  · split <;> exact { all with }
  · split <;> exact { all with }
  · exact all

private theorem ClassDraft.all_readNames {draft : ClassDraft} (all : draft.All holds)
    (list : NameList)
    {raw : List Char} (names : ∀ given ∈ (NameLine.ofText raw).names, holds given) :
    (draft.readNames list raw).All holds := by
  cases list with
  | required => exact { all with required := List.forall_mem_append.mpr ⟨all.required, names⟩ }
  | optional => exact { all with optional := List.forall_mem_append.mpr ⟨all.optional, names⟩ }

private theorem ClassDraft.all_readParents {draft : ClassDraft} (all : draft.All holds)
    (place : Coord)
    {parents : List String} (named : ∀ parent ∈ parents, holds parent) :
    (draft.readParents place parents).1.All holds := by
  induction parents generalizing draft with
  | nil => exact all
  | cons parent rest ih =>
      rw [List.forall_mem_cons] at named
      rw [ClassDraft.readParents]
      split
      · exact ih all named.2
      · refine ih { all with subclassOf := ?_ } named.2
        rintro given ⟨⟩
        exact named.1

private theorem ClassDraft.all_read {draft : ClassDraft} (all : draft.All holds) {line : Line}
    (here : ∀ given, Yields line.text given → holds given) : (draft.read line).1.All holds := by
  simp only [ClassDraft.read]
  split
  · exact all_readNames all _ fun given listed => here given (.continued listed)
  · split
    · exact { all with name := fun given read => here given (.value read) }
    · exact { all with alternateNames := fun given read => here given (.value read) }
    · exact { all with kind := fun given read => here given (.value read) }
    · exact all_readParents all _ fun given listed => here given (.reference listed)
    · exact all_readNames all .required fun given listed => here given (.begun listed)
    · exact all_readNames all .optional fun given listed => here given (.begun listed)
    · exact all

private theorem BindingDraft.all_read {draft : BindingDraft} (all : draft.All holds) {line : Line}
    (here : ∀ given, Yields line.text given → holds given) : (draft.read line).1.All holds := by
  simp only [BindingDraft.read]
  split
  · exact { all with name := fun given read => here given (.value read) }
  · exact { all with ldapName := fun given read => here given (.value read) }
  · exact { all with allowableParent := fun given read => here given (.value read) }
  · exact { all with namedBy := fun given read => here given (.value read) }
  · split
    · rename_i raw behind
      exact { all with
        ldapName := fun given read => here given (.key read)
        allowableParent := fun given read => here given (.parent behind read) }
    · exact all

theorem Draft.all_read {draft : Draft} (all : draft.All holds) {line : Line}
    (here : ∀ given, Yields line.text given → holds given) : (draft.read line).1.All holds := by
  cases draft with
  | attr draft =>
      have read : (draft.read line).1.All holds := AttributeDraft.all_read all here
      exact read
  | objectClass draft =>
      have read : (draft.read line).1.All holds := ClassDraft.all_read all here
      exact read
  | binding kind draft =>
      have read : (draft.read line).1.All holds := BindingDraft.all_read all here
      exact read

/-- A declaration has the strings of its draft, and no others. -/
theorem Draft.all_close {draft : Draft} {origin : Coord} {declaration : Declaration}
    (all : draft.All holds) (closed : draft.close origin = .ok declaration) :
    ∀ given ∈ declaration.strings, holds given := by
  cases draft with
  | attr draft =>
      obtain ⟨name, alternateNames⟩ := all
      simp only [Draft.close, AttributeDraft.close] at closed
      split at closed
      · cases closed
      · rename_i own named
        cases closed
        simp only [Declaration.strings, Attribute.strings, List.forall_mem_cons, Option.mem_toList]
        exact ⟨name own named, alternateNames⟩
  | objectClass draft =>
      simp only [Draft.close, ClassDraft.close] at closed
      split at closed
      · cases closed
      · rename_i own named
        cases closed
        simp only [Declaration.strings, ObjectClass.strings, foldl_insertName,
          List.forall_mem_cons, List.forall_mem_append, Option.mem_toList, List.mem_eraseDups]
        exact ⟨all.name own named, all.alternateNames, all.subclassOf, all.kind, all.required,
          all.optional⟩
  | binding kind draft =>
      obtain ⟨name, ldapName, parent, namedBy⟩ := all
      simp only [Draft.close, BindingDraft.close] at closed
      split at closed
      · rename_i own above attr ofName ofParent ofAttribute
        cases closed
        simp only [Declaration.strings, Binding.strings, List.forall_mem_cons]
        refine ⟨?_, ldapName own ofName, parent above ofParent, namedBy attr ofAttribute,
          List.forall_mem_nil holds⟩
        cases named : draft.name with
        | none => exact ldapName own ofName
        | some other => exact name other named
      · cases closed

/-- What holds of all strings that lines give is kept by their drafts and declarations. -/
theorem kept_all (holds : String → Prop) :
    Kept (fun line => line.isSignificant = true → ∀ given, Yields line.text given → holds given)
      (Draft.All holds) (fun declaration => ∀ given ∈ declaration.strings, holds given) where
  empty := Draft.all_empty
  line all _ significant here := Draft.all_read all (here significant)
  close := Draft.all_close

/-- Every string of a schema that was decoded is one that a significant line gives. -/
theorem exists_line_of_mem_strings {lines : List Line} {given : String}
    (stored : given ∈ (declareAll {} (events lines)).strings) :
    ∃ line ∈ lines, line.isSignificant = true ∧ Yields line.text given := by
  rw [declareAll_eq] at stored
  rcases Schema.mem_strings_declareEach stored with before | ⟨declaration, made, member⟩
  · cases before
  · have kept := kept_all fun given =>
      ∃ line ∈ lines, line.isSignificant = true ∧ Yields line.text given
    refine kept.of_mem_declarations ?_ made given member
    exact fun line among significant given yields => ⟨line, among, significant, yields⟩

section Nonempty

private theorem value?_ne_empty (raw : List Char) : value? raw ≠ some "" := by
  intro given
  obtain ⟨text, nonempty⟩ := toList_of_value? given
  exact nonempty text.symm

private theorem ne_empty_of_mem_namesOf {raw : List Char} {name : String}
    (member : name ∈ namesOf raw) :
    name ≠ "" := by
  rintro rfl
  exact (mem_namesOf.mp member).1 rfl

theorem Yields.ne_empty {text : List Char} {given : String} (yields : Yields text given) :
    given ≠ "" := by
  rintro rfl
  cases yields with
  | value read => exact value?_ne_empty _ read
  | key read => exact value?_ne_empty _ read
  | parent _ read => exact value?_ne_empty _ read
  | reference listed => exact ne_empty_of_mem_namesOf listed rfl
  | begun listed => exact ne_empty_of_mem_namesOf listed rfl
  | continued listed => exact ne_empty_of_mem_namesOf listed rfl

theorem named_of_mem_decodeLines {lines : List Line} {owner : ObjectClass}
    (member : owner ∈ (decodeLines lines).schema.objectClasses) :
    owner.name ≠ "" ∧ owner.subclassOf ≠ some "" := by
  rw [decodeLines, Schema.resolve_eq] at member
  obtain ⟨declared, among, rfl⟩ := List.mem_map.mp member
  have nonempty (given : String) (own : given ∈ declared.strings) : given ≠ "" := by
    have stored := Schema.mem_strings_of_owner among own
    obtain ⟨line, -, -, yields⟩ := exists_line_of_mem_strings stored
    exact yields.ne_empty
  refine ⟨nonempty _ List.mem_cons_self, fun parent => nonempty "" ?_ rfl⟩
  have named : declared.subclassOf = some "" := parent
  simp [ObjectClass.strings, named]

/-- The classes of a schema that was decoded have names, and so have the parents that they name. -/
theorem named_of_mem_objectClasses {earlier : State} {inputs : List Input}
    {owner : ObjectClass} (member : owner ∈ (earlier.decode inputs).schema.objectClasses) :
    owner.name ≠ "" ∧ owner.subclassOf ≠ some "" := by
  rw [State.decode_eq] at member
  exact named_of_mem_decodeLines member

end Nonempty

end Decoder
end DirSchema
