import DirSchema.Proofs.Decoder.Canonical
import DirSchema.Proofs.Decoder.Entries
set_option autoImplicit false

namespace DirSchema.Decoder.Canonical

open DirSchema.Source (IsLine)

theorem isNameChar_solid {c : Char} (valid : isNameChar c = true) : Text.isBlank c = false := by
  simp only [isNameChar, Bool.and_eq_true, Bool.not_eq_true'] at valid
  exact valid.1

theorem isNameChar_ne {c : Char} (valid : isNameChar c = true) :
    c ≠ '=' ∧ c ≠ ',' ∧ c ≠ ';' ∧ c ≠ '\x7b' ∧ c ≠ '\x7d' ∧ c ≠ '#' := by
  simp only [isNameChar, Bool.and_eq_true, Bool.not_eq_true'] at valid
  simpa using valid.2

theorem IsName.isKeyword {name : String} (valid : IsName name) : IsKeyword name.toList := by
  intro c member
  have ne := isNameChar_ne (valid.2 c member)
  exact ⟨isNameChar_solid (valid.2 c member), by simp [isTerminator, ne], ne.1⟩

theorem IsName.isListed {name : String} (valid : IsName name) : IsListed name :=
  ⟨valid.1, fun c member =>
    ⟨isNameChar_solid (valid.2 c member), (isNameChar_ne (valid.2 c member)).2.1⟩⟩

theorem IsName.isValue {name : String} (valid : IsName name) : IsValue name := by
  have solid (c : Char) (member : c ∈ name.toList) := (valid.isKeyword c member).1
  refine ⟨valid.1, ?_, ?_, ?_⟩
  · exact (Text.trim_eq_self_iff _).mpr ⟨fun c head => solid c (List.mem_of_mem_head? head),
      fun c last => solid c (List.mem_of_mem_getLast? last)⟩
  · intro member
    have blank : Text.isBlank '\n' = true := by decide
    rw [solid '\n' member] at blank
    cases blank
  · exact fun c last => (valid.isKeyword c (List.mem_of_mem_getLast? last)).2.1

theorem IsValue.trimmed {value : String} (valid : IsValue value) : Text.Trimmed value.toList :=
  (Text.trim_eq_self_iff _).mp valid.2.1

theorem IsValue.value? {value : String} (valid : IsValue value) :
    Decoder.value? value.toList = some value :=
  value?_eq_some value valid.1 valid.2.2.2 valid.trimmed.stop

def IsKey (key : String) : Prop := IsName key ∧ key ≠ "set"

instance (key : String) : Decidable (IsKey key) := inferInstanceAs (Decidable (_ ∧ _))

theorem IsKey.isEntry {key : String} (valid : IsKey key) (rest : List Char)
    (ends : ∀ c ∈ rest.head?, Text.isBlank c = true) : IsEntry (key.toList ++ rest) := by
  have mark (c : Char) (head : key.toList.head? = some c) : c ≠ '\x7d' ∧ c ≠ '#' :=
    (isNameChar_ne (valid.1.2 c (List.mem_of_mem_head? head))).2.2.2.2
  apply IsEntry.of_word key.toList rest valid.1.1
    (fun c member => (valid.1.isKeyword c member).1)
  · intro same
    exact valid.2 (String.toList_inj.mp same)
  · exact ⟨fun head => (mark '#' head).2 rfl, fun head => (mark '\x7d' head).1 rfl⟩
  · exact ends

/-- A line that begins with a key and ends with what can end a line. -/
theorem IsKey.isLine {key : String} (valid : IsKey key) (middle back : List Char)
    (hasBack : back ≠ []) (trimmed : Text.Trimmed back) (single : '\n' ∉ middle ++ back) :
    IsLine (key.toList ++ (middle ++ back)) where
  nonempty := by simp [valid.1.1]
  trimmed := valid.1.isValue.trimmed.join valid.1.1 trimmed hasBack middle
  single := by
    rw [List.mem_append, not_or]
    exact ⟨valid.1.isValue.2.2.1, single⟩

theorem isLine_assignment {key value : String} (validKey : IsKey key) (valid : IsValue value) :
    IsLine (assignment key value) :=
  validKey.isLine [' ', '=', ' '] value.toList valid.1 valid.trimmed (by simp [valid.2.2.1])

/-- A text that begins and ends as names do and has nothing but names, commas and spaces. -/
structure IsList (text : List Char) : Prop where
  nonempty : text ≠ []
  head : ∀ c ∈ text.head?, isNameChar c = true
  last : ∀ c ∈ text.getLast?, isNameChar c = true
  chars : ∀ c ∈ text, isNameChar c = true ∨ c = ',' ∨ c = ' '

theorem isList_intercalate (names : List String) (nonempty : names ≠ [])
    (valid : ∀ name ∈ names, IsName name) :
    IsList (List.intercalate [',', ' '] (names.map String.toList)) := by
  induction names with
  | nil => exact absurd rfl nonempty
  | cons first rest ih =>
      have name := valid first List.mem_cons_self
      cases rest with
      | nil =>
          rw [List.map_singleton, List.intercalate_singleton]
          exact ⟨name.1, fun c head => name.2 c (List.mem_of_mem_head? head),
            fun c last => name.2 c (List.mem_of_mem_getLast? last),
            fun c member => Or.inl (name.2 c member)⟩
      | cons second rest =>
          have tail := ih (by simp) fun name member => valid name (List.mem_cons_of_mem _ member)
          rw [List.map_cons, List.map_cons, List.intercalate_cons_cons, ← List.map_cons]
          refine ⟨by simp [name.1], ?_, ?_, ?_⟩
          · rw [List.append_assoc, List.head?_append_of_ne_nil _ name.1]
            exact fun c head => name.2 c (List.mem_of_mem_head? head)
          · rw [List.getLast?_append_of_ne_nil _ tail.nonempty]
            exact tail.last
          · intro c member
            rcases List.mem_append.mp member with front | back
            · rcases List.mem_append.mp front with inName | separator
              · exact Or.inl (name.2 c inName)
              · simpa using Or.inr separator
            · exact tail.chars c back

theorem IsList.trimmed {text : List Char} (list : IsList text) : Text.Trimmed text :=
  ⟨fun c head => isNameChar_solid (list.head c head),
    fun c last => isNameChar_solid (list.last c last)⟩

private theorem IsList.single {text : List Char} (list : IsList text) : '\n' ∉ text := by
  intro member
  rcases list.chars '\n' member with name | comma | space
  · exact absurd (isNameChar_solid name) (by decide)
  · cases comma
  · cases space

theorem IsList.noEquals {text : List Char} (list : IsList text) : ∀ c ∈ text, c ≠ '=' := by
  rintro c member rfl
  rcases list.chars '=' member with name | comma | space
  · exact (isNameChar_ne name).1 rfl
  · cases comma
  · cases space

private theorem isLine_listing {key : String} {names : List String} (validKey : IsKey key)
    (nonempty : names ≠ []) (valid : ∀ name ∈ names, IsName name) : IsLine (listing key names) := by
  have list := isList_intercalate names nonempty valid
  apply validKey.isLine [' '] _ list.nonempty list.trimmed
  rw [List.mem_append, not_or]
  exact ⟨by decide, list.single⟩

theorem isLine_optional {key : String} {value : Option String} (validKey : IsKey key)
    (valid : ∀ text ∈ value, IsValue text) : ∀ text ∈ optional key value, IsLine text := by
  cases value with
  | none => simp [optional]
  | some value => simpa [optional] using isLine_assignment validKey (valid value rfl)

theorem isLine_names {key : String} {listed : List String} (validKey : IsKey key)
    (valid : ∀ name ∈ listed, IsName name) : ∀ text ∈ names key listed, IsLine text := by
  cases listed with
  | nil => simp [names]
  | cons first rest => simpa [names] using isLine_listing validKey (by simp) valid

end DirSchema.Decoder.Canonical
