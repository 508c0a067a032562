import DirSchema.Decoder.Basic
import DirSchema.Proofs.Model.Spelling
set_option autoImplicit false

namespace DirSchema.Model

private theorem isIdentifierPart_of_lower {c : Char}
    (lower : c.isLower = true ∨ c.isDigit = true ∨ c = '_') : isIdentifierPart c = true := by
  rw [isIdentifierPart, Char.isAlphanum, Char.isAlpha]
  rcases lower with lower | digit | rfl
  · simp [lower]
  · simp [digit]
  · rfl

section
variable {name : String} (ascii : ∀ c ∈ name.toList, c.toNat < 0x80)
include ascii

/-- A reserved word in snake case is one that fields are kept from. -/
theorem mem_of_mem_reserved (member : Text.snakeCase name ∈ reserved) :
    Text.snakeCase name ∈ reservedWords ∨ Text.snakeCase name ∈ keywords := by
  have every : ∀ word ∈ reserved, word ∈ reservedWords ∨ word ∈ keywords ∨ word = "Self" := by
    decide
  rcases every _ member with never | raw | self
  · exact .inl never
  · exact .inr raw
  · have capital : 'S' ∈ (Text.snakeCase name).toList := by
      rw [self]
      decide
    exact absurd (Text.each_snakeCase ascii 'S' capital) (by decide)

theorem isIdentifierPart_snakeCase :
    ∀ c ∈ (Text.snakeCase name).toList, isIdentifierPart c = true := fun c member =>
  isIdentifierPart_of_lower (Text.each_snakeCase ascii c member)

/-- No reserved word starts with an underscore. -/
theorem isIdentifier_underscore (nonempty : (Text.snakeCase name).toList ≠ []) :
    isIdentifier ("_" ++ Text.snakeCase name) = true := by
  have plain : ∀ word ∈ reserved, '_' ∉ word.toList := by decide
  have whole : ("_" ++ Text.snakeCase name).toList = '_' :: (Text.snakeCase name).toList :=
    String.toList_append
  refine isIdentifier_of_isWord ?_ fun member => plain _ member ?_
  · rw [whole, ← Letters.isWord_ascii]
    exact Letters.isWord_cons (.inr rfl) (isIdentifierPart_snakeCase ascii) fun _ => nonempty
  · rw [whole]
    exact List.mem_cons_self

/-- What starts with a letter and is no word that fields are kept from is an identifier as it is. -/
theorem isIdentifier_snakeCase {first : Char} {more : List Char}
    (chars : (Text.snakeCase name).toList = first :: more) (lower : first.isLower = true)
    (never : Text.snakeCase name ∉ reservedWords) (other : Text.snakeCase name ∉ keywords) :
    isIdentifier (Text.snakeCase name) = true := by
  have start : Letters.ascii.start first = true := by
    show first.isAlpha = true
    rw [Char.isAlpha, lower, Bool.or_true]
  have parts := isIdentifierPart_snakeCase ascii
  refine isIdentifier_of_isWord ?_ fun member => ?_
  · rw [chars] at parts ⊢
    rw [← Letters.isWord_ascii]
    refine Letters.isWord_cons (.inl start) (List.forall_mem_cons.mp parts).2 fun mark => ?_
    rw [mark] at lower
    exact absurd lower (by decide)
  · exact (mem_of_mem_reserved ascii member).elim never other

/-- A name that has words is spelled as an identifier. -/
theorem isIdentifier_fieldNameOf (some : ∃ c ∈ name.toList, c.isAlphanum = true) :
    isIdentifier (fieldNameOf name) = true := by
  have escaped : ∀ word ∈ reservedWords, isIdentifier (word ++ "_") = true := by decide
  have raw : ∀ word ∈ keywords, isIdentifier ("r#" ++ word) = true := by decide +kernel
  obtain ⟨first, more, chars, start⟩ := Text.exists_snakeCase ascii some
  rw [fieldNameOf]
  split
  · rename_i never
    exact escaped _ (List.contains_iff_mem.mp never)
  rename_i never
  split
  · rename_i keyword
    exact raw _ (List.contains_iff_mem.mp keyword)
  rename_i other
  rw [List.contains_iff_mem] at never other
  split
  · refine isIdentifier_underscore ascii ?_
    rw [chars]
    exact List.cons_ne_nil _ _
  · rename_i digitless
    rw [startsWithDigit, chars] at digitless
    exact isIdentifier_snakeCase ascii chars (start.resolve_right digitless) never other

/-- A name without words has no field name. -/
theorem fieldNameOf_of_none (none : ∀ c ∈ name.toList, c.isAlphanum = false) :
    fieldNameOf name = "" := by
  have nothing : name.toList.filter Text.isAlphanumeric = [] := by
    rw [List.filter_eq_nil_iff]
    intro c member
    rw [Text.isAlphanumeric_of_ascii (ascii c member), none c member]
    exact Bool.false_ne_true
  rw [fieldNameOf, Text.snakeCase_of_filter nothing]
  rfl

/-- The field name of an ASCII name is an identifier exactly if the name has a letter or a digit in
it, and is empty if it has none. -/
theorem fieldName_identifier_iff :
    (isIdentifier (fieldNameOf name) = true ↔ ∃ c ∈ name.toList, c.isAlphanum = true) ∧
      ((∀ c ∈ name.toList, c.isAlphanum = false) → fieldNameOf name = "") := by
  refine ⟨⟨fun identifier => ?_, isIdentifier_fieldNameOf ascii⟩, fieldNameOf_of_none ascii⟩
  by_contra none
  push Not at none
  have empty := fieldNameOf_of_none ascii fun c member => Bool.eq_false_iff.mpr (none c member)
  rw [empty] at identifier
  exact absurd identifier (by decide)

end

theorem factor_identifier :
    (∀ c ∈ "2fa:loginKey".toList, c.toNat < 0x80) ∧
      fieldNameOf "2fa:loginKey" = "_2fa_login_key" ∧
      isIdentifier (fieldNameOf "2fa:loginKey") = true := by
  have ascii : ∀ c ∈ "2fa:loginKey".toList, c.toNat < 0x80 := by simp
  have letter : ∃ c ∈ "2fa:loginKey".toList, c.isAlphanum = true := ⟨'2', by simp, rfl⟩
  exact ⟨ascii, by decide +kernel, (fieldName_identifier_iff ascii).1.mpr letter⟩

/-- A class that requires an attribute with a hyphen for a name. -/
def hyphenated : List Decoder.Input :=
  [⟨0, "set object-class c = \x7b\nname = c\nmust-contain -\n\x7d;\n"⟩]

/-- The attribute is registered, and has no field name. -/
theorem hyphen_not_identifier :
    (Decoder.decode hyphenated).schema.attributes.map (·.2.attr.name) = ["-"] ∧
      fieldNameOf "-" = "" ∧ isIdentifier (fieldNameOf "-") = false := by
  decide +kernel

theorem isIdentifier_of_isDescriptor {name : String} (descriptor : Text.isDescriptor name = true) :
    isIdentifier (fieldNameOf name) = true :=
  isIdentifier_fieldNameOf (Text.ascii_of_isDescriptor descriptor)
    (Text.exists_isAlphanum_of_isDescriptor descriptor)

end DirSchema.Model
