import DirSchema.Model.FieldName
import DirSchema.Proofs.Text.Cutting
import DirSchema.Proofs.Text.Words
set_option autoImplicit false

namespace DirSchema.Model

def isIdentifierStart (c : Char) : Bool := c.isAlpha || c == '_'

def isIdentifierPart (c : Char) : Bool := c.isAlphanum || c == '_'

/-- Whether characters have the form of an identifier. An underscore alone is none. -/
def isWord : List Char → Bool
  | [] => false
  | ['_'] => false
  | first :: rest => isIdentifierStart first && rest.all isIdentifierPart

/-- The words that may not be spelled by an identifier: those in use, and those held back for later
use. -/
def reserved : List String :=
  ["as", "async", "await", "break", "const", "continue", "crate", "dyn", "else", "enum", "extern",
    "false", "fn", "for", "if", "impl", "in", "let", "loop", "match", "mod", "move", "mut", "pub",
    "ref", "return", "self", "Self", "static", "struct", "super", "trait", "true", "type", "unsafe",
    "use", "where", "while",
    "abstract", "become", "box", "do", "final", "gen", "macro", "override", "priv", "try", "typeof",
    "unsized", "virtual", "yield"]

/-- The reserved words that a raw identifier may not spell either. -/
def neverRaw : List String := ["crate", "self", "super", "Self"]

/-- Whether a text is an identifier: a word that is not reserved, or a raw identifier. -/
def isIdentifier (text : String) : Bool :=
  match text.toList with
  | 'r' :: '#' :: word => isWord word && !neverRaw.contains (String.ofList word)
  | word => isWord word && !reserved.contains text

theorem withoutRawMarks_of_not_mem {cs : List Char} (plain : '#' ∉ cs) :
    withoutRawMarks cs = cs := by
  rw [withoutRawMarks.eq_def]
  split
  · simp at plain
  · rfl

theorem toList_numbered (name : String) (n : Nat) :
    (numbered (numberedBase name) n).toList =
      (withoutRawMarks name.toList).rdropWhile (· == '_') ++ '_' :: Nat.toDigits 10 n := by
  simp [numbered, numberedBase, Text.decimal, Text.dropEndWhile_eq_rdropWhile]

/-- What identifiers may start with, an underscore aside, and what may stand in them. -/
structure Letters where
  start : Char → Bool
  part : Char → Bool
  part_of_start : ∀ c, start c = true → part c = true
  digit : ∀ c, c.isDigit = true → part c = true
  underscore : part '_' = true
  mark : part '#' = false

namespace Letters

def isWord (letters : Letters) : List Char → Bool
  | [] => false
  | ['_'] => false
  | first :: rest => (letters.start first || first == '_') && rest.all letters.part

/-- Whether a text is an identifier: a word that is not reserved, or a raw identifier. -/
def isIdentifier (letters : Letters) (text : String) : Bool :=
  match text.toList with
  | 'r' :: '#' :: word => letters.isWord word && !neverRaw.contains (String.ofList word)
  | word => letters.isWord word && !reserved.contains text

def ascii : Letters where
  start := Char.isAlpha
  part := isIdentifierPart
  part_of_start c alpha := by rw [isIdentifierPart, Char.isAlphanum, alpha]; rfl
  digit c digit := by rw [isIdentifierPart, Char.isAlphanum, digit, Bool.or_true, Bool.true_or]
  underscore := rfl
  mark := rfl

theorem isWord_ascii (word : List Char) : ascii.isWord word = Model.isWord word := by
  rw [isWord.eq_def, Model.isWord.eq_def]
  rfl

theorem isIdentifier_ascii (text : String) : ascii.isIdentifier text = Model.isIdentifier text := by
  rw [isIdentifier, Model.isIdentifier]
  simp only [isWord_ascii]

variable {letters : Letters}

theorem isWord_cons {first : Char} {rest : List Char}
    (start : letters.start first = true ∨ first = '_')
    (parts : ∀ c ∈ rest, letters.part c = true) (more : first = '_' → rest ≠ []) :
    letters.isWord (first :: rest) = true := by
  rw [isWord.eq_3 _ _ _ more, Bool.and_eq_true, Bool.or_eq_true, beq_iff_eq, List.all_eq_true]
  exact ⟨start, parts⟩

theorem isWord_cases {word : List Char} (isWord : letters.isWord word = true) :
    ∃ first rest, word = first :: rest ∧ (letters.start first = true ∨ first = '_') ∧
      ∀ c ∈ rest, letters.part c = true := by
  rw [Letters.isWord.eq_def] at isWord
  split at isWord
  · cases isWord
  · cases isWord
  · rename_i first rest _
    rw [Bool.and_eq_true, Bool.or_eq_true, beq_iff_eq, List.all_eq_true] at isWord
    exact ⟨first, rest, rfl, isWord⟩

/-- What may stand in an identifier, the mark of a raw one aside. -/
theorem part_of_isWord {word : List Char} (isWord : letters.isWord word = true) :
    ∀ c ∈ word, letters.part c = true := by
  obtain ⟨first, rest, rfl, start, parts⟩ := isWord_cases isWord
  rw [List.forall_mem_cons]
  refine ⟨?_, parts⟩
  rcases start with letter | rfl
  · exact letters.part_of_start first letter
  · exact letters.underscore

theorem mark_not_mem_of_isWord {word : List Char} (isWord : letters.isWord word = true) :
    '#' ∉ word := by
  intro member
  have part := part_of_isWord isWord '#' member
  rw [letters.mark] at part
  cases part

theorem isIdentifier_of_isWord {text : String} (isWord : letters.isWord text.toList = true)
    (free : text ∉ reserved) : letters.isIdentifier text = true := by
  rw [isIdentifier]
  split
  · rename_i word raw
    rw [raw] at isWord
    exact absurd (List.mem_cons_of_mem _ List.mem_cons_self) (mark_not_mem_of_isWord isWord)
  · rw [isWord, Bool.true_and, Bool.not_eq_true']
    simpa using free

/-- What an identifier is but for the mark of a raw one. -/
theorem isWord_withoutRawMarks {name : String} (identifier : letters.isIdentifier name = true) :
    letters.isWord (withoutRawMarks name.toList) = true := by
  rw [isIdentifier] at identifier
  split at identifier
  · rename_i word raw
    have isWord := (Bool.and_eq_true_iff.mp identifier).1
    rw [raw, withoutRawMarks, withoutRawMarks_of_not_mem (mark_not_mem_of_isWord isWord)]
    exact isWord
  · have isWord := (Bool.and_eq_true_iff.mp identifier).1
    rw [withoutRawMarks_of_not_mem (mark_not_mem_of_isWord isWord)]
    exact isWord

/-- A number makes an identifier and no keyword, as no keyword has an underscore. -/
theorem isIdentifier_numbered {name : String} (identifier : letters.isIdentifier name = true)
    (n : Nat) : letters.isIdentifier (numbered (numberedBase name) n) = true := by
  have plain : ∀ word ∈ reserved, '_' ∉ word.toList := by decide
  have digits : ∀ c ∈ '_' :: Nat.toDigits 10 n, letters.part c = true := by
    rw [List.forall_mem_cons]
    exact ⟨letters.underscore, fun c member => letters.digit c
      (Nat.isDigit_of_mem_toDigits (by decide) (by decide) member)⟩
  obtain ⟨first, rest, word, start, parts⟩ := isWord_cases (isWord_withoutRawMarks identifier)
  have isWord : letters.isWord (numbered (numberedBase name) n).toList = true := by
    rw [toList_numbered, word]
    obtain ⟨dropped, split⟩ := List.rdropWhile_prefix (· == '_') (first :: rest)
    cases kept : (first :: rest).rdropWhile (· == '_') with
    | nil =>
        refine isWord_cons (.inr rfl) (List.forall_mem_cons.mp digits).2 fun _ => ?_
        exact Nat.toDigits_ne_nil
    | cons head tail =>
        rw [kept, List.cons_append, List.cons.injEq] at split
        rw [List.cons_append]
        refine isWord_cons (split.1 ▸ start) ?_ fun _ => List.append_ne_nil_of_right_ne_nil _
          (List.cons_ne_nil _ _)
        rw [List.forall_mem_append]
        refine ⟨fun c member => parts c ?_, digits⟩
        rw [← split.2]
        exact List.mem_append_left _ member
  refine isIdentifier_of_isWord isWord fun member => plain _ member ?_
  rw [toList_numbered]
  simp

end Letters

theorem isIdentifier_of_isWord {text : String} (isWord : isWord text.toList = true)
    (free : text ∉ reserved) : isIdentifier text = true := by
  rw [← Letters.isWord_ascii] at isWord
  rw [← Letters.isIdentifier_ascii]
  exact Letters.isIdentifier_of_isWord isWord free

theorem isIdentifier_numbered {name : String} (identifier : isIdentifier name = true) (n : Nat) :
    isIdentifier (numbered (numberedBase name) n) = true := by
  rw [← Letters.isIdentifier_ascii] at identifier ⊢
  exact Letters.isIdentifier_numbered identifier n

/-- No identifier has a hyphen in it. -/
theorem hyphen_not_mem_of_isIdentifier {text : String} (identifier : isIdentifier text = true) :
    '-' ∉ text.toList := by
  have absent {word : List Char} (isWord : isWord word = true) : '-' ∉ word := fun member =>
    absurd (Letters.part_of_isWord (Letters.isWord_ascii word ▸ isWord) '-' member) (by decide)
  rw [isIdentifier] at identifier
  split at identifier
  · rename_i word raw
    rw [Bool.and_eq_true] at identifier
    rw [raw, List.mem_cons, List.mem_cons, not_or, not_or]
    exact ⟨by decide, by decide, absent identifier.1⟩
  · rw [Bool.and_eq_true] at identifier
    exact absent identifier.1

end DirSchema.Model
