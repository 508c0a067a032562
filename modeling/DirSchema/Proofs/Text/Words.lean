import DirSchema.Proofs.Text.Casing
import DirSchema.Text.Words
import Mathlib
set_option autoImplicit false

namespace DirSchema.Text

/-- Whether a name is a descriptor: an ASCII letter, and then ASCII letters, digits and hyphens. -/
def isDescriptor (name : String) : Bool :=
  match name.toList with
  | [] => false
  | first :: rest => first.isAlpha && rest.all fun c => c.isAlphanum || c == '-'

theorem toNat_lt_of_isAlphanum {c : Char} (alphanum : c.isAlphanum = true) : c.toNat < 0x80 := by
  simp only [Char.isAlphanum, Char.isAlpha, Char.isUpper, Char.isLower, Char.isDigit,
    Bool.or_eq_true, Bool.and_eq_true, decide_eq_true_eq, ge_iff_le, UInt32.le_iff_toNat_le]
    at alphanum
  simp at alphanum
  omega

theorem isAlphanum_of_isAlpha {c : Char} (alpha : c.isAlpha = true) : c.isAlphanum = true := by
  rw [Char.isAlphanum, alpha, Bool.true_or]

private theorem not_isAlpha_of_isDigit {c : Char} (digit : c.isDigit = true) :
    c.isAlpha = false := by
  rw [Bool.eq_false_iff]
  intro alpha
  simp only [Char.isAlpha, Char.isUpper, Char.isLower, Char.isDigit, Bool.or_eq_true,
    Bool.and_eq_true, decide_eq_true_eq, ge_iff_le, UInt32.le_iff_toNat_le] at alpha digit
  simp at alpha digit
  omega

private theorem not_isUpper_of_isDigit {c : Char} (digit : c.isDigit = true) : c.isUpper = false :=
  (Bool.or_eq_false_iff.mp (not_isAlpha_of_isDigit digit)).1

/-- The characters with an upper case form: itself and the lower case letter. -/
theorem of_toUpper_eq {c upper : Char} (same : c.toUpper = upper) :
    c = upper.toLower ∨ c = upper := by
  by_cases lower : c.isLower = true
  · left
    rw [← same, Char.toLower_toUpper_eq_toLower,
      Char.toLower_eq_of_not_isUpper (Char.not_isUpper_of_isLower lower)]
  · right
    rw [← same, Char.toUpper_eq_of_not_isLower lower]

private theorem toLowercase_of_isAlphanum {c : Char} (alphanum : c.isAlphanum = true) :
    toLowercase c = [c.toLower] :=
  if_pos (toNat_lt_of_isAlphanum alphanum)

theorem toUppercase_of_isAlphanum {c : Char} (alphanum : c.isAlphanum = true) :
    toUppercase c = [c.toUpper] :=
  if_pos (toNat_lt_of_isAlphanum alphanum)

private theorem lowerWord_of_isAlphanum {word : List Char}
    (each : ∀ c ∈ word, c.isAlphanum = true) :
    lowerWord word = word.map Char.toLower := by
  induction word with
  | nil => rfl
  | cons c rest ih =>
      rw [List.forall_mem_cons] at each
      cases rest with
      | nil =>
          have ascii := toNat_lt_of_isAlphanum each.1
          have other : c ≠ 'Σ' := by
            rintro rfl
            exact absurd ascii (by decide)
          rw [lowerWord, if_neg other, toLowercase_of_isAlphanum each.1]
          rfl
      | cons next rest =>
          rw [lowerWord, toLowercase_of_isAlphanum each.1, ih each.2]
          · rfl
          · exact List.cons_ne_nil _ _

namespace Words

private theorem flatten_cut (mode : Mode) (word cs : List Char) :
    (cut mode word cs).flatten = word.reverse ++ cs := by
  fun_induction cut mode word cs with
  | case1 mode word empty => rw [List.isEmpty_iff.mp empty]; rfl
  | case2 mode word full => simp
  | case3 mode word c => simp
  | case4 mode word c next rest boundary ih => simp [ih]
  | case5 mode word c next rest inner boundary ih => simp [ih]
  | case6 mode word c next rest inner same ih => simp [ih]

/-- No word is empty, as long as a case is known only of a word that has begun. -/
theorem ne_nil_of_mem_cut {mode : Mode} {word cs : List Char}
    (begun : mode = .upper → word ≠ []) : ∀ piece ∈ cut mode word cs, piece ≠ [] := by
  fun_induction cut mode word cs with
  | case1 mode word empty => nofun
  | case2 mode word full => simpa using full
  | case3 mode word c => simp
  | case4 mode word c next rest boundary ih =>
      rw [List.forall_mem_cons]
      exact ⟨by simp, ih nofun⟩
  | case5 mode word c next rest inner boundary ih =>
      rw [List.forall_mem_cons]
      refine ⟨?_, ih nofun⟩
      simp only [Bool.and_eq_true, decide_eq_true_eq] at boundary
      simpa using begun boundary.1.1
  | case6 mode word c next rest inner same ih => exact ih fun _ => List.cons_ne_nil _ _

private theorem flatten_runs (run cs : List Char) :
    (runs run cs).flatten = run.reverse ++ cs.filter isAlphanumeric := by
  induction cs generalizing run with
  | nil => simp [runs]
  | cons c cs ih =>
      rw [runs]
      split
      · rename_i alphanumeric
        rw [ih, List.filter_cons_of_pos alphanumeric, List.reverse_cons, List.append_assoc]
        rfl
      · rename_i other
        rw [List.flatten_cons, ih, List.filter_cons_of_neg other]
        rfl

end Words

/-- The words of a text have its letters and numbers, in order. -/
theorem flatten_words (s : String) : (words s).flatten = s.toList.filter isAlphanumeric := by
  have each (runs : List (List Char)) :
      (runs.flatMap (Words.cut .uncased [])).flatten = runs.flatten := by
    induction runs with
    | nil => rfl
    | cons run runs ih =>
        rw [List.flatMap_cons, List.flatten_append, ih, Words.flatten_cut, List.flatten_cons]
        rfl
  rw [words, each, Words.flatten_runs]
  rfl

theorem ne_nil_of_mem_words {s : String} {word : List Char} (member : word ∈ words s) :
    word ≠ [] := by
  obtain ⟨run, -, among⟩ := List.mem_flatMap.mp member
  have solid : ∀ piece ∈ Words.cut .uncased [] run, piece ≠ [] := Words.ne_nil_of_mem_cut nofun
  exact solid word among

theorem mem_of_mem_words {s : String} {word : List Char} (member : word ∈ words s) {c : Char}
    (inside : c ∈ word) : c ∈ s.toList ∧ isAlphanumeric c = true := by
  rw [← List.mem_filter, ← flatten_words]
  exact List.mem_flatten.mpr ⟨word, member, inside⟩

/-- The first word starts with the first letter or number of the text. -/
theorem words_of_filter {s : String} {first : Char} {rest : List Char}
    (split : s.toList.filter isAlphanumeric = first :: rest) :
    ∃ word more, words s = (first :: word) :: more := by
  rw [← flatten_words] at split
  cases cut : words s with
  | nil =>
      rw [cut] at split
      cases split
  | cons word more =>
      have nonempty : word ≠ [] := ne_nil_of_mem_words (by rw [cut]; exact List.mem_cons_self)
      obtain ⟨head, tail, rfl⟩ := List.exists_cons_of_ne_nil nonempty
      rw [cut, List.flatten_cons, List.cons_append, List.cons.injEq] at split
      exact ⟨tail, more, by rw [split.1]⟩

private theorem mem_intercalate {separator c : Char} {words : List (List Char)}
    (member : c ∈ List.intercalate [separator] words) :
    c = separator ∨ ∃ word ∈ words, c ∈ word := by
  induction words with
  | nil => exact absurd member List.not_mem_nil
  | cons first rest ih =>
      cases rest with
      | nil =>
          rw [List.intercalate_singleton] at member
          exact .inr ⟨first, List.mem_cons_self, member⟩
      | cons second rest =>
          rw [List.intercalate_cons_cons, List.mem_append, List.mem_append,
            List.mem_singleton] at member
          rcases member with (own | same) | behind
          · exact .inr ⟨first, List.mem_cons_self, own⟩
          · exact .inl same
          · rcases ih behind with same | ⟨word, among, inside⟩
            · exact .inl same
            · exact .inr ⟨word, List.mem_cons_of_mem _ among, inside⟩

theorem mem_snakeCase {s : String} {c : Char} (member : c ∈ (snakeCase s).toList) :
    c = '_' ∨ ∃ word ∈ words s, c ∈ lowerWord word := by
  rw [snakeCase, String.toList_ofList] at member
  rcases mem_intercalate member with same | ⟨lowered, among, inside⟩
  · exact .inl same
  · obtain ⟨word, ofText, rfl⟩ := List.mem_map.mp among
    exact .inr ⟨word, ofText, inside⟩

private theorem mem_lowerWord {word : List Char} {c : Char} (member : c ∈ lowerWord word) :
    c = 'ς' ∨ ∃ d ∈ word, c ∈ toLowercase d := by
  induction word with
  | nil => exact absurd member List.not_mem_nil
  | cons first rest ih =>
      cases rest with
      | nil =>
          rw [lowerWord] at member
          split at member
          · exact .inl (List.mem_singleton.mp member)
          · exact .inr ⟨first, List.mem_cons_self, member⟩
      | cons next rest =>
          rw [lowerWord.eq_3 _ _ (List.cons_ne_nil _ _)] at member
          rcases List.mem_append.mp member with own | behind
          · exact .inr ⟨first, List.mem_cons_self, own⟩
          · rcases ih behind with final | ⟨d, inside, lower⟩
            · exact .inl final
            · exact .inr ⟨d, List.mem_cons_of_mem _ inside, lower⟩

/-- No letter or number has the mark of raw identifiers for a lower case. -/
theorem mark_not_mem_toLowercase {c : Char} (alphanumeric : isAlphanumeric c = true) :
    '#' ∉ toLowercase c := by
  have other : c ≠ '#' := by
    rintro rfl
    exact absurd alphanumeric (by decide)
  rw [toLowercase]
  split
  · rw [List.mem_singleton]
    by_cases upper : c.isUpper = true
    · have lower : c.toLower.isLower = true := by
        rw [Char.isLower_toLower_eq_isAlpha, Char.isAlpha, upper, Bool.true_or]
      intro same
      rw [← same] at lower
      exact absurd lower (by decide)
    · rw [Char.toLower_eq_of_not_isUpper upper]
      exact other.symm
  · exact Casing.not_mem_mapped (by decide) Casing.toLowerExpansions_images
      Casing.toLowerRanges_above other

theorem mark_not_mem_snakeCase (s : String) : '#' ∉ (snakeCase s).toList := by
  intro member
  rcases mem_snakeCase member with same | ⟨word, ofText, inside⟩
  · exact absurd same (by decide)
  · rcases mem_lowerWord inside with final | ⟨d, ofWord, lower⟩
    · exact absurd final (by decide)
    · exact mark_not_mem_toLowercase (mem_of_mem_words ofText ofWord).2 lower

/-- A text without letters and numbers has no words. -/
theorem snakeCase_of_filter {s : String} (none : s.toList.filter isAlphanumeric = []) :
    snakeCase s = "" := by
  have nothing : words s = [] := by
    rw [List.eq_nil_iff_forall_not_mem]
    intro word member
    rw [← flatten_words, List.flatten_eq_nil_iff] at none
    exact ne_nil_of_mem_words member (none word member)
  rw [snakeCase, nothing]
  rfl

theorem isAlphanumeric_of_ascii {c : Char} (ascii : c.toNat < 0x80) :
    isAlphanumeric c = c.isAlphanum :=
  if_pos ascii

theorem isLower_or_isDigit_toLower {c : Char} (alphanum : c.isAlphanum = true) :
    c.toLower.isLower = true ∨ c.toLower.isDigit = true := by
  rw [Char.isAlphanum, Bool.or_eq_true] at alphanum
  rcases alphanum with alpha | digit
  · exact .inl (by rw [Char.isLower_toLower_eq_isAlpha, alpha])
  · rw [Char.toLower_eq_of_not_isUpper (Bool.eq_false_iff.mp (not_isUpper_of_isDigit digit))]
    exact .inr digit

section
variable {name : String} (ascii : ∀ c ∈ name.toList, c.toNat < 0x80)
include ascii

theorem lowerWord_of_ascii {word : List Char} (member : word ∈ words name) :
    (∀ c ∈ word, c.isAlphanum = true) ∧ lowerWord word = word.map Char.toLower := by
  have each : ∀ c ∈ word, c.isAlphanum = true := by
    intro c inside
    obtain ⟨ofName, alphanumeric⟩ := mem_of_mem_words member inside
    rwa [isAlphanumeric_of_ascii (ascii c ofName)] at alphanumeric
  exact ⟨each, lowerWord_of_isAlphanum each⟩

/-- The characters of an ASCII name in snake case. -/
theorem each_snakeCase : ∀ c ∈ (snakeCase name).toList,
    c.isLower = true ∨ c.isDigit = true ∨ c = '_' := by
  intro c member
  rcases mem_snakeCase member with same | ⟨word, ofName, inside⟩
  · exact .inr (.inr same)
  · obtain ⟨each, lowered⟩ := lowerWord_of_ascii ascii ofName
    rw [lowered] at inside
    obtain ⟨d, ofWord, rfl⟩ := List.mem_map.mp inside
    exact (isLower_or_isDigit_toLower (each d ofWord)).imp_right .inl

/-- An ASCII name in snake case starts as its first word does. -/
theorem exists_snakeCase (some : ∃ c ∈ name.toList, c.isAlphanum = true) :
    ∃ first more, (snakeCase name).toList = first :: more ∧
      (first.isLower = true ∨ first.isDigit = true) := by
  obtain ⟨first, rest, split⟩ : ∃ first rest,
      name.toList.filter isAlphanumeric = first :: rest := by
    obtain ⟨c, member, alphanum⟩ := some
    rw [← isAlphanumeric_of_ascii (ascii c member)] at alphanum
    exact List.exists_cons_of_ne_nil (List.ne_nil_of_mem (List.mem_filter.mpr ⟨member, alphanum⟩))
  obtain ⟨word, more, cut⟩ := words_of_filter split
  have member : first :: word ∈ words name := by
    rw [cut]
    exact List.mem_cons_self
  obtain ⟨each, lowered⟩ := lowerWord_of_ascii ascii member
  have start := isLower_or_isDigit_toLower (each first List.mem_cons_self)
  rw [snakeCase, String.toList_ofList, cut, List.map_cons, lowered, List.map_cons]
  cases more with
  | nil => exact ⟨_, _, List.intercalate_singleton, start⟩
  | cons second more => exact ⟨_, _, List.intercalate_cons_cons, start⟩

end

section
variable {name : String} (descriptor : isDescriptor name = true)
include descriptor

theorem isDescriptor_cases : ∃ first rest, name.toList = first :: rest ∧ first.isAlpha = true ∧
    ∀ c ∈ rest, (c.isAlphanum || c == '-') = true := by
  rw [isDescriptor] at descriptor
  cases chars : name.toList with
  | nil => simp [chars] at descriptor
  | cons first rest =>
      rw [chars, Bool.and_eq_true, List.all_eq_true] at descriptor
      exact ⟨first, rest, rfl, descriptor.1, descriptor.2⟩

theorem ascii_of_isDescriptor : ∀ c ∈ name.toList, c.toNat < 0x80 := by
  obtain ⟨first, rest, chars, alpha, others⟩ := isDescriptor_cases descriptor
  rw [chars, List.forall_mem_cons]
  refine ⟨toNat_lt_of_isAlphanum (isAlphanum_of_isAlpha alpha), fun c member => ?_⟩
  rcases Bool.or_eq_true_iff.mp (others c member) with alphanum | hyphen
  · exact toNat_lt_of_isAlphanum alphanum
  · rw [beq_iff_eq.mp hyphen]
    decide

theorem exists_isAlphanum_of_isDescriptor : ∃ c ∈ name.toList, c.isAlphanum = true := by
  obtain ⟨first, rest, chars, alpha, -⟩ := isDescriptor_cases descriptor
  exact ⟨first, by rw [chars]; exact List.mem_cons_self, isAlphanum_of_isAlpha alpha⟩

end

end DirSchema.Text
