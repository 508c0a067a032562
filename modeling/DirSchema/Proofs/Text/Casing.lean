import DirSchema.Text.Casing
import Mathlib.Data.List.Basic
set_option autoImplicit false

namespace DirSchema.Text

namespace Casing

theorem toUpperExpansions_images :
    ∀ entry ∈ toUpperExpansions, entry.2 ≠ [] ∧ ∀ n ∈ entry.2, '/'.toNat < n := by
  decide +kernel

private theorem toUpperRanges_above :
    ∀ entry ∈ toUpperRanges, ('/'.toNat : Int) < entry.1 + entry.2.2.2 := by
  decide +kernel

theorem toLowerExpansions_images : ∀ entry ∈ toLowerExpansions, ∀ n ∈ entry.2, '#'.toNat < n := by
  decide +kernel

theorem toLowerRanges_above :
    ∀ entry ∈ toLowerRanges, ('#'.toNat : Int) < entry.1 + entry.2.2.2 := by
  decide +kernel

/-- A number beyond that of a character is none of it, valid or not. -/
theorem ofNat_ne {mark : Char} (solid : mark ≠ Char.ofNat 0) {n : Nat} (above : mark.toNat < n) :
    Char.ofNat n ≠ mark := by
  intro same
  by_cases valid : n.isValidChar
  · have number : (Char.ofNat n).toNat = n := by
      rw [Char.ofNat, dif_pos valid]
      rfl
    rw [same] at number
    omega
  · rw [Char.ofNat, dif_neg valid] at same
    exact solid same.symm

/-- What a character is mapped to is the character itself, or beyond what all images are beyond. -/
theorem not_mem_mapped {expansions : List (Nat × List Nat)} {shifts : List (Nat × Nat × Nat × Int)}
    {mark : Char} (solid : mark ≠ Char.ofNat 0)
    (images : ∀ entry ∈ expansions, ∀ n ∈ entry.2, mark.toNat < n)
    (above : ∀ entry ∈ shifts, (mark.toNat : Int) < entry.1 + entry.2.2.2) {c : Char}
    (other : c ≠ mark) : mark ∉ mapped expansions shifts c := by
  rw [mapped]
  cases expanded : expansions.lookup c.toNat with
  | some image =>
      obtain ⟨before, after, split, -⟩ := List.lookup_eq_some_iff.mp expanded
      intro member
      obtain ⟨n, inside, same⟩ := List.mem_map.mp member
      exact ofNat_ne solid (images (c.toNat, image) (by rw [split]; simp) n inside) same
  | none =>
      simp only
      split
      · rename_i low high step distance found
        have beyond := above _ (List.mem_of_find?_eq_some found)
        have covered := List.find?_some found
        simp only [Bool.and_eq_true, decide_eq_true_eq] at covered
        rw [List.mem_singleton]
        apply Ne.symm
        apply ofNat_ne solid
        simp only at beyond
        omega
      · simpa using other.symm

private theorem mapped_toUpper_ne_nil (c : Char) :
    mapped toUpperExpansions toUpperRanges c ≠ [] := by
  rw [mapped]
  cases expanded : toUpperExpansions.lookup c.toNat with
  | some image =>
      obtain ⟨before, after, split, -⟩ := List.lookup_eq_some_iff.mp expanded
      have nonempty := (toUpperExpansions_images (c.toNat, image) (by rw [split]; simp)).1
      simpa using nonempty
  | none =>
      simp only
      split <;> exact List.cons_ne_nil _ _

end Casing

private theorem toUpper_ne_separator {c : Char} (other : c ≠ '/') : c.toUpper ≠ '/' := by
  delta Char.toUpper
  split
  · rename_i lower
    intro same
    have code := congrArg (fun d : Char => d.val.toNat) same
    have low := UInt32.le_iff_toNat_le.mp lower.1
    have high := UInt32.le_iff_toNat_le.mp lower.2
    simp only [UInt32.toNat_add, Char.reduceVal] at code low high
    simp at code low high
    omega
  · exact other

private theorem toUppercase_ne_nil (c : Char) : toUppercase c ≠ [] := by
  rw [toUppercase]
  split
  · exact List.cons_ne_nil _ _
  · exact Casing.mapped_toUpper_ne_nil c

private theorem separator_not_mem_toUppercase {c : Char} (other : c ≠ '/') :
    '/' ∉ toUppercase c := by
  rw [toUppercase]
  split
  · simpa using (toUpper_ne_separator other).symm
  · exact Casing.not_mem_mapped (by decide)
      (fun entry member => (Casing.toUpperExpansions_images entry member).2)
      Casing.toUpperRanges_above other

theorem separator_not_mem_capitalize {text : String} (single : '/' ∉ text.toList) :
    '/' ∉ (capitalize text).toList := by
  rw [capitalize]
  cases chars : text.toList with
  | nil => exact List.not_mem_nil
  | cons first rest =>
      rw [chars, List.mem_cons, not_or] at single
      simp only [String.toList_ofList, List.mem_append, not_or]
      exact ⟨separator_not_mem_toUppercase (Ne.symm single.1), single.2⟩

theorem capitalize_ne_empty {text : String} (nonempty : text ≠ "") : capitalize text ≠ "" := by
  rw [capitalize]
  cases chars : text.toList with
  | nil => exact absurd (String.toList_eq_nil_iff.mp chars) nonempty
  | cons first rest =>
      intro empty
      have nothing := congrArg String.toList empty
      simp only [String.toList_ofList] at nothing
      exact toUppercase_ne_nil first (List.append_eq_nil_iff.mp nothing).1

end DirSchema.Text
