import DirSchema.Schema.ObjectClass
import Mathlib.Data.List.Induction
import Mathlib.Data.List.Nodup
set_option autoImplicit false

namespace DirSchema

section EraseDups
variable {α : Type} [BEq α] [LawfulBEq α] {values : List α}

theorem eraseDups_concat (values : List α) (value : α) :
    (values ++ [value]).eraseDups =
      if value ∈ values then values.eraseDups else values.eraseDups ++ [value] := by
  rw [List.eraseDups_append]
  by_cases old : value ∈ values
  · simp [old, List.removeAll]
  · simp [old, List.removeAll, List.eraseDups_cons]

theorem nodup_eraseDups (values : List α) : values.eraseDups.Nodup := by
  induction values using List.reverseRecOn with
  | nil => exact List.nodup_nil
  | append_singleton rest last ih =>
      rw [eraseDups_concat]
      split
      · exact ih
      · rename_i new
        have absent : last ∉ rest.eraseDups := by rwa [List.mem_eraseDups]
        rw [← List.concat_eq_append]
        exact ih.concat absent

theorem eraseDups_of_nodup (once : values.Nodup) : values.eraseDups = values := by
  induction values using List.reverseRecOn with
  | nil => rfl
  | append_singleton rest last ih =>
      obtain ⟨front, -, apart⟩ := List.nodup_append.mp once
      have new : last ∉ rest := fun old => apart last old last (List.mem_singleton_self last) rfl
      rw [eraseDups_concat, if_neg new, ih front]

theorem eraseDups_sublist (values : List α) : values.eraseDups.Sublist values := by
  induction values using List.reverseRecOn with
  | nil => exact .refl _
  | append_singleton rest last ih =>
      rw [eraseDups_concat]
      split
      · exact ih.trans (List.sublist_append_left rest [last])
      · exact ih.append (.refl _)

theorem eraseDups_filter (p : α → Bool) (values : List α) :
    (values.filter p).eraseDups = values.eraseDups.filter p := by
  induction values using List.reverseRecOn with
  | nil => rfl
  | append_singleton rest last ih =>
      rw [List.filter_append, eraseDups_concat]
      by_cases picked : p last = true
      · rw [List.filter_cons_of_pos picked, List.filter_nil, eraseDups_concat, ih]
        by_cases old : last ∈ rest <;> simp [old, picked]
      · rw [List.filter_cons_of_neg picked, List.filter_nil, List.append_nil, ih]
        by_cases old : last ∈ rest <;> simp [old, picked]

end EraseDups

section KeepNew
variable {α : Type} (same : α → α → Bool)

/-- A list that takes up one more value unless it has the same one already. -/
def keepNew (kept : List α) (value : α) : List α :=
  if kept.any (same value) then kept else kept ++ [value]

/-- Values taken up one after another are those that come first among the same ones. -/
theorem foldl_keepNew (kept values : List α) :
    values.foldl (keepNew same) kept =
      kept ++ (values.filter fun value => !kept.any (same value)).eraseDupsBy same := by
  induction values generalizing kept with
  | nil => simp
  | cons first rest ih =>
      rw [List.foldl_cons, ih, keepNew]
      by_cases old : kept.any (same first) = true
      · simp [old]
      · have later : (rest.filter fun value => !(kept ++ [first]).any (same value)) =
            (rest.filter fun value => !kept.any (same value)).filter
              fun value => same value first = false := by
          rw [List.filter_filter]
          congr 1
          funext value
          rw [List.any_append]
          cases kept.any (same value) <;> cases again : same value first <;> simp [again]
        rw [if_neg old, later, List.filter_cons_of_pos (by simpa using old),
          List.eraseDupsBy_cons, List.append_assoc, List.singleton_append]

/-- What was to be taken up is there in the end. -/
theorem any_foldl_keepNew (refl : ∀ value, same value value = true) {kept values : List α}
    {value : α} (member : value ∈ values) :
    (values.foldl (keepNew same) kept).any (same value) = true := by
  obtain ⟨before, after, rfl⟩ := List.append_of_mem member
  have here : (keepNew same (before.foldl (keepNew same) kept) value).any (same value) = true := by
    rw [keepNew]
    split
    · assumption
    · simp [refl]
  rw [List.foldl_append, List.foldl_cons, foldl_keepNew, List.any_append, here, Bool.true_or]

/-- What was taken up is not taken up again. -/
theorem foldl_keepNew_again (refl : ∀ value, same value value = true) (kept values : List α) :
    values.foldl (keepNew same) (values.foldl (keepNew same) kept) =
      values.foldl (keepNew same) kept := by
  have old : (values.filter fun value =>
      !(values.foldl (keepNew same) kept).any (same value)) = [] := by
    rw [List.filter_eq_nil_iff]
    intro value member
    simp [any_foldl_keepNew same refl member]
  rw [foldl_keepNew, old]
  simp

end KeepNew

/-- Names inserted one after another are kept once each, where they were first seen. -/
theorem foldl_insertName (names : List String) : names.foldl insertName [] = names.eraseDups := by
  have step : insertName = keepNew (· == ·) := by
    funext names name
    rw [insertName, keepNew, List.contains_eq_any_beq]
  rw [step, foldl_keepNew]
  simp [List.eraseDups]

theorem nodup_insertName {names : List String} (nodup : names.Nodup) (name : String) :
    (insertName names name).Nodup := by
  rw [insertName]
  split
  · exact nodup
  · rename_i new
    have absent : name ∉ names := fun old => new (List.contains_iff_mem.mpr old)
    rw [← List.concat_eq_append]
    exact nodup.concat absent

end DirSchema
