import DirSchema.Model.Basic
import Mathlib.Data.List.Nodup
import Mathlib.Data.List.Perm.Subperm
set_option autoImplicit false

namespace DirSchema

private theorem Text.decimal_injective : Function.Injective Text.decimal := by
  intro m n same
  have digits : Nat.toDigits 10 m = Nat.toDigits 10 n := by
    rw [← String.toList_ofList (l := Nat.toDigits 10 m),
      ← String.toList_ofList (l := Nat.toDigits 10 n)]
    exact congrArg String.toList same
  have value := congrArg (Nat.ofDigitChars 10 · 0) digits
  simp only [Nat.ofDigitChars_toDigits (b := 10) (by decide) (by decide)] at value
  exact value

namespace Model

private theorem numbered_injective (base : String) : Function.Injective (numbered base) := by
  intro m n same
  have digits : (base ++ "_").toList ++ (Text.decimal m).toList =
      (base ++ "_").toList ++ (Text.decimal n).toList := by
    rw [← String.toList_append, ← String.toList_append]
    exact congrArg String.toList same
  exact Text.decimal_injective (String.toList_inj.mp (List.append_cancel_left digits))

/-- The first free name has the smallest number that is free. It is one of the numbers from two on, of
which it takes one more than there are names. -/
theorem firstFree_eq (taken : List String) (base : String) :
    ∃ n, firstFree taken base = numbered base n ∧ 2 ≤ n ∧ n ≤ taken.length + 2 ∧
      (∀ m, 2 ≤ m → m < n → numbered base m ∈ taken) ∧ numbered base n ∉ taken := by
  rw [firstFree, List.find?_map]
  cases free : (List.range (taken.length + 1)).find?
      ((fun name => !taken.contains name) ∘ fun i => numbered base (i + 2)) with
  | some i =>
      obtain ⟨found, inside, before⟩ := List.find?_range_eq_some.mp free
      rw [List.mem_range] at inside
      refine ⟨i + 2, rfl, by omega, by omega, fun m enough below => ?_, by simpa using found⟩
      have earlier := before (m - 2) (by omega)
      rw [Function.comp_apply, Nat.sub_add_cancel enough] at earlier
      simpa using earlier
  | none =>
      -- More candidates than there are names cannot all be among the names.
      exfalso
      have candidates : ((List.range (taken.length + 1)).map
          fun i => numbered base (i + 2)).Nodup :=
        List.nodup_range.map fun i j same => by
          have := numbered_injective base same
          omega
      have among : (List.range (taken.length + 1)).map (fun i => numbered base (i + 2)) ⊆
          taken := by
        intro name member
        obtain ⟨i, inside, rfl⟩ := List.mem_map.mp member
        simpa using List.find?_eq_none.mp free i inside
      have fewer := (candidates.subperm among).length_le
      rw [List.length_map, List.length_range] at fewer
      omega

/-- The name that a field gets while some names are taken: its own if that is free, or else its base
with the smallest number from two on that makes it free. -/
inductive Chosen (taken : List String) (name : String) : String → Prop
  | kept (free : name ∉ taken) : Chosen taken name name
  | counted (n : Nat) (collides : name ∈ taken) (enough : 2 ≤ n) (few : n ≤ taken.length + 2)
      (occupied : ∀ m, 2 ≤ m → m < n → numbered (numberedBase name) m ∈ taken)
      (free : numbered (numberedBase name) n ∉ taken) :
      Chosen taken name (numbered (numberedBase name) n)

theorem chosen_distinctName (taken : List String) (name : String) :
    Chosen taken name (distinctName taken name) := by
  rw [distinctName]
  split
  · rename_i collides
    obtain ⟨n, found, enough, few, occupied, free⟩ := firstFree_eq taken (numberedBase name)
    rw [found]
    exact .counted n (List.contains_iff_mem.mp collides) enough few occupied free
  · rename_i own
    exact .kept fun collides => own (List.contains_iff_mem.mpr collides)

private theorem Chosen.not_mem {taken : List String} {name chosen : String}
    (choice : Chosen taken name chosen) : chosen ∉ taken := by
  cases choice <;> assumption

/-- A field keeps its name exactly if it is free. -/
theorem Chosen.eq_iff {taken : List String} {name chosen : String}
    (choice : Chosen taken name chosen) : chosen = name ↔ name ∉ taken := by
  cases choice with
  | kept free => exact iff_of_true rfl free
  | counted n collides enough few occupied free =>
      refine iff_of_false (fun same => ?_) (not_not_intro collides)
      rw [same] at free
      exact free collides

/-- The order in which names were taken does not matter. -/
theorem Chosen.perm {taken others : List String} {name chosen : String}
    (same : taken.Perm others) (choice : Chosen taken name chosen) :
    Chosen others name chosen := by
  cases choice with
  | kept free => exact .kept fun member => free (same.mem_iff.mpr member)
  | counted n collides enough few occupied free =>
      rw [same.length_eq] at few
      exact .counted n (same.mem_iff.mp collides) enough few
        (fun m large below => same.mem_iff.mp (occupied m large below))
        fun member => free (same.mem_iff.mpr member)

@[simp] theorem length_distinctNames (taken names : List String) :
    (distinctNames taken names).length = names.length := by
  induction names generalizing taken with
  | nil => rfl
  | cons name rest ih => rw [distinctNames, List.length_cons, ih, List.length_cons]

/-- Names that were taken stay free of fields, and no two fields share a name. -/
theorem nodup_distinctNames {taken : List String} (nodup : taken.Nodup) (names : List String) :
    (taken ++ distinctNames taken names).Nodup := by
  induction names generalizing taken with
  | nil => simpa [distinctNames] using nodup
  | cons name rest ih =>
      have free := (chosen_distinctName taken name).not_mem
      have more := ih (List.nodup_cons.mpr ⟨free, nodup⟩)
      rw [distinctNames]
      exact (List.perm_middle : List.Perm (taken ++ _ :: _) _).nodup_iff.mpr more

/-- What every name that is kept and every numbered name has, all distinct names have. -/
theorem forall_mem_distinctNames {p : String → Prop} {names : List String}
    (kept : ∀ name ∈ names, p name)
    (numbers : ∀ name ∈ names, ∀ n, p (numbered (numberedBase name) n)) (taken : List String) :
    ∀ name ∈ distinctNames taken names, p name := by
  induction names generalizing taken with
  | nil => nofun
  | cons first rest ih =>
      rw [List.forall_mem_cons] at kept numbers
      rw [distinctNames, List.forall_mem_cons]
      refine ⟨?_, ih kept.2 numbers.2 _⟩
      have choice := chosen_distinctName taken first
      generalize distinctName taken first = chosen at choice ⊢
      cases choice with
      | kept free => exact kept.1
      | counted n => exact numbers.1 n

private theorem Field.map_fieldName_rename {fields : List Field} {names : List String}
    (enough : fields.length ≤ names.length) :
    (Field.rename fields names).map (·.fieldName) = names.take fields.length := by
  induction fields generalizing names with
  | nil => rfl
  | cons field rest ih =>
      cases names with
      | nil => simp at enough
      | cons name names =>
          rw [Field.rename, List.map_cons, ih (by simpa using enough), List.length_cons,
            List.take_succ_cons]

/-- Renaming a field changes its field name alone. -/
theorem Field.map_rename {α : Type} (f : Field → α)
    (blind : ∀ (field : Field) (name : String), f { field with fieldName := name } = f field)
    (fields : List Field) (names : List String) :
    (Field.rename fields names).map f = fields.map f := by
  induction fields generalizing names with
  | nil => rfl
  | cons field rest ih =>
      cases names with
      | nil => rfl
      | cons name names => rw [Field.rename, List.map_cons, blind, ih, List.map_cons]

/-- Names are given to required fields first and to optional ones after them. -/
theorem Field.map_fieldName_renamed {required optional : List Field} {names : List String}
    (length : names.length = required.length + optional.length) :
    (Field.rename required names ++ Field.rename optional (names.drop required.length)).map
      (·.fieldName) = names := by
  have rest : (names.drop required.length).length = optional.length := by
    rw [List.length_drop]
    omega
  rw [List.map_append, Field.map_fieldName_rename (by omega),
    Field.map_fieldName_rename (Nat.le_of_eq rest.symm), List.take_of_length_le (Nat.le_of_eq rest),
    List.take_append_drop]

/-- The names that fields of a class may not have. -/
def takenNames (hasParent : Bool) : List String := if hasParent then [parentField] else []

/-- The field names of a class are the distinct forms of those that its attributes have by
themselves. -/
theorem fieldNames_withDistinctFields (view : ClassView) (hasParent : Bool) :
    ((view.withDistinctFields hasParent).required ++
        (view.withDistinctFields hasParent).optional).map (·.fieldName) =
      distinctNames (takenNames hasParent)
        ((view.required ++ view.optional).map (·.fieldName)) := by
  apply Field.map_fieldName_renamed
  rw [length_distinctNames, List.length_map, List.length_append]

/-- Fields have distinct names, none of which a subclass embeds its parent in. -/
theorem nodup_fieldNames (view : ClassView) (hasParent : Bool) :
    (takenNames hasParent ++ ((view.withDistinctFields hasParent).required ++
      (view.withDistinctFields hasParent).optional).map (·.fieldName)).Nodup := by
  rw [fieldNames_withDistinctFields]
  apply nodup_distinctNames
  cases hasParent <;> simp [takenNames]

end Model
end DirSchema
