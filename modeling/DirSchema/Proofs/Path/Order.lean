import DirSchema.Proofs.Path.Components
import Mathlib.Data.Prod.Lex
import Mathlib.Data.String.Basic
set_option autoImplicit false

namespace DirSchema.Path

open DirSchema.Text

namespace Component

def rank : Component → Nat ×ₗ String
  | .root => toLex (0, "")
  | .current => toLex (1, "")
  | .up => toLex (2, "")
  | .normal name => toLex (3, name)

private theorem rank_injective : Function.Injective rank := by
  intro x y same
  cases x <;> cases y <;> simp_all [rank]

private theorem le_iff (x y : Component) : x.le y = true ↔ x.rank ≤ y.rank := by
  cases x <;> cases y <;> simp [Component.le, rank, Prod.Lex.toLex_le_toLex]

end Component

private theorem go_iff (xs ys : List Component) :
    le.go xs ys = true ↔ ¬ ys.map Component.rank < xs.map Component.rank := by
  induction xs generalizing ys with
  | nil => simp [le.go]
  | cons x xs ih =>
      cases ys with
      | nil => simp [le.go]
      | cons y ys =>
          rw [le.go, List.map_cons, List.map_cons, List.cons_lt_cons_iff]
          by_cases same : x = y
          · rw [if_pos same, ih, same]
            simp
          · have apart : x.rank ≠ y.rank := fun equal => same (Component.rank_injective equal)
            rw [if_neg same, Component.le_iff, ← not_lt]
            simp [apart.symm]

/-- Paths are compared by the ranks of their components. -/
theorem le_iff (a b : String) :
    le a b = true ↔ (components a).map Component.rank ≤ (components b).map Component.rank :=
  (go_iff _ _).trans not_lt

private theorem le_trans {a b c : String} (first : le a b = true) (second : le b c = true) :
    le a c = true := by
  rw [le_iff] at *
  exact first.trans second

private theorem le_total (a b : String) : (le a b || le b a) = true := by
  rw [Bool.or_eq_true, le_iff, le_iff]
  exact Std.le_total

theorem pairwise_mergeSort (paths : List String) :
    (paths.mergeSort le).Pairwise fun a b => le a b = true := by
  apply List.pairwise_mergeSort
  · intro a b c first second
    exact le_trans first second
  · exact le_total

def ofNames (steps : List String) : String := String.intercalate "/" steps

section Join

variable {a b c : String}

/-- What stands in front of a path that is joined to another one. -/
def fore (directory : String) : List Char :=
  if directory = "" then []
  else if directory.toList.getLast? = some '/' then directory.toList
  else directory.toList ++ ['/']

theorem toList_join (relative : isAbsolute b = false) :
    (join a b).toList = fore a ++ b.toList := by
  rw [join, relative, Bool.false_or, fore]
  by_cases empty : a = ""
  · rw [if_pos (String.isEmpty_iff.mpr empty), if_pos empty]
    rfl
  rw [if_neg (mt String.isEmpty_iff.mp empty), if_neg empty]
  split
  · exact String.toList_append
  · rw [String.toList_append, String.toList_append]
    rfl

private theorem join_ne_empty (some : b ≠ "") (relative : isAbsolute b = false) :
    join a b ≠ "" := by
  rw [Ne, ← String.toList_eq_nil_iff, toList_join relative, List.append_eq_nil_iff,
    String.toList_eq_nil_iff]
  exact fun none => some none.2

private theorem fore_join (some : b ≠ "") (relative : isAbsolute b = false) :
    fore (join a b) = fore a ++ fore b := by
  have nonempty : b.toList ≠ [] := mt String.toList_eq_nil_iff.mp some
  rw [fore, if_neg (join_ne_empty some relative), toList_join relative,
    List.getLast?_append_of_ne_nil _ nonempty, fore.eq_def b, if_neg some]
  split
  · rfl
  · exact List.append_assoc ..

theorem isAbsolute_join (some : b ≠ "") (relative : isAbsolute b = false)
    (below : isAbsolute c = false) : isAbsolute (join b c) = false := by
  have nonempty : b.toList ≠ [] := mt String.toList_eq_nil_iff.mp some
  rw [isAbsolute_eq] at relative
  rw [isAbsolute_eq, toList_join below, fore, if_neg some]
  split
  · rw [List.head?_append_of_ne_nil _ nonempty, relative]
  · rw [List.append_assoc, List.head?_append_of_ne_nil _ nonempty, relative]

/-- What is joined to a joined path is joined to its second part. -/
theorem join_assoc (some : b ≠ "") (relative : isAbsolute b = false)
    (below : isAbsolute c = false) : join (join a b) c = join a (join b c) := by
  rw [← String.toList_inj, toList_join below, fore_join some relative,
    toList_join (isAbsolute_join some relative below), toList_join below, List.append_assoc]

end Join

section Names

theorem IsName.ne_empty {step : String} (isName : IsName step.toList) : step ≠ "" :=
  mt String.toList_eq_nil_iff.mpr isName.nonempty

variable {steps others : List String}

theorem ofNames_cons {step next : String} {rest : List String} (isName : IsName step.toList)
    (relative : isAbsolute (ofNames (next :: rest)) = false) :
    ofNames (step :: next :: rest) = join step (ofNames (next :: rest)) := by
  have last : step.toList.getLast? ≠ some '/' := fun last =>
    isName.single (List.mem_of_getLast? last)
  rw [← String.toList_inj, toList_join relative, fore, if_neg isName.ne_empty, if_neg last,
    ofNames, ofNames, String.toList_intercalate, String.toList_intercalate, List.map_cons,
    List.map_cons, List.intercalate_cons_cons]
  rfl

variable (named : ∀ step ∈ steps, IsName step.toList)
include named

private theorem isAbsolute_ofNames : isAbsolute (ofNames steps) = false := by
  induction steps with
  | nil => rfl
  | cons step rest ih =>
      rw [List.forall_mem_cons] at named
      have relative := ih named.2
      cases rest with
      | nil => exact named.1.isAbsolute_eq
      | cons next rest =>
          rw [ofNames_cons named.1 relative]
          exact isAbsolute_join named.1.ne_empty named.1.isAbsolute_eq relative

/-- What names lead to from a directory is found by going from one to the next. -/
theorem join_ofNames (nonempty : steps ≠ []) (directory : String) :
    join directory (ofNames steps) = steps.foldl join directory := by
  induction steps generalizing directory with
  | nil => exact absurd rfl nonempty
  | cons step rest ih =>
      rw [List.forall_mem_cons] at named
      cases rest with
      | nil => rfl
      | cons next rest =>
          have relative := isAbsolute_ofNames named.2
          rw [ofNames_cons named.1 relative, List.foldl_cons, ← ih named.2 (List.cons_ne_nil _ _),
            join_assoc named.1.ne_empty named.1.isAbsolute_eq relative]

omit named

variable (down : ∀ step ∈ steps, IsName step.toList ∧ step ≠ "..")
  (otherDown : ∀ step ∈ others, IsName step.toList ∧ step ≠ "..")
include down

theorem ofNames_eq_foldl : ofNames steps = steps.foldl join "" := by
  by_cases none : steps = []
  · rw [none]
    rfl
  · rw [← join_ofNames (fun step member => (down step member).1) none, join,
      show "".isEmpty = true from rfl, Bool.or_true, if_pos rfl]

theorem names_ofNames : names (ofNames steps).toList = steps := by
  rw [ofNames_eq_foldl down, names_foldl_join down]
  rfl

private theorem components_ofNames : components (ofNames steps) = steps.map .normal := by
  rw [ofNames_eq_foldl down, components_foldl_join down]
  rfl

theorem placeFrom_join_ofNames (nonempty : steps ≠ []) (base : Location) (directory : String) :
    placeFrom base (join directory (ofNames steps)) = placeFrom base directory ++ steps := by
  rw [join_ofNames (fun step member => (down step member).1) nonempty,
    placeFrom_foldl_join down]

include otherDown

/-- Paths that only go down are in the order of their names, from the first. -/
theorem le_ofNames_iff : le (ofNames steps) (ofNames others) = true ↔ steps ≤ others := by
  have mono : StrictMono (List.map fun name => (Component.normal name).rank) := fun _ _ =>
    List.map_lt fun first second before => Prod.Lex.toLex_lt_toLex.mpr (.inr ⟨rfl, before⟩)
  rw [le_iff, components_ofNames down, components_ofNames otherDown, List.map_map, List.map_map]
  exact mono.le_iff_le

end Names

end DirSchema.Path
