import DirSchema.Proofs.Schema.Registration
import DirSchema.Template.Render
set_option autoImplicit false

namespace DirSchema

namespace Datum

private theorem lookup_insertSorted (key sought : String) (value : Datum)
    (fields : List (String × Datum)) :
    (insertSorted key value fields).lookup sought =
      if sought = key then some value else fields.lookup sought := by
  induction fields with
  | nil => exact lookup_cons_ite key sought value []
  | cons field rest ih =>
      obtain ⟨name, stored⟩ := field
      rw [insertSorted]
      split
      · rename_i before
        have other : name ≠ key := fun same => String.lt_irrefl key (same ▸ before)
        rw [lookup_cons_ite, lookup_cons_ite, ih]
        by_cases here : sought = name <;> simp [here, other]
      · exact lookup_cons_ite key sought value _

private theorem lookup_sortedFields (fields : List (String × Datum)) (sought : String) :
    (sortedFields fields).lookup sought = (fields.lookup sought).map sorted := by
  induction fields with
  | nil => rfl
  | cons field rest ih =>
      obtain ⟨name, stored⟩ := field
      rw [sortedFields, lookup_insertSorted, ih, lookup_cons_ite]
      by_cases here : sought = name <;> simp [here]

theorem sortedItems_eq (items : List Datum) : sortedItems items = items.map sorted := by
  induction items with
  | nil => rfl
  | cons item rest ih => rw [sortedItems, ih, List.map_cons]

end Datum

namespace Template.Scopes

private theorem member?_sorted (name : String) (datum : Datum) :
    member? name datum.sorted = (member? name datum).map (Option.map Datum.sorted) := by
  cases datum with
  | list items =>
      rw [Datum.sorted, member?, member?, Datum.sortedItems_eq]
      cases index? name with
      | none => rfl
      | some index => simp [Except.map]
  | record fields => rw [Datum.sorted, member?, member?, Datum.lookup_sortedFields]; rfl
  | null => rfl
  | bool value => rfl
  | number value => rfl
  | text value => rfl

theorem navigate_sorted (value : Option Datum) (names : List String) :
    navigate (value.map Datum.sorted) names =
      (navigate value names).map (Option.map Datum.sorted) := by
  induction names generalizing value with
  | nil => rfl
  | cons name rest ih =>
      cases value with
      | none => rfl
      | some datum =>
          rw [Option.map_some, navigate, navigate, member?_sorted]
          cases member? name datum with
          | error reason => rfl
          | ok found => exact ih found

/-- No block around a place has given a name. -/
def Unnamed (scopes : Scopes) : Prop := ∀ scope ∈ scopes.stack, scope.names = []

private theorem namesOf_names (names : List String) : namesOf (names.map .name) = names := by
  rw [namesOf, List.filterMap_map]
  exact List.filterMap_some

private theorem Unnamed.given? {scopes : Scopes} (unnamed : scopes.Unnamed) (name : String) :
    scopes.given? name = none := by
  rw [Scopes.given?, List.findSome?_eq_none_iff]
  intro scope member
  rw [unnamed scope member]
  rfl

theorem path_names {scopes : Scopes} (unnamed : scopes.Unnamed) (names : List String) :
    scopes.path (names.map .name) = navigate (some scopes.current) names := by
  have level : (((names.map Segment.name).takeWhile (· == .up)).length) = 0 := by
    cases names <;> rfl
  cases names with
  | nil => rfl
  | cons name rest =>
      simp only [path, level, List.drop_zero, namesOf_names, if_pos]
      rw [List.map_cons]
      simp only [unnamed.given?]

end Template.Scopes
end DirSchema
