import DirSchema.Proofs.FileTree.Listing
set_option autoImplicit false

namespace DirSchema

namespace FileTree

open DirSchema.Path

variable {tree other : FileTree} {place : Location} {names : Location} {contents : ByteArray}

private theorem get?_of_mem (distinct : (tree.nodes.map Prod.fst).Nodup) {node : Node}
    (inner : place ≠ []) (member : (place, node) ∈ tree.nodes) : tree.get? place = some node := by
  obtain ⟨before, after, split⟩ := List.append_of_mem member
  rw [get?, if_neg inner, List.lookup_eq_some_iff]
  refine ⟨before, after, split, ?_⟩
  intro entry earlier
  rw [split, List.map_append, List.nodup_append] at distinct
  rw [bne_iff_ne]
  exact (distinct.2.2 _ (List.mem_map_of_mem earlier) place (by simp)).symm

private theorem mem_filesBelow : (names, contents) ∈ tree.filesBelow place ↔
    names ≠ [] ∧ (place ++ names, .file contents) ∈ tree.nodes := by
  rw [filesBelow, List.mem_filterMap]
  constructor
  · rintro ⟨⟨here, node⟩, member, found⟩
    cases node with
    | directory => cases found
    | file stored =>
        rw [Option.ite_none_right_eq_some, Bool.and_eq_true, List.isPrefixOf_iff_prefix,
          bne_iff_ne] at found
        obtain ⟨⟨⟨rest, rfl⟩, apart⟩, same⟩ := found
        rw [List.drop_left] at same
        cases same
        exact ⟨by simpa using apart, member⟩
  · rintro ⟨nonempty, member⟩
    refine ⟨_, member, ?_⟩
    rw [Option.ite_none_right_eq_some, Bool.and_eq_true, List.isPrefixOf_iff_prefix, bne_iff_ne,
      List.drop_left]
    exact ⟨⟨List.prefix_append _ _, by simpa using nonempty⟩, rfl⟩

def namesBelow (tree : FileTree) (place : Location) : List Location :=
  (tree.filesBelow place).map Prod.fst

theorem mem_namesBelow (distinct : (tree.nodes.map Prod.fst).Nodup) :
    names ∈ tree.namesBelow place ↔ names ≠ [] ∧ (tree.fileAt? (place ++ names)).isSome := by
  rw [namesBelow, List.mem_map, Option.isSome_iff_exists]
  constructor
  · rintro ⟨⟨_, contents⟩, member, rfl⟩
    obtain ⟨nonempty, stored⟩ := mem_filesBelow.mp member
    have there := get?_of_mem distinct (by simp [nonempty]) stored
    exact ⟨nonempty, contents, fileAt?_eq_some.mpr there⟩
  · rintro ⟨nonempty, contents, file⟩
    have stored := mem_nodes_of_get? (by simp [nonempty]) (fileAt?_eq_some.mp file)
    exact ⟨_, mem_filesBelow.mpr ⟨nonempty, stored⟩, rfl⟩

/-- The names that lead to a file are names of entries. -/
theorem Proper.down (proper : tree.Proper) (member : names ∈ tree.namesBelow place) :
    ∀ name ∈ names, IsName name.toList ∧ name ≠ ".." := by
  obtain ⟨nonempty, file⟩ := (mem_namesBelow proper.distinct).mp member
  obtain ⟨contents, file⟩ := Option.isSome_iff_exists.mp file
  have stored := mem_nodes_of_get? (by simp [nonempty]) (fileAt?_eq_some.mp file)
  exact fun name among => proper.named _ stored name (List.mem_append_right _ among)

section Congr

variable (same : ∀ place, other.get? place = tree.get? place)
include same

private theorem descend_congr (start : Location) (steps : List String) :
    other.descend start steps = tree.descend start steps := by
  induction steps generalizing start with
  | nil => rfl
  | cons step rest ih => simp only [descend, same, ih]

/-- What stands at the places of a tree decides what is found there, in whatever order the tree
lists them. -/
theorem find_congr (base : other.base = tree.base) (path : String) :
    other.find path = tree.find path := by
  simp only [find, locate, base, same, descend_congr same]

end Congr

theorem place_of_find {path : String} {node : Node} (found : tree.find path = .ok (place, node)) :
    place = placeFrom tree.base path := by
  rw [find] at found
  cases located : tree.locate path with
  | error error =>
      rw [located] at found
      cases found
  | ok target =>
      obtain ⟨-, location, -⟩ := reaches_of_locate located
      rw [located] at found
      rcases target with ⟨_, _ | _ | _, _ | _⟩ <;> cases found <;> exact location

theorem Proper.below_of_file (proper : tree.Proper) {name : String}
    (file : (tree.fileAt? (place ++ [name])).isSome) :
    [name] ∈ tree.namesBelow place ∧ ∀ step ∈ [name], IsName step.toList ∧ step ≠ ".." := by
  have below := (mem_namesBelow proper.distinct).mpr ⟨List.cons_ne_nil name [], file⟩
  exact ⟨below, proper.down below⟩

end FileTree
end DirSchema
