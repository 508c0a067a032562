import DirSchema.Proofs.FileTree.Contents
import DirSchema.Proofs.FileTree.Roots
import DirSchema.Proofs.Path.Components
import Mathlib.Data.List.Nodup
set_option autoImplicit false

namespace DirSchema.FileTree

open DirSchema.Path

variable {tree : FileTree} {place other : Location} {node : Node} {path : String}
  {front name : List Char}

/-- A tree as a file system has it: every place is there once and is spelled by names, and
everything stands in a directory. -/
structure Proper (tree : FileTree) : Prop where
  wellFormed : tree.WellFormed
  distinct : (tree.nodes.map Prod.fst).Nodup
  named : ∀ entry ∈ tree.nodes, ∀ name ∈ entry.1, IsName name.toList ∧ name ≠ ".."

instance (tree : FileTree) : Decidable tree.Proper :=
  decidable_of_iff
    (tree.WellFormed ∧ (tree.nodes.map Prod.fst).Nodup ∧
      ∀ entry ∈ tree.nodes, ∀ name ∈ entry.1, IsName name.toList ∧ name ≠ "..")
    ⟨fun ⟨wellFormed, distinct, named⟩ => ⟨wellFormed, distinct, named⟩,
      fun proper => ⟨proper.wellFormed, proper.distinct, proper.named⟩⟩

section Erase

@[simp] theorem base_erase (tree : FileTree) (place : Location) :
    (tree.erase place).base = tree.base := rfl

private theorem get?_erase_self (inner : place ≠ []) : (tree.erase place).get? place = none := by
  rw [get?, if_neg inner, erase, List.lookup_eq_none_iff]
  intro entry member
  rw [List.mem_filter] at member
  rw [bne_comm]
  exact member.2

theorem get?_erase_of_ne (apart : other ≠ place) : (tree.erase place).get? other = tree.get? other := by
  rw [get?, get?, erase]
  split
  · rfl
  · exact lookup_filter_of_ne apart tree.nodes

/-- Nothing stands in a file. -/
theorem WellFormed.erase {contents : ByteArray} (wellFormed : tree.WellFormed)
    (file : tree.get? place = some (.file contents)) : (tree.erase place).WellFormed := by
  have kept (other : Location) (here : tree.get? other = some .directory) :
      (tree.erase place).get? other = some .directory := by
    rw [get?_erase_of_ne]
    · exact here
    · rintro rfl
      rw [file] at here
      cases here
  refine ⟨kept _ wellFormed.1, ?_⟩
  intro entry member
  exact kept _ (wellFormed.2 entry (List.mem_of_mem_filter member))

end Erase

/-- A tree from which what stands at some places is gone, which are none of directories. -/
structure Clears (before after : FileTree) (gone : Location → Prop) : Prop where
  base : after.base = before.base
  spares : ∀ {place}, gone place → before.get? place ≠ some .directory
  vacant : ∀ {place}, gone place → after.get? place = none
  kept : ∀ {place}, ¬ gone place → after.get? place = before.get? place

namespace Clears

variable {before middle after : FileTree} {first second gone : Location → Prop}

/-- Nothing has to go from where nothing stands. -/
theorem of_vacant (vacant : ∀ place, gone place → tree.get? place = none) :
    Clears tree tree gone where
  base := rfl
  spares := by
    intro place here
    rw [vacant place here]
    nofun
  vacant := vacant _
  kept := fun _ => rfl

theorem trans (early : Clears before middle first) (late : Clears middle after second) :
    Clears before after fun place => first place ∨ second place where
  base := late.base.trans early.base
  spares := by
    rintro place (here | here)
    · exact early.spares here
    · intro directory
      have spared := late.spares here
      rw [early.kept fun here => early.spares here directory] at spared
      exact spared directory
  vacant := by
    rintro place (here | here)
    · by_cases again : second place
      · exact late.vacant again
      · rw [late.kept again, early.vacant here]
    · exact late.vacant here
  kept := by
    intro place spared
    rw [not_or] at spared
    rw [late.kept spared.2, early.kept spared.1]

theorem congr (clears : Clears before after first) (same : ∀ place, first place ↔ second place) :
    Clears before after second where
  base := clears.base
  spares := fun here => clears.spares ((same _).mpr here)
  vacant := fun here => clears.vacant ((same _).mpr here)
  kept := fun spared => clears.kept fun here => spared ((same _).mp here)

theorem keeps (clears : Clears before after gone) : Keeps before after where
  base := clears.base
  directory := by
    intro place here
    rw [clears.kept fun gone => clears.spares gone here]
    exact here

theorem of_some (clears : Clears before after gone) (found : after.get? place = some node) :
    ¬ gone place ∧ before.get? place = some node := by
  have spared : ¬ gone place := by
    intro here
    rw [clears.vacant here] at found
    cases found
  rw [clears.kept spared] at found
  exact ⟨spared, found⟩

/-- A file that is removed, or was not there. -/
theorem erase (spared : tree.get? place ≠ some .directory) :
    Clears tree (tree.erase place) (· = place) where
  base := rfl
  spares := by
    rintro other rfl
    exact spared
  vacant := by
    rintro other rfl
    exact get?_erase_self (ne_nil_of_get? spared)
  kept := get?_erase_of_ne

end Clears

section Distinct

private theorem distinct_put (distinct : (tree.nodes.map Prod.fst).Nodup) (place : Location)
    (node : Node) : ((tree.put place node).nodes.map Prod.fst).Nodup := by
  rw [put, List.map_cons, List.nodup_cons]
  constructor
  · intro member
    obtain ⟨entry, among, same⟩ := List.mem_map.mp member
    have apart := (List.mem_filter.mp among).2
    rw [same, bne_self_eq_false] at apart
    cases apart
  · exact distinct.sublist (List.filter_sublist.map _)

private theorem distinct_ensureDirectory (distinct : (tree.nodes.map Prod.fst).Nodup)
    (path : String) :
    ((tree.ensureDirectory path).1.nodes.map Prod.fst).Nodup := by
  rcases ensureDirectory_cases tree path with
    ⟨-, -, result⟩ | ⟨-, -, result⟩ | ⟨⟨error, result⟩, -⟩
  · rw [result]
    exact distinct_put distinct _ _
  · rw [result]
    exact distinct
  · rw [result]
    exact distinct

private theorem distinct_createAll (distinct : (tree.nodes.map Prod.fst).Nodup) (path : String)
    (fuel : Nat) : ((createAll path tree fuel).1.nodes.map Prod.fst).Nodup := by
  induction fuel generalizing path with
  | zero => exact distinct
  | succ fuel ih =>
      by_cases empty : path = ""
      · rw [createAll_of_top tree _ (.inl empty)]
        exact distinct
      rcases createAll_cases tree empty fuel with
        result | ⟨parent, -, ⟨-, result⟩ | ⟨-, result⟩⟩
      · rw [result]
        exact distinct_ensureDirectory distinct path
      · rw [result]
        exact distinct_ensureDirectory (ih parent) path
      · rw [result]
        exact ih parent

theorem distinct_createDirectories (distinct : (tree.nodes.map Prod.fst).Nodup) (path : String) :
    ((tree.createDirectories path).1.nodes.map Prod.fst).Nodup :=
  distinct_createAll distinct path (path.length + 1)

end Distinct

section Sorted

variable {entry : String} {entries : List String}

private theorem pairwise_insertName (absent : entry ∉ entries) (sorted : entries.Pairwise (· < ·)) :
    (insertName entry entries).Pairwise (· < ·) := by
  induction entries with
  | nil => exact List.pairwise_singleton _ _
  | cons first rest ih =>
      rw [List.mem_cons, not_or] at absent
      rw [List.pairwise_cons] at sorted
      rw [insertName]
      split
      · rename_i before
        refine List.pairwise_cons.mpr ⟨?_, List.pairwise_cons.mpr sorted⟩
        rw [List.forall_mem_cons]
        exact ⟨before, fun later member => String.lt_trans before (sorted.1 later member)⟩
      · rename_i after
        have before : first < entry := Std.lt_of_le_of_ne (String.not_lt.mp after) (Ne.symm absent.1)
        refine List.pairwise_cons.mpr ⟨?_, ih absent.2 sorted.2⟩
        intro later member
        rcases mem_insertName.mp member with rfl | member
        · exact before
        · exact sorted.1 later member

private theorem pairwise_foldr_insertName (nodup : entries.Nodup) :
    (entries.foldr insertName []).Pairwise (· < ·) := by
  induction entries with
  | nil => exact .nil
  | cons first rest ih =>
      rw [List.nodup_cons] at nodup
      exact pairwise_insertName (fun member => nodup.1 (mem_foldr_insertName.mp member))
        (ih nodup.2)

private theorem pairwise_namesIn (distinct : (tree.nodes.map Prod.fst).Nodup) (place : Location) :
    (tree.namesIn place).Pairwise (· < ·) := by
  apply pairwise_foldr_insertName
  have places : (tree.nodes.filterMap fun entry =>
        if entry.1.dropLast = place then entry.1.getLast? else none) =
      (tree.nodes.map Prod.fst).filterMap fun location =>
        if location.dropLast = place then location.getLast? else none := by
    rw [List.filterMap_map]
    rfl
  rw [places]
  refine List.Nodup.filterMap ?_ distinct
  intro first second last here there
  rw [Option.mem_def, Option.ite_none_right_eq_some] at here there
  obtain ⟨initial, rfl⟩ := List.getLast?_eq_some_iff.mp here.2
  obtain ⟨otherInitial, rfl⟩ := List.getLast?_eq_some_iff.mp there.2
  rw [← there.1, List.dropLast_concat, List.dropLast_concat] at here
  rw [here.1]

/-- The files of a directory are listed in the strict order of their names. -/
theorem pairwise_fileNamesIn (distinct : (tree.nodes.map Prod.fst).Nodup) (path : String) :
    (tree.fileNamesIn path).Pairwise (· < ·) := by
  rcases found : tree.find path with _ | ⟨place, _ | _⟩
  · rw [fileNamesIn, found]
    exact .nil
  · rw [fileNamesIn, found]
    exact .nil
  · rw [fileNamesIn_of_find found]
    exact (pairwise_namesIn distinct place).filter _

end Sorted

theorem fileNamesIn_cases (tree : FileTree) (path : String) :
    tree.fileNamesIn path = [] ∨
      (tree.Reaches path ∧ tree.get? (placeFrom tree.base path) = some .directory ∧
        tree.find path = .ok (placeFrom tree.base path, .directory)) := by
  rw [fileNamesIn, find]
  cases located : tree.locate path with
  | error error => exact .inl rfl
  | ok target =>
      obtain ⟨reaches, location, here⟩ := reaches_of_locate located
      rw [← here, ← location]
      cases found : target.node with
      | none => exact .inl (by simp [bind, Except.bind, found])
      | some node =>
          cases node with
          | directory =>
              right
              simp [bind, Except.bind, pure, Except.pure, found, reaches]
          | file contents =>
              left
              cases plain : target.plain <;>
                simp [bind, Except.bind, pure, Except.pure, found, plain]

/-- A name that is listed is one of a file. -/
theorem exists_file_of_mem_fileNamesIn {entry : String} (member : entry ∈ tree.fileNamesIn path) :
    ∃ place contents, tree.get? (place ++ [entry]) = some (.file contents) := by
  rcases fileNamesIn_cases tree path with none | ⟨-, -, found⟩
  · rw [none] at member
    cases member
  · obtain ⟨contents, file⟩ :=
      Option.isSome_iff_exists.mp ((mem_fileNamesIn_iff found).mp member)
    exact ⟨_, contents, fileAt?_eq_some.mp file⟩

section Entry

variable {name : String} {last : List Char} (ends : Ends front last path)
  (isName : IsName name.toList)
include ends isName

/-- An entry is reached in a directory that is reached, if its path can be looked up. -/
theorem Reaches.join (reaches : tree.Reaches path)
    (here : tree.get? (placeFrom tree.base path) = some .directory)
    (lookable : Lookable (join path name)) : tree.Reaches (join path name) := by
  refine ⟨lookable, ?_⟩
  rw [← (ends.join_ends isName).chainFrom_parent (ends.join_parent isName).2]
  exact reaches.chain here

/-- A file is removed if its path can be looked up, and the attempt fails otherwise. -/
theorem removeFile_join (inner : name ≠ "..") (reaches : tree.Reaches path)
    (here : tree.get? (placeFrom tree.base path) = some .directory)
    (spared : tree.get? (placeFrom tree.base path ++ [name]) ≠ some .directory) :
    (Lookable (join path name) ∧
      (∃ contents, tree.get? (placeFrom tree.base path ++ [name]) = some (.file contents)) ∧
      tree.removeFile (join path name) = .ok (tree.erase (placeFrom tree.base path ++ [name]))) ∨
    ((Lookable (join path name) → tree.get? (placeFrom tree.base path ++ [name]) = none) ∧
      ∃ failure, tree.removeFile (join path name) = .error failure) := by
  have entry : String.ofList name.toList ≠ ".." := by rwa [String.ofList_toList]
  have place := placeFrom_join_name isName inner tree.base path
  rw [removeFile, find]
  cases located : tree.locate (join path name) with
  | error error =>
      refine .inr ⟨?_, _, rfl⟩
      intro lookable
      rw [locate_of_ends (ends.join_ends isName) (reaches.join ends isName here lookable)] at located
      cases located
  | ok target =>
      have lookable := (reaches_of_locate located).1.lookable
      rw [locate_of_ends (ends.join_ends isName) (reaches.join ends isName here lookable),
        Except.ok.injEq, place] at located
      subst located
      cases found : tree.get? (placeFrom tree.base path ++ [name]) with
      | none => exact .inr ⟨fun _ => rfl, by simp [bind, Except.bind]⟩
      | some node =>
          cases node with
          | directory => exact absurd found spared
          | file contents =>
              refine .inl ⟨lookable, ⟨contents, rfl⟩, ?_⟩
              simp [bind, Except.bind, pure, Except.pure, inner]

end Entry

end DirSchema.FileTree
