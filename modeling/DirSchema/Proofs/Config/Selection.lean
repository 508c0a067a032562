import DirSchema.Config.Selection
import DirSchema.Proofs.Config.Validation
import DirSchema.Proofs.FileTree.Below
import DirSchema.Proofs.FirstSeen
import DirSchema.Proofs.Path.Order
import Mathlib.Data.List.Sort
set_option autoImplicit false

namespace DirSchema

namespace Config

open DirSchema.Path FileTree

section Chosen

variable (all : List String)

/-- The matches of each pattern, one pattern after the other. -/
def chosen (included : List (String → Bool)) : List String :=
  (included.flatMap fun isMatch => (all.filter isMatch).mergeSort Path.le).eraseDups

/-- The number of the first pattern that a file matches. -/
def firstMatch (included : List (String → Bool)) (file : String) : Nat :=
  included.findIdx fun isMatch => isMatch file

variable {all} {included : List (String → Bool)} {file : String}

private theorem mem_chosen : file ∈ chosen all included ↔
    file ∈ all ∧ ∃ isMatch ∈ included, isMatch file = true := by
  simp only [chosen, List.mem_eraseDups, List.mem_flatMap, List.mem_mergeSort, List.mem_filter]
  exact ⟨fun ⟨isMatch, among, member, found⟩ => ⟨member, isMatch, among, found⟩,
    fun ⟨member, isMatch, among, found⟩ => ⟨isMatch, among, member, found⟩⟩

/-- The matches of the first pattern come first, and those of the others that do not match it follow
in their order. -/
theorem chosen_cons (isMatch : String → Bool) (rest : List (String → Bool)) :
    chosen all (isMatch :: rest) = ((all.filter isMatch).mergeSort Path.le).eraseDups ++
      (chosen all rest).filter fun file => !isMatch file := by
  rw [chosen, List.flatMap_cons, List.eraseDups_append, chosen, ← eraseDups_filter, List.removeAll]
  congr 2
  apply List.filter_congr
  intro file member
  obtain ⟨other, -, inside⟩ := List.mem_flatMap.mp member
  have among := (List.mem_filter.mp (List.mem_mergeSort.mp inside)).1
  cases found : isMatch file <;> simp [among, found]

private theorem firstMatch_of_match {isMatch : String → Bool} (rest : List (String → Bool))
    (found : isMatch file = true) : firstMatch (isMatch :: rest) file = 0 := by
  rw [firstMatch, List.findIdx_cons, found]
  rfl

private theorem firstMatch_of_not {isMatch : String → Bool} (rest : List (String → Bool))
    (spared : isMatch file = false) :
    firstMatch (isMatch :: rest) file = firstMatch rest file + 1 := by
  rw [firstMatch, List.findIdx_cons, spared]
  rfl

/-- Files are chosen in the order of the first patterns that they match, and then of their paths. -/
theorem pairwise_chosen (included : List (String → Bool)) :
    (chosen all included).Pairwise fun first second =>
      firstMatch included first < firstMatch included second ∨
        firstMatch included first = firstMatch included second ∧ Path.le first second = true := by
  induction included with
  | nil => exact .nil
  | cons isMatch rest ih =>
      have matched : ∀ file ∈ ((all.filter isMatch).mergeSort Path.le).eraseDups,
          firstMatch (isMatch :: rest) file = 0 := by
        intro file member
        rw [List.mem_eraseDups, List.mem_mergeSort, List.mem_filter] at member
        exact firstMatch_of_match rest member.2
      have others : ∀ file ∈ (chosen all rest).filter fun file => !isMatch file,
          firstMatch (isMatch :: rest) file = firstMatch rest file + 1 := by
        intro file member
        rw [List.mem_filter, Bool.not_eq_true'] at member
        exact firstMatch_of_not rest member.2
      rw [chosen_cons, List.pairwise_append]
      refine ⟨?_, ?_, ?_⟩
      · refine ((pairwise_mergeSort _).sublist (eraseDups_sublist _)).imp_of_mem ?_
        intro first second among later ordered
        rw [matched first among, matched second later]
        exact .inr ⟨rfl, ordered⟩
      · refine (ih.filter _).imp_of_mem ?_
        intro first second among later ordered
        rw [others first among, others second later, Nat.add_lt_add_iff_right,
          Nat.add_right_cancel_iff]
        exact ordered
      · intro first among second later
        rw [matched first among, others second later]
        exact .inl (Nat.succ_pos _)

end Chosen

section Selects

/-- Whether patterns ask for the file that names lead to. Without patterns a file directly in the
directory is asked for. -/
def Wanted (included : List (String → Bool)) (names : Location) : Prop :=
  if included = [] then names.length = 1
  else ∃ isMatch ∈ included, isMatch (ofNames names) = true

/-- The order of files: the first pattern that they match decides, and then their names do, from the
first. -/
def Before (included : List (String → Bool)) (first second : Location) : Prop :=
  firstMatch included (ofNames first) < firstMatch included (ofNames second) ∨
    firstMatch included (ofNames first) = firstMatch included (ofNames second) ∧ first < second

/-- The names that lead to the selected files below a place, in their order. -/
structure Selects (included excluded : List (String → Bool)) (tree : FileTree) (place : Location)
    (selected : List Location) : Prop where
  nodup : selected.Nodup
  member : ∀ names, names ∈ selected ↔
    names ≠ [] ∧ (tree.fileAt? (place ++ names)).isSome ∧ Wanted included names ∧
      ∀ isMatch ∈ excluded, isMatch (ofNames names) = false
  ordered : selected.Pairwise (Before included)

variable {included excluded : List (String → Bool)} {tree other : FileTree} {place : Location}
  {selected others : List Location} {directory : String}

instance : Std.Irrefl (Before included) where
  irrefl names := by simp [Before]

instance : Std.Antisymm (Before included) where
  antisymm first second before after := by
    rcases before with less | ⟨same, less⟩
    · rcases after with more | ⟨equal, -⟩
      · exact absurd more (Nat.lt_asymm less)
      · exact absurd equal.symm (Nat.ne_of_lt less)
    · rcases after with more | ⟨-, more⟩
      · exact absurd same.symm (Nat.ne_of_lt more)
      · exact absurd more (lt_asymm less)

/-- The files below a place decide what is selected. -/
theorem Selects.unique (first : Selects included excluded tree place selected)
    (second : Selects included excluded other place others)
    (same : ∀ names, other.fileAt? (place ++ names) = tree.fileAt? (place ++ names)) :
    others = selected := by
  apply second.ordered.eq_of_mem_iff first.ordered
  intro names
  rw [second.member, first.member, same]

end Selects

section Select

variable {included excluded : List (String → Bool)} {tree : FileTree} {place names : Location}
  {directory file : String} (proper : tree.Proper)
  (found : tree.find directory = .ok (place, .directory))

include found

private theorem allFiles_of_find :
    allFiles tree directory = (tree.namesBelow place).map ofNames := by
  rw [allFiles, found, namesBelow, List.map_map]
  rfl

theorem mem_selectedIn : file ∈ selectedIn included excluded tree directory ↔
    (if included = [] then (tree.fileAt? (place ++ [file])).isSome = true
      else file ∈ (tree.namesBelow place).map ofNames ∧ ∃ isMatch ∈ included, isMatch file = true) ∧
    ∀ isMatch ∈ excluded, isMatch file = false := by
  have spared : (!excluded.any fun isMatch => isMatch file) = true ↔
      ∀ isMatch ∈ excluded, isMatch file = false := by simp
  rw [selectedIn, select, List.mem_filter, spared]
  apply and_congr_left'
  by_cases none : included = []
  · rw [if_pos none, none, if_pos List.isEmpty_nil, mem_fileNamesIn_iff found]
  · rw [if_neg none, if_neg (by simpa using none), ← allFiles_of_find found]
    exact mem_chosen

include proper

private theorem mem_selectedIn_ofNames (below : names ∈ tree.namesBelow place) :
    ofNames names ∈ selectedIn included excluded tree directory ↔
      Wanted included names ∧ ∀ isMatch ∈ excluded, isMatch (ofNames names) = false := by
  rw [mem_selectedIn found, Wanted]
  apply and_congr_left'
  by_cases none : included = []
  · rw [if_pos none, if_pos none]
    constructor
    · intro file
      have direct := names_ofNames (proper.below_of_file file).2
      rw [show ofNames [ofNames names] = ofNames names from rfl,
        names_ofNames (proper.down below)] at direct
      rw [direct]
      rfl
    · intro single
      obtain ⟨name, rfl⟩ := List.length_eq_one_iff.mp single
      exact ((mem_namesBelow proper.distinct).mp below).2
  · rw [if_neg none, if_neg none]
    exact and_iff_right (List.mem_map_of_mem below)

private theorem exists_names_of_mem_selectedIn
    (member : file ∈ selectedIn included excluded tree directory) :
    ∃ names ∈ tree.namesBelow place, ofNames names = file := by
  have listed := ((mem_selectedIn found).mp member).1
  by_cases none : included = []
  · rw [if_pos none] at listed
    exact ⟨[file], (proper.below_of_file listed).1, rfl⟩
  · rw [if_neg none] at listed
    exact List.mem_map.mp listed.1

omit found in
private theorem nodup_selectedIn : (selectedIn included excluded tree directory).Nodup := by
  rw [selectedIn, select]
  apply List.Nodup.filter
  split
  · exact (pairwise_fileNamesIn proper.distinct directory).imp ne_of_lt
  · exact nodup_eraseDups _

private theorem pairwise_selectedIn (included excluded : List (String → Bool)) :
    (selectedIn included excluded tree directory).Pairwise fun first second =>
      firstMatch included first < firstMatch included second ∨
        firstMatch included first = firstMatch included second ∧ Path.le first second = true := by
  rw [selectedIn, select]
  apply List.Pairwise.filter
  by_cases none : included = []
  · rw [none, if_pos List.isEmpty_nil]
    refine (pairwise_fileNamesIn proper.distinct directory).imp_of_mem ?_
    intro first second among later less
    have down := (proper.below_of_file ((mem_fileNamesIn_iff found).mp among)).2
    have otherDown := (proper.below_of_file ((mem_fileNamesIn_iff found).mp later)).2
    have ordered := (le_ofNames_iff down otherDown).mpr
      (List.cons_lt_cons_iff.mpr (.inl less)).le
    exact .inr ⟨rfl, ordered⟩
  · rw [if_neg (by simpa using none)]
    exact pairwise_chosen included

omit proper found in
private theorem exists_map_eq {files : List String}
    (listed : ∀ file ∈ files, ∃ names ∈ tree.namesBelow place, ofNames names = file) :
    ∃ selected, selected ⊆ tree.namesBelow place ∧ selected.map ofNames = files := by
  induction files with
  | nil => exact ⟨[], List.nil_subset _, rfl⟩
  | cons file rest ih =>
      rw [List.forall_mem_cons] at listed
      obtain ⟨names, below, rfl⟩ := listed.1
      obtain ⟨selected, among, rfl⟩ := ih listed.2
      exact ⟨names :: selected, List.cons_subset.mpr ⟨below, among⟩, rfl⟩

/-- What is selected is told by the names that lead to it. -/
theorem exists_selects (included excluded : List (String → Bool)) :
    ∃ selected, Selects included excluded tree place selected ∧
      selected.map ofNames = selectedIn included excluded tree directory ∧
      selected ⊆ tree.namesBelow place := by
  have listed : ∀ file ∈ selectedIn included excluded tree directory,
      ∃ names ∈ tree.namesBelow place, ofNames names = file :=
    fun file => exists_names_of_mem_selectedIn proper found
  obtain ⟨selected, below, spelled⟩ := exists_map_eq listed
  have once : selected.Nodup := by
    apply List.Nodup.of_map ofNames
    rw [spelled]
    exact nodup_selectedIn proper
  refine ⟨selected, ⟨once, ?_, ?_⟩, spelled, below⟩
  · intro names
    rw [← and_assoc, ← mem_namesBelow proper.distinct]
    constructor
    · intro member
      refine ⟨below member, (mem_selectedIn_ofNames proper found (below member)).mp ?_⟩
      rw [← spelled]
      exact List.mem_map_of_mem member
    · rintro ⟨here, asked⟩
      have member := (mem_selectedIn_ofNames proper found here).mpr asked
      rw [← spelled] at member
      obtain ⟨other, among, same⟩ := List.mem_map.mp member
      have text := congrArg (fun file : String => Path.names file.toList) same
      rw [names_ofNames (proper.down (below among)), names_ofNames (proper.down here)] at text
      rwa [← text]
  · have ordered := pairwise_selectedIn proper found included excluded
    rw [← spelled, List.pairwise_map] at ordered
    refine (ordered.and once).imp_of_mem ?_
    rintro first second among later ⟨earlier, apart⟩
    rw [le_ofNames_iff (proper.down (below among)) (proper.down (below later))] at earlier
    exact earlier.imp_right fun ⟨same, upTo⟩ => ⟨same, lt_of_le_of_ne upTo apart⟩

end Select

section Discover

variable {tree : FileTree} {place : Location} {directory : String}

def pathIn (directory : String) (names : Location) : String :=
  Path.join directory (ofNames names)

/-- What discovery of files comes to: the paths of those that are selected, or an error that there
are none. -/
structure Discovers (included excluded : List (String → Bool)) (tree : FileTree)
    (directory : String) (place : Location) (reported : List Diagnostic)
    (selected : List Location) : Prop where
  selects : Selects included excluded tree place selected
  unique : ∀ {others}, Selects included excluded tree place others → others = selected
  succeeds : selected ≠ [] → discoverInto included excluded directory tree reported =
    (.ok (selected.map (pathIn directory)), reported)
  fails : selected = [] → ∃ diagnostic,
    discoverInto included excluded directory tree reported =
      (.error (.noSchemaFiles directory), reported ++ [diagnostic]) ∧
    diagnostic.severity = .error ∧ diagnostic.code = some "empty-schema-list"
  /-- The paths lead to the files that were selected, so there is one path for each. -/
  places : ∀ names ∈ selected, placeFrom tree.base (pathIn directory names) = place ++ names
  distinct : (selected.map (pathIn directory)).Nodup
  /-- Another tree in which the same stands at each place may list it in another order. -/
  steady : ∀ other : FileTree, other.Proper → other.base = tree.base →
    (∀ place, other.get? place = tree.get? place) →
    discoverInto included excluded directory other reported =
      discoverInto included excluded directory tree reported

theorem discoverInto_eq {included excluded : List (String → Bool)} {selected : List Location}
    (spelled : selected.map ofNames = selectedIn included excluded tree directory)
    (reported : List Diagnostic) :
    discoverInto included excluded directory tree reported =
      if selected = [] then (.error (.noSchemaFiles directory),
        reported ++ [(Problem.noSchemaFiles directory).diagnostic])
      else (.ok (selected.map (pathIn directory)), reported) := by
  rw [discoverInto, ← spelled]
  cases selected with
  | nil => rfl
  | cons first rest =>
      rw [List.map_map]
      rfl

/-- Discovery in a directory that is found selects what the patterns ask for. -/
theorem exists_discovered (proper : tree.Proper)
    (found : tree.find directory = .ok (place, .directory))
    (included excluded : List (String → Bool)) (reported : List Diagnostic) :
    ∃ selected, Discovers included excluded tree directory place reported selected := by
  obtain ⟨selected, selects, spelled, below⟩ := exists_selects proper found included excluded
  have places : ∀ names ∈ selected,
      placeFrom tree.base (pathIn directory names) = place ++ names := by
    intro names member
    have nonempty := ((selects.member names).mp member).1
    rw [pathIn, placeFrom_join_ofNames (proper.down (below member)) nonempty, place_of_find found]
  refine ⟨selected, ⟨selects, ?_, ?_, ?_, places, ?_, ?_⟩⟩
  · intro others second
    exact selects.unique second fun _ => rfl
  · intro nonempty
    rw [discoverInto_eq spelled, if_neg nonempty]
  · intro none
    have report := (Problem.noSchemaFiles directory).reported_diagnostic
    exact ⟨_, by rw [discoverInto_eq spelled, if_pos none], report.severity, report.code⟩
  · apply selects.nodup.map_on
    intro first among second later same
    have place := congrArg (placeFrom tree.base) same
    rwa [places first among, places second later, List.append_cancel_left_eq] at place
  · intro other otherProper base same
    have again := (find_congr same base directory).trans found
    obtain ⟨others, second, otherSpelled, -⟩ := exists_selects otherProper again included excluded
    have equal := selects.unique second fun names => by rw [fileAt?, fileAt?, same]
    rw [discoverInto_eq spelled, discoverInto_eq otherSpelled, equal]

end Discover

/-- A directory with schemas in it and below it, which are listed in no order. -/
def shelves : FileTree :=
  { nodes :=
      [(["schema"], .directory), (["schema", "b.dxc"], .file ⟨#[]⟩),
        (["schema", "nested"], .directory), (["schema", "nested", "c.dxc"], .file ⟨#[]⟩),
        (["schema", "a.dxc"], .file ⟨#[]⟩)] }

def nestedFirst : List (String → Bool) := [(· == "nested/c.dxc"), (· == "a.dxc")]

theorem shelves_discovered :
    (∃ selected, Discovers nestedFirst [] shelves "schema" ["schema"] [] selected) ∧
      discoverInto nestedFirst [] "schema" shelves [] =
        (.ok ["schema/nested/c.dxc", "schema/a.dxc"], []) := by
  refine ⟨exists_discovered (by decide) rfl nestedFirst [] [], ?_⟩
  have nested : (allFiles shelves "schema").filter (· == "nested/c.dxc") = ["nested/c.dxc"] := rfl
  have direct : (allFiles shelves "schema").filter (· == "a.dxc") = ["a.dxc"] := rfl
  rw [discoverInto, selectedIn, select, nestedFirst, List.flatMap_cons, List.flatMap_cons, nested,
    direct, List.mergeSort_singleton, List.mergeSort_singleton]
  rfl
end Config
end DirSchema
