import DirSchema.Proofs.FileTree.Places
set_option autoImplicit false

namespace DirSchema.FileTree

open DirSchema.Path

variable {tree before middle after : FileTree} {start place : Location} {node : Node}
  {path directory : String} {front name : List Char} {places more : List Location}

/-- A tree in which everything stands in a directory, relative paths included. -/
def WellFormed (tree : FileTree) : Prop :=
  tree.get? tree.base = some .directory ∧
    ∀ entry ∈ tree.nodes, tree.get? entry.1.dropLast = some .directory

instance (tree : FileTree) : Decidable tree.WellFormed := inferInstanceAs (Decidable (_ ∧ _))

namespace WellFormed

theorem above (wellFormed : tree.WellFormed) (found : tree.get? place = some node) :
    tree.get? place.dropLast = some .directory := by
  by_cases root : place = []
  · rw [root]
    rfl
  · exact wellFormed.2 (place, node) (mem_nodes_of_get? root found)

theorem lead (wellFormed : tree.WellFormed) {names : List String}
    (here : tree.get? start = some .directory)
    (passed : ∀ place ∈ entered start names, tree.get? place = some .directory) :
    tree.get? (Path.lead start names) = some .directory := by
  induction names generalizing start with
  | nil => exact here
  | cons name rest ih =>
      rw [Path.lead]
      rw [entered] at passed
      split at passed
      · rename_i up
        rw [if_pos up]
        exact ih (wellFormed.above here) passed
      · rename_i entry
        rw [if_neg entry]
        rw [List.forall_mem_cons] at passed
        exact ih passed.1 passed.2

theorem startFrom (wellFormed : tree.WellFormed) (path : String) :
    tree.get? (Path.startFrom tree.base path) = some .directory := by
  rw [Path.startFrom]
  split
  · rfl
  · exact wellFormed.1

end WellFormed

/-- A tree in which every directory is still one. -/
structure Keeps (before after : FileTree) : Prop where
  base : after.base = before.base
  directory : ∀ {place}, before.get? place = some .directory →
    after.get? place = some .directory

namespace Keeps

theorem refl (tree : FileTree) : Keeps tree tree := ⟨rfl, id⟩

theorem trans (first : Keeps before middle) (second : Keeps middle after) : Keeps before after :=
  ⟨second.base.trans first.base, fun found => second.directory (first.directory found)⟩

theorem put (vacant : tree.get? place ≠ some .directory) (node : Node) :
    Keeps tree (tree.put place node) where
  base := rfl
  directory := by
    intro other found
    rw [get?_put_of_ne]
    · exact found
    · rintro rfl
      exact vacant found

theorem reaches (keeps : Keeps before after) (reaches : before.Reaches path) :
    after.Reaches path := by
  refine ⟨reaches.lookable, ?_⟩
  intro passed member
  rw [keeps.base] at member
  exact keeps.directory (reaches.above passed member)

end Keeps

namespace WellFormed

theorem put (wellFormed : tree.WellFormed) (vacant : tree.get? place ≠ some .directory)
    (above : tree.get? place.dropLast = some .directory) (node : Node) :
    (tree.put place node).WellFormed := by
  have keeps := Keeps.put vacant node
  refine ⟨keeps.directory wellFormed.1, ?_⟩
  intro entry member
  rw [FileTree.put, List.mem_cons, List.mem_filter] at member
  rcases member with rfl | ⟨member, -⟩
  · exact keeps.directory above
  · exact keeps.directory (wellFormed.2 entry member)

end WellFormed

/-- A tree to which only directories are added. -/
structure Extends (before after : FileTree) : Prop where
  base : after.base = before.base
  kept : ∀ {place node}, before.get? place = some node → after.get? place = some node
  made : ∀ {place}, before.get? place = none →
    after.get? place = none ∨ after.get? place = some .directory

namespace Extends

theorem refl (tree : FileTree) : Extends tree tree := ⟨rfl, id, .inl⟩

theorem trans (first : Extends before middle) (second : Extends middle after) :
    Extends before after where
  base := second.base.trans first.base
  kept := fun found => second.kept (first.kept found)
  made := by
    intro place vacant
    rcases first.made vacant with vacant | made
    · exact second.made vacant
    · exact .inr (second.kept made)

theorem put (vacant : tree.get? place = none) : Extends tree (tree.put place .directory) where
  base := rfl
  kept := by
    intro other node found
    rw [get?_put_of_ne]
    · exact found
    · rintro rfl
      rw [vacant] at found
      cases found
  made := by
    intro other nothing
    by_cases same : other = place
    · right
      rw [same]
      apply get?_put_self
      rintro rfl
      cases vacant
    · left
      rw [get?_put_of_ne same, nothing]

/-- Files are never made and never lost. -/
theorem file_iff (grown : Extends before after) {contents : ByteArray} :
    after.get? place = some (.file contents) ↔ before.get? place = some (.file contents) := by
  constructor
  · intro found
    cases earlier : before.get? place with
    | none =>
        rcases grown.made earlier with nothing | directory
        · rw [nothing] at found
          cases found
        · rw [directory] at found
          cases found
    | some node =>
        rw [grown.kept earlier] at found
        exact found
  · exact grown.kept

theorem keeps (grown : Extends before after) : Keeps before after := ⟨grown.base, grown.kept⟩

end Extends

section Make

theorem makeDirectory_of_locate {target : Target} (located : tree.locate path = .ok target) :
    tree.makeDirectory path = match tree.get? (placeFrom tree.base path) with
      | none => .ok (tree.put (placeFrom tree.base path) .directory)
      | some _ => .error .alreadyExists := by
  obtain ⟨-, location, here⟩ := reaches_of_locate located
  rw [makeDirectory, located, ← here, ← location]
  cases found : target.node <;> simp [bind, Except.bind, pure, Except.pure, found]

theorem makeDirectory_of_error {error : FileError} (failed : tree.locate path = .error error) :
    tree.makeDirectory path = .error error := by
  rw [makeDirectory, failed]
  rfl

theorem isDirectory_of_locate {target : Target} (located : tree.locate path = .ok target) :
    tree.isDirectory path = (tree.get? (placeFrom tree.base path) == some .directory) := by
  obtain ⟨-, -, here⟩ := reaches_of_locate located
  rw [isDirectory, find, located, ← here]
  cases found : target.node with
  | none => simp [bind, Except.bind, found]
  | some node =>
      cases node with
      | directory => simp [bind, Except.bind, pure, Except.pure, found]
      | file contents =>
          cases plain : target.plain <;>
            simp [bind, Except.bind, pure, Except.pure, found, plain]

theorem isDirectory_of_error {error : FileError} (failed : tree.locate path = .error error) :
    tree.isDirectory path = false := by
  rw [isDirectory, find, failed]
  rfl

/-- What making sure of a directory comes to: it is made where nothing stands, it was there already,
or it cannot be made and the tree is as before. -/
theorem ensureDirectory_cases (tree : FileTree) (path : String) :
    (tree.Reaches path ∧ tree.get? (placeFrom tree.base path) = none ∧
      tree.ensureDirectory path = (tree.put (placeFrom tree.base path) .directory, none)) ∨
    (tree.Reaches path ∧ tree.get? (placeFrom tree.base path) = some .directory ∧
      tree.ensureDirectory path = (tree, none)) ∨
    ((∃ error, tree.ensureDirectory path = (tree, some error)) ∧
      ∀ target, tree.locate path = .ok target →
        ∃ contents, tree.get? (placeFrom tree.base path) = some (.file contents)) := by
  rw [ensureDirectory]
  cases located : tree.locate path with
  | error error =>
      right
      right
      rw [makeDirectory_of_error located, isDirectory_of_error located]
      exact ⟨⟨error, rfl⟩, nofun⟩
  | ok target =>
      have reaches := (reaches_of_locate located).1
      rw [makeDirectory_of_locate located, isDirectory_of_locate located]
      cases standing : tree.get? (placeFrom tree.base path) with
      | none => exact .inl ⟨reaches, rfl, rfl⟩
      | some node =>
          cases node with
          | directory => exact .inr (.inl ⟨reaches, rfl, rfl⟩)
          | file contents =>
              right
              right
              exact ⟨⟨.alreadyExists, rfl⟩, fun _ _ => ⟨contents, rfl⟩⟩

private theorem ensureDirectory_extends (tree : FileTree) (path : String) :
    Extends tree (tree.ensureDirectory path).1 := by
  rcases ensureDirectory_cases tree path with
    ⟨-, vacant, result⟩ | ⟨-, -, result⟩ | ⟨⟨error, result⟩, -⟩
  · rw [result]
    exact .put vacant
  · rw [result]
    exact .refl tree
  · rw [result]
    exact .refl tree

theorem createAll_extends (path : String) (tree : FileTree) (fuel : Nat) :
    Extends tree (createAll path tree fuel).1 := by
  induction fuel generalizing path tree with
  | zero => exact .refl tree
  | succ fuel ih =>
      rw [createAll]
      split
      · exact .refl tree
      split
      · rename_i parent _ _
        have above := ih parent tree
        split
        · rename_i middle result
          rw [result] at above
          exact above.trans (ensureDirectory_extends middle path)
        · exact above
      · exact ensureDirectory_extends tree path

/-- Making directories adds nothing but directories. -/
theorem createDirectories_extends (tree : FileTree) (path : String) :
    Extends tree (tree.createDirectories path).1 :=
  createAll_extends path tree (path.length + 1)

end Make

/-- A well-formed tree to which only directories at some places are added. -/
structure Deepens (before after : FileTree) (places : List Location) : Prop extends
    Extends before after where
  wellFormed : after.WellFormed
  within : ∀ {place}, after.get? place = some .directory →
    before.get? place = some .directory ∨ place ∈ places

namespace Deepens

theorem refl (wellFormed : tree.WellFormed) (places : List Location) : Deepens tree tree places :=
  ⟨.refl tree, wellFormed, .inl⟩

theorem trans (first : Deepens before middle places) (second : Deepens middle after places) :
    Deepens before after places where
  toExtends := first.toExtends.trans second.toExtends
  wellFormed := second.wellFormed
  within := by
    intro place found
    rcases second.within found with earlier | member
    · exact first.within earlier
    · exact .inr member

theorem mono (deeper : Deepens before after places) (subset : places ⊆ more) :
    Deepens before after more where
  toExtends := deeper.toExtends
  wellFormed := deeper.wellFormed
  within := fun found => (deeper.within found).imp_right fun member => subset member

end Deepens

/-- A path along which no file stands, so that directories can be made. -/
structure Passable (tree : FileTree) (path : String) : Prop where
  lookable : Lookable path
  free : ∀ passed ∈ chainFrom tree.base path, ∀ contents,
    tree.get? passed ≠ some (.file contents)

section Ensure

variable (ends : Ends front name path)
include ends

theorem WellFormed.directory_of_reaches (wellFormed : tree.WellFormed)
    (reaches : tree.Reaches path) :
    tree.get? (Path.lead (Path.startFrom tree.base path) (names front)) = some .directory := by
  have above := reaches.above
  rw [ends.aboveFrom_eq] at above
  exact wellFormed.lead (wellFormed.startFrom path) above

/-- Above a place that is reached stands a directory. -/
theorem WellFormed.directory_of_up (wellFormed : tree.WellFormed) (reaches : tree.Reaches path)
    (up : String.ofList name = "..") :
    tree.get? (placeFrom tree.base path) = some .directory := by
  rw [ends.placeFrom_eq, up, lead_up]
  exact wellFormed.above (wellFormed.directory_of_reaches ends reaches)

private theorem chain_directories (reaches : tree.Reaches path)
    (here : tree.get? (placeFrom tree.base path) = some .directory) :
    ∀ passed ∈ chainFrom tree.base path, tree.get? passed = some .directory := by
  by_cases up : String.ofList name = ".."
  · rw [ends.chainFrom_of_up up]
    exact reaches.above
  · rw [ends.chainFrom_of_name up, List.forall_mem_append]
    exact ⟨reaches.above, by simpa using here⟩

/-- A directory is made in the directory that its path reaches, on the chain of the path. -/
theorem WellFormed.put_deepens (wellFormed : tree.WellFormed) (reaches : tree.Reaches path)
    (vacant : tree.get? (placeFrom tree.base path) = none) :
    Deepens tree (tree.put (placeFrom tree.base path) .directory) (chainFrom tree.base path) := by
  have entry : String.ofList name ≠ ".." := by
    intro up
    rw [wellFormed.directory_of_up ends reaches up] at vacant
    cases vacant
  refine ⟨.put vacant, ?_, ?_⟩
  · apply wellFormed.put
    · rw [vacant]
      nofun
    · rw [ends.placeFrom_of_name entry, List.dropLast_concat]
      exact wellFormed.directory_of_reaches ends reaches
  · intro other found
    by_cases same : other = placeFrom tree.base path
    · right
      rw [ends.chainFrom_of_name entry, same]
      simp
    · left
      rwa [get?_put_of_ne same] at found

theorem ensureDirectory_deepens (wellFormed : tree.WellFormed) :
    Deepens tree (tree.ensureDirectory path).1 (chainFrom tree.base path) := by
  rcases ensureDirectory_cases tree path with
    ⟨reaches, vacant, result⟩ | ⟨-, -, result⟩ | ⟨⟨error, result⟩, -⟩
  · rw [result]
    exact wellFormed.put_deepens ends reaches vacant
  · rw [result]
    exact .refl wellFormed _
  · rw [result]
    exact .refl wellFormed _

theorem chain_of_ensureDirectory (tree : FileTree)
    (success : (tree.ensureDirectory path).2 = none) :
    tree.Reaches path ∧ ∀ passed ∈ chainFrom tree.base path,
      (tree.ensureDirectory path).1.get? passed = some .directory := by
  rcases ensureDirectory_cases tree path with
    ⟨reaches, vacant, result⟩ | ⟨reaches, here, result⟩ | ⟨⟨error, result⟩, -⟩
  · refine ⟨reaches, ?_⟩
    rw [result]
    have grown := Extends.put vacant
    have inner : placeFrom tree.base path ≠ [] := by
      intro root
      rw [root] at vacant
      cases vacant
    exact chain_directories ends (grown.keeps.reaches reaches) (get?_put_self inner)
  · rw [result]
    exact ⟨reaches, chain_directories ends reaches here⟩
  · rw [result] at success
    cases success

theorem ensureDirectory_of_reaches (wellFormed : tree.WellFormed) (reaches : tree.Reaches path)
    (free : ∀ passed ∈ chainFrom tree.base path, ∀ contents,
      tree.get? passed ≠ some (.file contents)) : (tree.ensureDirectory path).2 = none := by
  rcases ensureDirectory_cases tree path with
    ⟨-, -, result⟩ | ⟨-, -, result⟩ | ⟨-, occupied⟩
  · rw [result]
  · rw [result]
  · obtain ⟨contents, file⟩ := occupied _ (locate_of_ends ends reaches)
    by_cases up : String.ofList name = ".."
    · rw [wellFormed.directory_of_up ends reaches up] at file
      cases file
    · exact absurd file (free _ (by rw [ends.chainFrom_of_name up]; simp) contents)

end Ensure

section Create

/-- What making a directory and those above it comes to. -/
structure Created (tree : FileTree) (path : String) (result : FileTree × Option FileError) :
    Prop where
  deepens : Deepens tree result.1 (chainFrom tree.base path)
  lookable : result.2 = none → Lookable path
  chain : result.2 = none → ∀ passed ∈ chainFrom tree.base path,
    result.1.get? passed = some .directory
  success : tree.Passable path → result.2 = none

private theorem Created.passable_iff {result : FileTree × Option FileError}
    (created : Created tree path result) : result.2 = none ↔ tree.Passable path := by
  refine ⟨?_, created.success⟩
  intro success
  refine ⟨created.lookable success, ?_⟩
  intro passed member contents file
  have directory := created.chain success passed member
  rw [created.deepens.kept file] at directory
  cases directory

/-- A directory below one that has been made. -/
theorem Created.below (ends : Ends front name path) (parent : Parent front path directory)
    (above : Created tree directory (middle, none)) :
    Created tree path (middle.ensureDirectory path) := by
  have base : middle.base = tree.base := above.deepens.base
  have wellFormed : middle.WellFormed := above.deepens.wellFormed
  have chain := ends.chainFrom_parent parent tree.base
  have deepens := ensureDirectory_deepens ends wellFormed
  have made := chain_of_ensureDirectory ends middle
  rw [base] at deepens made
  refine ⟨?_, fun success => (made success).1.lookable, fun success => (made success).2, ?_⟩
  · refine (above.deepens.mono ?_).trans deepens
    rw [chain]
    exact aboveFrom_subset_chainFrom tree.base path
  · intro passable
    apply ensureDirectory_of_reaches ends wellFormed
    · refine ⟨passable.lookable, ?_⟩
      rw [base, ← chain]
      exact above.chain rfl
    · intro passed member contents file
      rw [base] at member
      exact passable.free passed member contents (above.deepens.file_iff.mp file)

/-- Nothing is made below a directory that could not be. -/
theorem Created.of_failed {result : FileTree × Option FileError} (ends : Ends front name path)
    (parent : Parent front path directory) (above : Created tree directory result)
    (failed : result.2 ≠ none) : Created tree path result := by
  have within : chainFrom tree.base directory ⊆ chainFrom tree.base path := by
    rw [ends.chainFrom_parent parent]
    exact aboveFrom_subset_chainFrom tree.base path
  refine ⟨above.deepens.mono within, fun success => absurd success failed,
    fun success => absurd success failed, ?_⟩
  intro passable
  exact above.success ⟨ends.lookable_parent parent passable.lookable,
    fun passed member => passable.free passed (within member)⟩

private theorem created_ensureDirectory (ends : Ends front name path) (wellFormed : tree.WellFormed)
    (other : tree.makeDirectory path ≠ .error .notFound) :
    Created tree path (tree.ensureDirectory path) := by
  have made := chain_of_ensureDirectory ends tree
  refine ⟨ensureDirectory_deepens ends wellFormed, fun success => (made success).1.lookable,
    fun success => (made success).2, ?_⟩
  intro passable
  cases located : tree.locate path with
  | ok target =>
      exact ensureDirectory_of_reaches ends wellFormed (reaches_of_locate located).1 passable.free
  | error error =>
      have absent := error_of_locate ends passable.lookable
        (fun passed member => passable.free passed (aboveFrom_subset_chainFrom _ _ member)) located
      rw [makeDirectory_of_error located, absent] at other
      contradiction

/-- A directory that is there already. -/
theorem createAll_of_directory {target : Target} (located : tree.locate path = .ok target)
    (here : tree.get? (placeFrom tree.base path) = some .directory) (fuel : Nat) :
    createAll path tree (fuel + 1) = (tree, none) := by
  have nonempty := (bounds_of_locate located).1
  have made := makeDirectory_of_locate located
  have directory := isDirectory_of_locate located
  rw [here] at made directory
  simp [createAll, ensureDirectory, nonempty, made, directory]

private theorem created_of_nameless (wellFormed : tree.WellFormed)
    (nameless : names path.toList = [])
    (lookable : Lookable path) : Created tree path (tree, none) := by
  have chain : chainFrom tree.base path = [] := by rw [chainFrom, nameless, entered]
  refine ⟨.refl wellFormed _, fun _ => lookable, ?_, fun _ => rfl⟩
  rw [chain]
  intro _ passed member
  cases member

/-- Every directory of a path is made before those below it. -/
theorem created_createAll (path : String) (tree : FileTree) (fuel : Nat) (tidy : Tidy path)
    (wellFormed : tree.WellFormed) (enough : path.length < fuel) :
    Created tree path (createAll path tree fuel) := by
  induction fuel generalizing path tree with
  | zero => omega
  | succ fuel ih =>
      obtain rfl | rfl | rfl | ⟨front, name, ends⟩ := tidy.cases
      · exact created_of_nameless wellFormed rfl ⟨by decide, by decide, nofun⟩
      · have cut : stepsOf "." = [] ++ ["."] := rfl
        have located := locate_eq tree cut (by decide) (by decide)
        rw [createAll_of_directory located (wellFormed.startFrom ".")]
        exact created_of_nameless wellFormed rfl ⟨by decide, by decide, nofun⟩
      · have none : stepsOf "/" = [] := rfl
        have located := locate_eq_start tree none rfl (by decide) (by decide)
        rw [createAll_of_directory located rfl]
        exact created_of_nameless wellFormed rfl ⟨by decide, by decide, nofun⟩
      · obtain ⟨directory, found, parent⟩ := ends.exists_parent
        rw [createAll, ends.isEmpty_eq, found]
        simp only [Bool.false_eq_true, if_false]
        split
        · rename_i absent some
          cases some
          have above := ih directory tree parent.tidy wellFormed (by have := parent.shorter; omega)
          split
          · rename_i middle made
            rw [made] at above
            exact above.below ends parent
          · rename_i failed
            exact above.of_failed ends parent fun success => failed _ (Prod.ext rfl success)
        · rename_i other
          exact created_ensureDirectory ends wellFormed fun absent => other directory absent rfl

/-- Directories are made along a path that no file is in the way of, and along no other. -/
theorem created_createDirectories (wellFormed : tree.WellFormed) (tidy : Tidy path) :
    Deepens tree (tree.createDirectories path).1 (chainFrom tree.base path) ∧
      ((tree.createDirectories path).2 = none ↔ tree.Passable path) ∧
      ((tree.createDirectories path).2 = none → ∀ passed ∈ chainFrom tree.base path,
        (tree.createDirectories path).1.get? passed = some .directory) := by
  have created := created_createAll path tree (path.length + 1) tidy wellFormed (by omega)
  have failure : (tree.createDirectories path).2 = none ↔
      (createAll path tree (path.length + 1)).2 = none := by
    rw [createDirectories]
    simp
  rw [failure]
  exact ⟨created.deepens, created.passable_iff, created.chain⟩

end Create

end DirSchema.FileTree
