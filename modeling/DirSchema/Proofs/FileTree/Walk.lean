import DirSchema.Proofs.FileTree.Listing
set_option autoImplicit false

/-!
Directories made again. Along a path that goes straight down, what becomes a directory and what
stops this depends only on where files stand, so that making the directories once more changes
nothing and fails for the same reason. What could be read can be read again, as long as directories
are kept.
-/
namespace DirSchema.FileTree

open DirSchema.Path

variable {tree other middle : FileTree} {start place : Location} {path directory : String}
  {names front back : List String} {error : FileError}

/-- What making directories along names comes to: the places that are directories in the end, and
what stops it. -/
def walk (tree : FileTree) (start : Location) : List String → List Location × Option FileError
  | [] => ([], none)
  | name :: rest =>
    if name = ".." then walk tree start.dropLast rest
    else if nameLimit < name.utf8ByteSize then ([], some .nameTooLong)
    else if (tree.fileAt? (start ++ [name])).isSome then
      ([], some (if rest = [] then .alreadyExists else .notDirectory))
    else
      ((start ++ [name]) :: (walk tree (start ++ [name]) rest).1,
        (walk tree (start ++ [name]) rest).2)

section Walk

theorem walk_congr (same : ∀ passed ∈ entered start names,
    (tree.fileAt? passed).isSome = (other.fileAt? passed).isSome) :
    walk tree start names = walk other start names := by
  induction names generalizing start with
  | nil => rfl
  | cons name rest ih =>
      rw [entered] at same
      rw [walk, walk]
      by_cases up : name = ".."
      · rw [if_pos up] at same
        rw [if_pos up, if_pos up, ih same]
      · rw [if_neg up, List.forall_mem_cons] at same
        rw [if_neg up, if_neg up, same.1, ih same.2]

private theorem walk_subset (tree : FileTree) (start : Location) (names : List String) :
    (walk tree start names).1 ⊆ entered start names := by
  induction names generalizing start with
  | nil => exact List.Subset.refl _
  | cons name rest ih =>
      rw [walk, entered]
      split
      · exact ih _
      split
      · exact List.nil_subset _
      split
      · exact List.nil_subset _
      · exact List.cons_subset_cons _ (ih _)

/-- Names that nothing stops are all entered, and they are short. -/
theorem walk_free (free : (walk tree start names).2 = none) :
    (walk tree start names).1 = entered start names ∧
      ∀ name ∈ names, name ≠ ".." → name.utf8ByteSize ≤ nameLimit := by
  induction names generalizing start with
  | nil => exact ⟨rfl, List.forall_mem_nil _⟩
  | cons name rest ih =>
      rw [walk] at free ⊢
      rw [entered]
      split at free
      · rename_i up
        rw [if_pos up, if_pos up]
        obtain ⟨places, short⟩ := ih free
        exact ⟨places, List.forall_mem_cons.mpr ⟨fun entry => absurd up entry, short⟩⟩
      rename_i up
      split at free
      · cases free
      rename_i fits
      split at free
      · cases free
      rename_i vacant
      rw [if_neg up, if_neg fits, if_neg vacant, if_neg up]
      obtain ⟨places, short⟩ := ih free
      exact ⟨by rw [places], List.forall_mem_cons.mpr ⟨fun _ => Nat.not_lt.mp fits, short⟩⟩

theorem walk_of_directories
    (short : ∀ name ∈ names, name ≠ ".." → name.utf8ByteSize ≤ nameLimit)
    (directories : ∀ passed ∈ entered start names, tree.get? passed = some .directory) :
    walk tree start names = (entered start names, none) := by
  induction names generalizing start with
  | nil => rfl
  | cons name rest ih =>
      rw [List.forall_mem_cons] at short
      rw [entered] at directories ⊢
      rw [walk]
      by_cases up : name = ".."
      · rw [if_pos up] at directories
        rw [if_pos up, if_pos up, ih short.2 directories]
      · rw [if_neg up, List.forall_mem_cons] at directories
        have vacant : ¬ (tree.fileAt? (start ++ [name])).isSome := by
          rw [fileAt?, directories.1]
          simp
        rw [if_neg up, if_neg (Nat.not_lt.mpr (short.1 up)), if_neg vacant, if_neg up,
          ih short.2 directories.2]

/-- Names that nothing stops can be followed by others. -/
theorem walk_append (free : (walk tree start front).2 = none) :
    walk tree start (front ++ back) =
      ((walk tree start front).1 ++ (walk tree (lead start front) back).1,
        (walk tree (lead start front) back).2) := by
  induction front generalizing start with
  | nil => rfl
  | cons name rest ih =>
      rw [List.cons_append, walk]
      rw [walk] at free ⊢
      rw [lead]
      split at free
      · rename_i up
        rw [if_pos up, if_pos up, if_pos up, ih free]
      rename_i up
      split at free
      · cases free
      rename_i fits
      split at free
      · cases free
      rename_i vacant
      rw [if_neg up, if_neg fits, if_neg vacant, if_neg up, if_neg fits, if_neg vacant, if_neg up,
        ih free]
      rfl

/-- What stops names also stops those that go on from there. -/
theorem walk_stopped (stopped : (walk tree start front).2 = some error)
    (inner : error ≠ .alreadyExists) :
    walk tree start (front ++ back) = walk tree start front := by
  induction front generalizing start with
  | nil => cases stopped
  | cons name rest ih =>
      rw [List.cons_append, walk]
      rw [walk] at stopped ⊢
      split at stopped
      · rename_i up
        rw [if_pos up, if_pos up, ih stopped]
      rename_i up
      rw [if_neg up, if_neg up]
      split at stopped
      · rename_i long
        rw [if_pos long, if_pos long]
      rename_i fits
      rw [if_neg fits, if_neg fits]
      split at stopped
      · rename_i file
        have more : rest ≠ [] := by
          rintro rfl
          exact inner (Option.some.inj stopped).symm
        have longer : rest ++ back ≠ [] := List.append_ne_nil_of_left_ne_nil more back
        rw [if_pos file, if_pos file, if_neg more, if_neg longer]
      · rename_i vacant
        rw [if_neg vacant, if_neg vacant, ih stopped]

/-- What exists already stands at the end of the names. -/
theorem walk_alreadyExists (stopped : (walk tree start names).2 = some .alreadyExists) :
    (tree.fileAt? (lead start names)).isSome := by
  induction names generalizing start with
  | nil => cases stopped
  | cons name rest ih =>
      rw [walk] at stopped
      rw [lead]
      split at stopped
      · rename_i up
        rw [if_pos up]
        exact ih stopped
      rename_i up
      rw [if_neg up]
      split at stopped
      · cases stopped
      split at stopped
      · rename_i file
        have last : rest = [] := by
          by_contra more
          rw [if_neg more] at stopped
          cases stopped
        rw [last, lead]
        exact file
      · exact ih stopped

end Walk

section Descend

variable {steps : List String}

/-- What keeps steps from leading to a directory, other than that one is missing, stops the names
that go on from there. -/
theorem walk_of_descend (failed : tree.descend start steps = .error error)
    (standing : error ≠ .notFound) (more : back ≠ []) :
    (walk tree start (steps.filter (· ≠ ".") ++ back)).2 = some error ∧
      ∀ passed ∈ (walk tree start (steps.filter (· ≠ ".") ++ back)).1,
        tree.get? passed = some .directory := by
  obtain ⟨front, name, rest, split, entry, short, directories, blocked⟩ := stuck_of_descend failed
  have passed := walk_of_directories short directories
  have stopped : walk tree (lead start front) (name :: rest ++ back) = ([], some error) := by
    rw [List.cons_append, walk, if_neg entry]
    cases blocked with
    | long long => rw [if_pos long]
    | missing => contradiction
    | file fits contents found =>
        have longer : rest ++ back ≠ [] := List.append_ne_nil_of_right_ne_nil _ more
        rw [if_neg fits, fileAt?, found, if_pos (by rfl), if_neg longer]
  rw [split, List.append_assoc, walk_append (by rw [passed]), passed, stopped, List.append_nil]
  exact ⟨rfl, directories⟩

private theorem exists_missing_of_descend (failed : tree.descend start steps = .error .notFound) :
    ∃ passed ∈ entered start (steps.filter (· ≠ ".")), tree.get? passed = none := by
  obtain ⟨front, name, back, split, entry, -, -, blocked⟩ := stuck_of_descend failed
  cases blocked with
  | missing _ missing =>
      rw [split]
      exact ⟨_, mem_entered_append_cons front back entry, missing⟩

end Descend

section Make

variable {initial name : List Char} {steps : List String}

/-- What making a directory comes to, in terms of its walk. -/
structure Walked (tree : FileTree) (walked : List Location × Option FileError)
    (result : FileTree × Option FileError) : Prop where
  error : result.2 = walked.2
  directory : ∀ place, result.1.get? place = some .directory ↔
    tree.get? place = some .directory ∨ place ∈ walked.1

theorem Walked.unchanged {walked : List Location × Option FileError}
    (passed : ∀ place ∈ walked.1, tree.get? place = some .directory) :
    Walked tree walked (tree, walked.2) :=
  ⟨rfl, fun place => (or_iff_left_of_imp (passed place)).symm⟩

/-- One walk after another. -/
theorem Walked.trans {first second : List Location × Option FileError} {failure : Option FileError}
    {result : FileTree × Option FileError} (early : Walked tree first (middle, failure))
    (late : Walked middle second result) :
    Walked tree (first.1 ++ second.1, second.2) result := by
  refine ⟨late.error, fun place => ?_⟩
  rw [late.directory place, early.directory place, List.mem_append, or_assoc]

theorem ensureDirectory_of_error (failed : tree.makeDirectory path = .error error)
    (missing : tree.isDirectory path = false) : tree.ensureDirectory path = (tree, some error) := by
  rw [ensureDirectory, failed, missing]
  rfl

theorem ensureDirectory_of_directory (failed : tree.makeDirectory path = .error error)
    (there : tree.isDirectory path = true) : tree.ensureDirectory path = (tree, none) := by
  rw [ensureDirectory, failed, there]
  rfl

/-- A path that cannot be looked up, other than because something is missing. -/
theorem createAll_of_error (nonempty : path.isEmpty = false) (failed : tree.locate path = .error error)
    (standing : error ≠ .notFound) (fuel : Nat) :
    createAll path tree (fuel + 1) = (tree, some error) := by
  have made := makeDirectory_of_error failed
  have result := ensureDirectory_of_error made (isDirectory_of_error failed)
  rw [createAll, nonempty, made]
  simp only [Bool.false_eq_true, if_false]
  split
  · rename_i absent _
    exact absurd (Except.error.inj absent) standing
  · exact result

private theorem makeDirectory_ne_notFound {target : Target}
    (located : tree.locate path = .ok target) :
    tree.makeDirectory path ≠ .error .notFound := by
  rw [makeDirectory_of_locate located]
  split <;> simp

/-- A place that a path leads to is made sure of, unless a file stands there. -/
theorem walked_of_locate {target : Target} (located : tree.locate path = .ok target)
    (leads : placeFrom tree.base path = place) (inner : place ≠ []) :
    Walked tree
      (if (tree.fileAt? place).isSome then ([], some .alreadyExists) else ([place], none))
      (tree.ensureDirectory path) := by
  have made := makeDirectory_of_locate located
  have there := isDirectory_of_locate located
  rw [leads] at made there
  rw [fileAt?]
  cases found : tree.get? place with
  | none =>
      rw [found] at made
      have result : tree.ensureDirectory path = (tree.put place .directory, none) := by
        rw [ensureDirectory, made]
      rw [if_neg (by simp), result]
      refine ⟨rfl, fun other => ?_⟩
      rw [List.mem_singleton]
      by_cases same : other = place
      · rw [same, get?_put_self inner]
        simp
      · rw [get?_put_of_ne same, or_iff_left same]
  | some node =>
      rw [found] at made there
      cases node with
      | file contents =>
          rw [if_pos (by rfl), ensureDirectory_of_error made there]
          exact .unchanged (List.forall_mem_nil _)
      | directory =>
          rw [if_neg (by simp), ensureDirectory_of_directory made there]
          exact .unchanged (List.forall_mem_singleton.mpr found)

/-- An entry is made sure of in a directory that is there. -/
theorem walked_ensureDirectory (ends : Ends initial name path) (wellFormed : tree.WellFormed)
    (noNul : '\x00' ∉ path.toList) (short : path.utf8ByteSize ≤ pathLimit)
    (descended : tree.descend (startFrom tree.base path) (stepsOf (String.ofList initial)) =
      .ok (lead (startFrom tree.base path) (Path.names initial))) :
    Walked tree
      (walk tree (lead (startFrom tree.base path) (Path.names initial)) [String.ofList name])
      (tree.ensureDirectory path) ∧ tree.makeDirectory path ≠ .error .notFound := by
  have located := locate_eq tree (stepsOf_of_ends ends) noNul short
  rw [descended, Except.bind, finish] at located
  have shown : String.ofList name ≠ "." := by
    intro same
    exact ends.isName.visible (by simpa using congrArg String.toList same)
  have directories := (descend_eq_ok_iff.mp descended).2.2
  rw [← names_eq_filter, String.toList_ofList] at directories
  have here := wellFormed.lead (wellFormed.startFrom path) directories
  have target := ends.placeFrom_eq tree.base
  generalize lead (startFrom tree.base path) (Path.names initial) = above at *
  rw [if_neg shown] at located
  simp only [walk, if_true]
  by_cases up : String.ofList name = ".."
  · rw [if_pos up] at located
    rw [up, lead_up] at target
    have made := makeDirectory_of_locate located
    have there := isDirectory_of_locate located
    rw [target, wellFormed.above here] at made there
    rw [if_pos up, ensureDirectory_of_directory made there]
    exact ⟨.unchanged (List.forall_mem_nil _), makeDirectory_ne_notFound located⟩
  rw [if_neg up] at located
  rw [if_neg up]
  rw [lead_name up] at target
  by_cases long : nameLimit < (String.ofList name).utf8ByteSize
  · rw [if_pos long] at located
    have made := makeDirectory_of_error located
    rw [if_pos long, made, ensureDirectory_of_error made (isDirectory_of_error located)]
    exact ⟨.unchanged (List.forall_mem_nil _), by simp⟩
  · rw [if_neg long] at located
    rw [if_neg long]
    exact ⟨walked_of_locate located target (by simp), makeDirectory_ne_notFound located⟩

/-- A directory is made in one that has just been made. -/
theorem walked_below (ends : Ends initial name path) (grown : Extends tree middle)
    (wellFormed : middle.WellFormed) (noNul : '\x00' ∉ path.toList)
    (short : path.utf8ByteSize ≤ pathLimit)
    (above : Walked tree (walk tree (startFrom tree.base path) (Path.names initial))
      (middle, none)) :
    Walked tree (walk tree (startFrom tree.base path) (Path.names initial ++ [String.ofList name]))
      (middle.ensureDirectory path) := by
  have free := above.error.symm
  obtain ⟨places, fits⟩ := walk_free free
  have filtered : (stepsOf (String.ofList initial)).filter (· ≠ ".") = Path.names initial := by
    rw [← names_eq_filter, String.toList_ofList]
  have descended : middle.descend (startFrom middle.base path) (stepsOf (String.ofList initial)) =
      .ok (lead (startFrom middle.base path) (Path.names initial)) := by
    rw [descend_eq_ok_iff, filtered, grown.base]
    refine ⟨rfl, fits, fun passed member => (above.directory passed).mpr (.inr ?_)⟩
    rw [places]
    exact member
  have last := (walked_ensureDirectory ends wellFormed noNul short descended).1
  have same (start : Location) : walk middle start [String.ofList name] =
      walk tree start [String.ofList name] :=
    walk_congr fun passed _ => by rw [grown.fileAt?_eq]
  rw [same, grown.base] at last
  rw [walk_append free]
  exact above.trans last

/-- A path is not straight to a file if something is missing on the way to it. -/
theorem ne_alreadyExists_of_descend (wellFormed : tree.WellFormed)
    (straight : tree.Straight directory)
    (missing : tree.descend (startFrom tree.base directory) steps = .error .notFound)
    (same : Path.names directory.toList = steps.filter (· ≠ "."))
    (stopped : (walk tree (startFrom tree.base directory) (Path.names directory.toList)).2 =
      some error) : error ≠ .alreadyExists := by
  rintro rfl
  obtain ⟨contents, file⟩ := Option.isSome_iff_exists.mp (walk_alreadyExists stopped)
  obtain ⟨passed, member, absent⟩ := exists_missing_of_descend missing
  rw [← same] at member
  exact straight.standing wellFormed (fileAt?_eq_some.mp file) passed member absent

section CreateAll

variable {fuel : Nat} (ends : Ends initial name path) (wellFormed : tree.WellFormed)
  (noNul : '\x00' ∉ path.toList) (short : path.utf8ByteSize ≤ pathLimit)

include ends wellFormed noNul short

/-- Everything above a path is there, and only its own directory is left to make. -/
theorem walked_createAll_of_descend {above : Location}
    (descended : tree.descend (startFrom tree.base path) (stepsOf (String.ofList initial)) =
      .ok above) :
    Walked tree (walk tree (startFrom tree.base path) (Path.names initial ++ [String.ofList name]))
      (createAll path tree (fuel + 1)) := by
  obtain ⟨led, fits, directories⟩ := descend_eq_ok_iff.mp descended
  rw [← names_eq_filter, String.toList_ofList] at led fits directories
  rw [led] at descended
  obtain ⟨walked, there⟩ := walked_ensureDirectory ends wellFormed noNul short descended
  have early : Walked tree
      (walk tree (startFrom tree.base path) (Path.names initial)) (tree, none) := by
    rw [walk_of_directories fits directories]
    exact .unchanged directories
  rw [walk_append early.error.symm, createAll, ends.isEmpty_eq]
  simp only [Bool.false_eq_true, if_false]
  split
  · rename_i absent some
    exact absurd absent there
  · exact early.trans walked

/-- What is missing above a path is made first. -/
theorem walked_createAll_of_missing (found : parent? path = some directory)
    (parent : Parent initial path directory) (straight : tree.Straight directory)
    (missing : tree.descend (startFrom tree.base path) (stepsOf (String.ofList initial)) =
      .error .notFound)
    (enough : directory.length < fuel)
    (above : Walked tree (walk tree (startFrom tree.base directory) (Path.names directory.toList))
      (createAll directory tree fuel)) :
    Walked tree (walk tree (startFrom tree.base path) (Path.names initial ++ [String.ofList name]))
      (createAll path tree (fuel + 1)) := by
  have located := locate_eq tree (stepsOf_of_ends ends) noNul short
  rw [missing, Except.bind] at located
  have start : startFrom tree.base directory = startFrom tree.base path := by
    rw [startFrom, startFrom, parent.absolute]
  have grown := createAll_extends directory tree fuel
  have wellFormedAbove :=
    (created_createAll directory tree fuel parent.tidy wellFormed enough).deepens.wellFormed
  rw [createAll, ends.isEmpty_eq, makeDirectory_of_error located, found]
  simp only [Bool.false_eq_true, if_false]
  split
  · rename_i middle result
    rw [result, start, parent.names] at above
    rw [result] at grown wellFormedAbove
    exact walked_below ends grown wellFormedAbove noNul short above
  · rename_i failed
    have some : (createAll directory tree fuel).2 ≠ none :=
      fun success => failed _ (Prod.ext rfl success)
    obtain ⟨error, stopped⟩ := Option.ne_none_iff_exists'.mp some
    rw [above.error] at stopped
    rw [← start] at missing
    have inner := ne_alreadyExists_of_descend wellFormed straight missing
      (by rw [parent.names, ← names_eq_filter, String.toList_ofList]) stopped
    rw [start, parent.names] at above stopped
    rw [walk_stopped stopped inner]
    exact above

end CreateAll

/-- All directories of a path that goes straight down are made that nothing stops. -/
theorem walked_createAll (path : String) (fuel : Nat) (tidy : Tidy path)
    (wellFormed : tree.WellFormed) (straight : tree.Straight path) (noNul : '\x00' ∉ path.toList)
    (short : path.utf8ByteSize ≤ pathLimit) (enough : path.length < fuel) :
    Walked tree (walk tree (startFrom tree.base path) (Path.names path.toList))
      (createAll path tree fuel) := by
  induction fuel generalizing path with
  | zero => omega
  | succ fuel ih =>
      obtain rfl | rfl | rfl | ⟨initial, name, ends⟩ := tidy.cases
      · exact .unchanged (List.forall_mem_nil _)
      · have cut : stepsOf "." = [] ++ ["."] := rfl
        have located := locate_eq tree cut (by decide) (by decide)
        rw [createAll_of_directory located (wellFormed.startFrom ".")]
        exact .unchanged (List.forall_mem_nil _)
      · have none : stepsOf "/" = [] := rfl
        have located := locate_eq_start tree none rfl (by decide) (by decide)
        rw [createAll_of_directory located rfl]
        exact .unchanged (List.forall_mem_nil _)
      rw [ends.names_eq]
      cases descended :
        tree.descend (startFrom tree.base path) (stepsOf (String.ofList initial)) with
      | ok above => exact walked_createAll_of_descend ends wellFormed noNul short descended
      | error error =>
          by_cases standing : error = .notFound
          · subst standing
            obtain ⟨directory, found, parent⟩ := ends.exists_parent
            have bound : directory.length < fuel := by have := parent.shorter; omega
            have straightAbove := straight.parent ends parent
            have above := ih directory parent.tidy straightAbove
              (fun member => noNul (parent.isPrefix.subset member))
              (Nat.le_trans (utf8ByteSize_le_of_isPrefix parent.isPrefix) short) bound
            exact walked_createAll_of_missing ends wellFormed noNul short found parent
              straightAbove descended bound above
          · have located := locate_eq tree (stepsOf_of_ends ends) noNul short
            rw [descended, Except.bind] at located
            have stopped := walk_of_descend descended standing
              (List.cons_ne_nil (String.ofList name) [])
            rw [← names_eq_filter, String.toList_ofList] at stopped
            rw [createAll_of_error ends.isEmpty_eq located standing, ← stopped.1]
            exact .unchanged stopped.2

/-- The walk along a path, unless the path is not even looked up. -/
def walkOf (tree : FileTree) (path : String) : List Location × Option FileError :=
  if '\x00' ∈ path.toList then ([], some .nulByte)
  else if pathLimit < path.utf8ByteSize then ([], some .nameTooLong)
  else walk tree (startFrom tree.base path) (Path.names path.toList)

theorem walkOf_congr (base : other.base = tree.base) (same : ∀ passed ∈ chainFrom tree.base path,
    (tree.fileAt? passed).isSome = (other.fileAt? passed).isSome) :
    walkOf tree path = walkOf other path := by
  rw [walkOf, walkOf, base, walk_congr same]

theorem walkOf_subset (tree : FileTree) (path : String) :
    (walkOf tree path).1 ⊆ chainFrom tree.base path := by
  rw [walkOf]
  split
  · exact List.nil_subset _
  split
  · exact List.nil_subset _
  · exact walk_subset tree _ _

theorem walkOf_free (free : (walkOf tree path).2 = none) :
    Lookable path ∧ (walkOf tree path).1 = chainFrom tree.base path := by
  rw [walkOf] at free ⊢
  split at free
  · cases free
  rename_i noNul
  split at free
  · cases free
  rename_i long
  obtain ⟨places, short⟩ := walk_free free
  rw [if_neg noNul, if_neg long]
  exact ⟨⟨noNul, Nat.not_lt.mp long, short⟩, places⟩

theorem locate_of_nul (tree : FileTree) (nul : '\x00' ∈ path.toList) :
    path.isEmpty = false ∧ tree.locate path = .error .nulByte := by
  have nonempty : path.isEmpty = false := by
    by_contra empty
    rw [Bool.not_eq_false, String.isEmpty_iff] at empty
    rw [empty] at nul
    cases nul
  rw [locate, nonempty]
  simp [nul]

theorem locate_of_long (tree : FileTree) (noNul : '\x00' ∉ path.toList)
    (long : pathLimit < path.utf8ByteSize) :
    path.isEmpty = false ∧ tree.locate path = .error .nameTooLong := by
  have nonempty : path.isEmpty = false := by
    by_contra empty
    rw [Bool.not_eq_false, String.isEmpty_iff] at empty
    rw [empty] at long
    cases long
  rw [locate, nonempty]
  simp [noNul, long]

/-- What directories are made along a path depends on where files stand. -/
theorem walked_createDirectories (tidy : Tidy path) (wellFormed : tree.WellFormed)
    (straight : tree.Straight path) :
    (tree.createDirectories path).2 =
        (walkOf tree path).2.map (fun error => { action := .createDirectory, path, error }) ∧
      ∀ place, (tree.createDirectories path).1.get? place = some .directory ↔
        tree.get? place = some .directory ∨ place ∈ (walkOf tree path).1 := by
  have walked : Walked tree (walkOf tree path) (createAll path tree (path.length + 1)) := by
    rw [walkOf]
    split
    · rename_i nul
      obtain ⟨nonempty, failed⟩ := locate_of_nul tree nul
      rw [createAll_of_error nonempty failed (by decide)]
      exact .unchanged (List.forall_mem_nil _)
    rename_i noNul
    split
    · rename_i long
      obtain ⟨nonempty, failed⟩ := locate_of_long tree noNul long
      rw [createAll_of_error nonempty failed (by decide)]
      exact .unchanged (List.forall_mem_nil _)
    · rename_i fits
      exact walked_createAll path (path.length + 1) tidy wellFormed straight noNul
        (Nat.not_lt.mp fits) (Nat.lt_succ_self _)
  rw [createDirectories]
  exact ⟨congrArg (Option.map _) walked.error, walked.directory⟩

end Make

section Again

variable {before after : FileTree} {text : String}

/-- A path is located along directories. -/
theorem exists_locate (nonempty : path.isEmpty = false) (lookable : Lookable path)
    (directories : ∀ passed ∈ chainFrom tree.base path, tree.get? passed = some .directory) :
    ∃ target, tree.locate path = .ok target := by
  rcases List.eq_nil_or_concat (stepsOf path) with none | ⟨initial, last, cut⟩
  · exact ⟨_, locate_eq_start tree none nonempty lookable.noNul lookable.short⟩
  rw [List.concat_eq_append] at cut
  have parts : ∃ more, Path.names path.toList = initial.filter (· ≠ ".") ++ more ∧
      (last ≠ "." → last ∈ more) := by
    by_cases dot : last = "."
    · exact ⟨[], by rw [names_of_last_dot cut dot, List.append_nil], absurd dot⟩
    · exact ⟨[last], names_of_last_name cut dot, fun _ => List.mem_singleton_self last⟩
  obtain ⟨more, parts, named⟩ := parts
  have short := lookable.names
  rw [chainFrom, parts, entered_append, List.forall_mem_append] at directories
  rw [parts, List.forall_mem_append] at short
  have descended := descend_eq_ok_iff.mpr ⟨rfl, short.1, directories.1⟩
  rw [locate_eq tree cut lookable.noNul lookable.short, descended, Except.bind, finish]
  split
  · exact ⟨_, rfl⟩
  rename_i shown
  split
  · exact ⟨_, rfl⟩
  rename_i inner
  rw [if_neg (Nat.not_lt.mpr (short.2 last (named shown) inner))]
  exact ⟨_, rfl⟩

/-- A directory that is there is not made again. -/
theorem createDirectories_of_reaches (nonempty : path ≠ "") (reaches : tree.Reaches path)
    (here : tree.get? (placeFrom tree.base path) = some .directory) :
    tree.createDirectories path = (tree, none) := by
  have shown : path.isEmpty = false := by
    rw [← Bool.not_eq_true, String.isEmpty_iff]
    exact nonempty
  obtain ⟨target, located⟩ := exists_locate shown reaches.lookable (reaches.chain here)
  rw [createDirectories, createAll_of_directory located here]
  rfl

/-- A path still leads where it led to. -/
theorem Keeps.locate {target : Target} (keeps : Keeps before after)
    (located : before.locate path = .ok target) :
    after.locate path = .ok { target with node := after.get? target.location } := by
  obtain ⟨nonempty, noNul, short⟩ := bounds_of_locate located
  have start : startFrom after.base path = startFrom before.base path := by rw [keeps.base]
  rcases List.eq_nil_or_concat (stepsOf path) with none | ⟨initial, last, cut⟩
  · rw [locate_eq_start before none nonempty noNul short] at located
    rw [locate_eq_start after none nonempty noNul short, start]
    cases located
    rfl
  rw [List.concat_eq_append] at cut
  rw [locate_eq before cut noNul short] at located
  cases descended : before.descend (startFrom before.base path) initial with
  | error error =>
      rw [descended] at located
      cases located
  | ok directory =>
      obtain ⟨led, fits, directories⟩ := descend_eq_ok_iff.mp descended
      have again : after.descend (startFrom after.base path) initial = .ok directory := by
        rw [start, descend_eq_ok_iff]
        exact ⟨led, fits, fun passed member => keeps.directory (directories passed member)⟩
      rw [descended, Except.bind, finish] at located
      rw [locate_eq after cut noNul short, again, Except.bind, finish]
      split at located
      · rename_i dot
        cases located
        rw [if_pos dot]
      rename_i shown
      rw [if_neg shown]
      split at located
      · rename_i up
        cases located
        rw [if_pos up]
      rename_i inner
      rw [if_neg inner]
      split at located
      · cases located
      · rename_i fits
        cases located
        rw [if_neg fits]

/-- A file that stays can still be read. -/
theorem Keeps.readText (keeps : Keeps before after)
    (kept : ∀ contents, before.get? (placeFrom before.base path) = some (.file contents) →
      after.get? (placeFrom before.base path) = some (.file contents))
    (read : before.readText path = .ok text) : after.readText path = .ok text := by
  rw [FileTree.readText, find] at read
  cases located : before.locate path with
  | error error =>
      rw [located] at read
      cases read
  | ok target =>
      obtain ⟨-, location, here⟩ := reaches_of_locate located
      rw [located] at read
      cases found : target.node with
      | none => simp [bind, Except.bind, found] at read
      | some node =>
          cases node with
          | directory => simp [bind, Except.bind, pure, Except.pure, found] at read
          | file contents =>
              have file := kept contents (here.symm.trans found)
              rw [← location] at file
              rw [FileTree.readText, find, keeps.locate located, file]
              cases plain : target.plain with
              | false => simp [bind, Except.bind, found, plain] at read
              | true =>
                  simp [bind, Except.bind, pure, Except.pure, found, plain] at read ⊢
                  exact read

section Entry

variable {front last : List Char} {entry : String} (ends : Ends front last directory)
  (isName : IsName entry.toList)
include ends isName

/-- Why an entry of a directory cannot be looked up has nothing to do with the tree. -/
theorem exists_locate_error (inner : entry ≠ "..") (unfit : ¬ Lookable (join directory entry)) :
    ∃ error, ∀ tree : FileTree, tree.Reaches directory →
      tree.get? (placeFrom tree.base directory) = some .directory →
      tree.locate (join directory entry) = .error error := by
  by_cases nul : '\x00' ∈ (join directory entry).toList
  · exact ⟨.nulByte, fun tree _ _ => (locate_of_nul tree nul).2⟩
  by_cases long : pathLimit < (join directory entry).utf8ByteSize
  · exact ⟨.nameTooLong, fun tree _ _ => (locate_of_long tree nul long).2⟩
  refine ⟨.nameTooLong, fun tree reaches here => ?_⟩
  have below := ends.join_ends isName
  have parts := (ends.join_parent isName).2.names
  have start : startFrom tree.base (join directory entry) = startFrom tree.base directory := by
    rw [startFrom, startFrom, (ends.join_parent isName).2.absolute]
  have descended : tree.descend (startFrom tree.base (join directory entry))
      (stepsOf (String.ofList (directory.toList ++ ['/']))) =
        .ok (lead (startFrom tree.base directory) (Path.names directory.toList)) := by
    rw [descend_eq_ok_iff, ← names_eq_filter, String.toList_ofList, ← parts, start]
    exact ⟨rfl, reaches.lookable.names, reaches.chain here⟩
  have tooLong : nameLimit < entry.utf8ByteSize := by
    rw [← Nat.not_le]
    intro fits
    refine unfit ⟨nul, Nat.not_lt.mp long, ?_⟩
    rw [below.names_eq, ← parts, List.forall_mem_append, String.ofList_toList,
      List.forall_mem_singleton]
    exact ⟨reaches.lookable.names, fun _ => fits⟩
  have shown : entry ≠ "." := fun dot => isName.visible (by rw [dot]; rfl)
  rw [locate_eq tree (stepsOf_of_ends below) nul (Nat.not_lt.mp long), descended, Except.bind,
    String.ofList_toList, finish, if_neg shown, if_neg inner, if_pos tooLong]

/-- Whether an entry of a directory can be written depends on whether it is a directory itself. -/
theorem writeText_congr (inner : entry ≠ "..") (base : other.base = tree.base)
    (reaches : tree.Reaches directory)
    (here : tree.get? (placeFrom tree.base directory) = some .directory)
    (otherReaches : other.Reaches directory)
    (otherHere : other.get? (placeFrom tree.base directory) = some .directory)
    (same : tree.get? (placeFrom tree.base directory ++ [entry]) = some .directory ↔
      other.get? (placeFrom tree.base directory ++ [entry]) = some .directory)
    (failure : FileFailure) :
    tree.writeText (join directory entry) text = .error failure ↔
      other.writeText (join directory entry) text = .error failure := by
  have place := placeFrom_join_name isName inner tree.base directory
  rw [← base] at otherHere
  by_cases lookable : Lookable (join directory entry)
  · have below := ends.join_ends isName
    have named : String.ofList entry.toList ≠ ".." := by rwa [String.ofList_toList]
    have found := reaches.join ends isName here lookable
    have otherFound := otherReaches.join ends isName otherHere lookable
    rw [← place] at same
    by_cases standing : tree.get? (placeFrom tree.base (join directory entry)) = some .directory
    · have otherStanding := same.mp standing
      have located := locate_of_ends below found
      have otherLocated := locate_of_ends below otherFound
      rw [standing] at located
      rw [base, otherStanding] at otherLocated
      rw [writeText, writeText, writeFile, writeFile, located, otherLocated]
      rfl
    · have otherStanding := fun directory => standing (same.mpr directory)
      rw [← base] at otherStanding
      rw [writeText_of_reaches below named found standing,
        writeText_of_reaches below named otherFound otherStanding]
      simp
  · obtain ⟨error, failed⟩ := exists_locate_error ends isName inner lookable
    rw [writeText, writeText, writeFile, writeFile, failed tree reaches here,
      failed other otherReaches otherHere]
    rfl

end Entry

end Again

end DirSchema.FileTree
