import DirSchema.FileTree.Operations
import DirSchema.Proofs.Path
set_option autoImplicit false

namespace DirSchema

namespace Path

def lead (start : Location) : List String → Location
  | [] => start
  | name :: rest => if name = ".." then lead start.dropLast rest else lead (start ++ [name]) rest

/-- The places that names enter, one after another. -/
def entered (start : Location) : List String → List Location
  | [] => []
  | name :: rest =>
    if name = ".." then entered start.dropLast rest
    else (start ++ [name]) :: entered (start ++ [name]) rest

def startFrom (base : Location) (path : String) : Location := if isAbsolute path then [] else base

def placeFrom (base : Location) (path : String) : Location :=
  lead (startFrom base path) (names path.toList)

/-- The places that a path enters, its own included if its last name is one of an entry. -/
def chainFrom (base : Location) (path : String) : List Location :=
  entered (startFrom base path) (names path.toList)

/-- The places that a path enters before its last name. -/
def aboveFrom (base : Location) (path : String) : List Location :=
  entered (startFrom base path) (names path.toList).dropLast

/-- A path that is short enough to be looked up. -/
structure Lookable (path : String) : Prop where
  noNul : '\x00' ∉ path.toList
  short : path.utf8ByteSize ≤ FileTree.pathLimit
  names : ∀ name ∈ names path.toList, name ≠ ".." → name.utf8ByteSize ≤ FileTree.nameLimit

variable {base start : Location} {front name : List Char} {path directory : String}

theorem lead_append (start : Location) (front back : List String) :
    lead start (front ++ back) = lead (lead start front) back := by
  induction front generalizing start with
  | nil => rfl
  | cons name rest ih =>
      rw [List.cons_append, lead, lead]
      split <;> exact ih _

theorem entered_append (start : Location) (front back : List String) :
    entered start (front ++ back) = entered start front ++ entered (lead start front) back := by
  induction front generalizing start with
  | nil => rfl
  | cons name rest ih =>
      rw [List.cons_append, entered, entered, lead]
      split
      · exact ih _
      · rw [ih, List.cons_append]

theorem aboveFrom_subset_chainFrom (base : Location) (path : String) :
    aboveFrom base path ⊆ chainFrom base path := by
  rw [aboveFrom, chainFrom]
  cases text : (names path.toList).getLast? with
  | none =>
      rw [List.getLast?_eq_none_iff.mp text]
      exact List.Subset.refl _
  | some last =>
      obtain ⟨initial, split⟩ := List.getLast?_eq_some_iff.mp text
      rw [split, List.dropLast_concat, entered_append]
      exact List.subset_append_left _ _

theorem utf8ByteSize_le_of_isPrefix {shorter : String}
    (isPrefix : shorter.toList.IsPrefix path.toList) :
    shorter.utf8ByteSize ≤ path.utf8ByteSize := by
  obtain ⟨rest, text⟩ := isPrefix
  have whole : path = shorter ++ String.ofList rest := by
    rw [← String.toList_inj, String.toList_append, String.toList_ofList, text]
  rw [whole, String.utf8ByteSize_append]
  omega

theorem Lookable.of_isPrefix {shorter : String} (lookable : Lookable path)
    (isPrefix : shorter.toList.IsPrefix path.toList)
    (parts : Path.names shorter.toList ⊆ Path.names path.toList) : Lookable shorter where
  noNul := fun member => lookable.noNul (isPrefix.subset member)
  short := Nat.le_trans (utf8ByteSize_le_of_isPrefix isPrefix) lookable.short
  names := fun part member => lookable.names part (parts member)

section Ends

variable (ends : Ends front name path)
include ends

theorem Ends.aboveFrom_eq (base : Location) :
    aboveFrom base path = entered (startFrom base path) (names front) := by
  rw [aboveFrom, ends.names_eq, List.dropLast_concat]

theorem Ends.placeFrom_eq (base : Location) :
    placeFrom base path =
      lead (lead (startFrom base path) (names front)) [String.ofList name] := by
  rw [placeFrom, ends.names_eq, lead_append]

theorem Ends.placeFrom_of_name (entry : String.ofList name ≠ "..") (base : Location) :
    placeFrom base path = lead (startFrom base path) (names front) ++ [String.ofList name] := by
  rw [ends.placeFrom_eq, lead, if_neg entry, lead]

theorem Ends.chainFrom_of_name (entry : String.ofList name ≠ "..") (base : Location) :
    chainFrom base path = aboveFrom base path ++ [placeFrom base path] := by
  rw [chainFrom, ends.aboveFrom_eq, ends.placeFrom_of_name entry, ends.names_eq, entered_append,
    entered, if_neg entry, entered]

theorem Ends.chainFrom_of_up (up : String.ofList name = "..") (base : Location) :
    chainFrom base path = aboveFrom base path := by
  rw [chainFrom, ends.aboveFrom_eq, ends.names_eq, entered_append, entered, if_pos up, entered,
    List.append_nil]

theorem Ends.chainFrom_parent (parent : Parent front path directory) (base : Location) :
    chainFrom base directory = aboveFrom base path := by
  rw [chainFrom, ends.aboveFrom_eq, startFrom, startFrom, parent.names, parent.absolute]

theorem Ends.placeFrom_below (parent : Parent front path directory)
    (entry : String.ofList name ≠ "..") (base : Location) :
    placeFrom base path = placeFrom base directory ++ [String.ofList name] := by
  rw [ends.placeFrom_of_name entry, placeFrom, startFrom, startFrom, parent.names, parent.absolute]

theorem Ends.lookable_parent (parent : Parent front path directory) (lookable : Lookable path) :
    Lookable directory := by
  apply lookable.of_isPrefix parent.isPrefix
  rw [parent.names, ends.names_eq]
  exact List.subset_append_left _ _

end Ends
end Path

namespace FileTree

open DirSchema.Path

variable {tree made : FileTree} {start place other : Location} {node : Node} {path : String}
  {front name : List Char}

@[simp] theorem get?_nil (tree : FileTree) : tree.get? [] = some .directory := rfl

@[simp] theorem base_put (tree : FileTree) (place : Location) (node : Node) :
    (tree.put place node).base = tree.base := rfl

theorem ne_nil_of_get? (other : tree.get? place ≠ some .directory) : place ≠ [] := by
  rintro rfl
  exact other rfl

theorem get?_put_self (inner : place ≠ []) : (tree.put place node).get? place = some node := by
  simp [get?, put, inner]

theorem lookup_filter_of_ne (apart : other ≠ place) (nodes : List (Location × Node)) :
    (nodes.filter (·.1 != place)).lookup other = nodes.lookup other := by
  induction nodes with
  | nil => rfl
  | cons entry rest ih =>
      obtain ⟨here, node⟩ := entry
      by_cases same : here = place
      · have different : (other == here) = false := by
          rw [beq_eq_false_iff_ne, same]
          exact apart
        rw [List.filter_cons_of_neg (by simp [same]), List.lookup_cons, different, ih]
      · rw [List.filter_cons_of_pos (by simp [same]), List.lookup_cons, List.lookup_cons, ih]

theorem get?_put_of_ne (apart : other ≠ place) :
    (tree.put place node).get? other = tree.get? other := by
  rw [get?, get?]
  split
  · rfl
  · rw [put, List.lookup_cons, beq_eq_false_iff_ne.mpr apart]
    exact lookup_filter_of_ne apart tree.nodes

theorem mem_nodes_of_get? (inner : place ≠ []) (found : tree.get? place = some node) :
    (place, node) ∈ tree.nodes := by
  rw [get?, if_neg inner, List.lookup_eq_some_iff] at found
  obtain ⟨earlier, later, split, -⟩ := found
  rw [split]
  simp

section Descend

theorem descend_eq_ok_iff {steps : List String} :
    tree.descend start steps = .ok place ↔
      place = lead start (steps.filter (· ≠ ".")) ∧
        (∀ name ∈ steps.filter (· ≠ "."), name ≠ ".." → name.utf8ByteSize ≤ nameLimit) ∧
        ∀ passed ∈ entered start (steps.filter (· ≠ ".")),
          tree.get? passed = some .directory := by
  induction steps generalizing start with
  | nil => simp [descend, lead, entered, eq_comm]
  | cons name rest ih =>
      rw [descend]
      by_cases dot : name = "."
      · simp [dot, ih]
      by_cases up : name = ".."
      · simp [up, ih, lead, entered]
      by_cases long : nameLimit < name.utf8ByteSize
      · have refused : ¬ ∀ part ∈ (name :: rest).filter (· ≠ "."), part ≠ ".." →
            part.utf8ByteSize ≤ nameLimit := by
          intro short
          exact Nat.not_lt.mpr (short name (by simp [dot]) up) long
        rw [if_neg dot, if_neg up, if_pos long]
        simp only [reduceCtorEq, false_iff, not_and]
        intro _ short
        exact absurd short refused
      · have short := Nat.not_lt.mp long
        cases standing : tree.get? (start ++ [name]) with
        | none => simp [dot, up, long, standing, entered]
        | some node =>
            cases node with
            | file contents => simp [dot, up, long, standing, entered]
            | directory => simp [dot, up, long, short, standing, ih, lead, entered]

/-- Why a name does not lead on to a directory. -/
inductive Blocked (tree : FileTree) (above : Location) (name : String) : FileError → Prop
  | long (long : nameLimit < name.utf8ByteSize) : Blocked tree above name .nameTooLong
  | missing (short : ¬ nameLimit < name.utf8ByteSize)
      (missing : tree.get? (above ++ [name]) = none) : Blocked tree above name .notFound
  | file (short : ¬ nameLimit < name.utf8ByteSize) (contents : ByteArray)
      (found : tree.get? (above ++ [name]) = some (.file contents)) :
      Blocked tree above name .notDirectory

/-- Names that lead through directories up to the first one that is blocked. -/
def Stuck (tree : FileTree) (start : Location) (names : List String) (error : FileError) : Prop :=
  ∃ front name back, names = front ++ name :: back ∧ name ≠ ".." ∧
    (∀ part ∈ front, part ≠ ".." → part.utf8ByteSize ≤ nameLimit) ∧
    (∀ passed ∈ entered start front, tree.get? passed = some .directory) ∧
    Blocked tree (lead start front) name error

section Stuck

variable {name : String} {names : List String} {error : FileError}

private theorem Blocked.stuck (blocked : Blocked tree start name error) (entry : name ≠ "..") :
    Stuck tree start (name :: names) error :=
  ⟨[], name, names, rfl, entry, List.forall_mem_nil _, List.forall_mem_nil _, blocked⟩

private theorem Stuck.up (stuck : Stuck tree start.dropLast names error) :
    Stuck tree start (".." :: names) error := by
  obtain ⟨front, stop, back, split, entry, short, directories, blocked⟩ := stuck
  refine ⟨".." :: front, stop, back, by rw [split, List.cons_append], entry,
    List.forall_mem_cons.mpr ⟨fun named => absurd rfl named, short⟩, ?_, ?_⟩
  · rwa [entered, if_pos rfl]
  · rwa [lead, if_pos rfl]

private theorem Stuck.down (stuck : Stuck tree (start ++ [name]) names error) (inner : name ≠ "..")
    (fits : ¬ nameLimit < name.utf8ByteSize)
    (found : tree.get? (start ++ [name]) = some .directory) :
    Stuck tree start (name :: names) error := by
  obtain ⟨front, stop, back, split, entry, short, directories, blocked⟩ := stuck
  refine ⟨name :: front, stop, back, by rw [split, List.cons_append], entry,
    List.forall_mem_cons.mpr ⟨fun _ => Nat.not_lt.mp fits, short⟩, ?_, ?_⟩
  · rw [entered, if_neg inner]
    exact List.forall_mem_cons.mpr ⟨found, directories⟩
  · rwa [lead, if_neg inner]

end Stuck

theorem stuck_of_descend {steps : List String} {error : FileError}
    (failed : tree.descend start steps = .error error) :
    Stuck tree start (steps.filter (· ≠ ".")) error := by
  induction steps generalizing start with
  | nil => cases failed
  | cons name rest ih =>
      rw [descend] at failed
      by_cases dot : name = "."
      · rw [if_pos dot] at failed
        rw [List.filter_cons_of_neg (by simp [dot])]
        exact ih failed
      rw [if_neg dot] at failed
      rw [List.filter_cons_of_pos (by simp [dot])]
      by_cases up : name = ".."
      · rw [if_pos up] at failed
        rw [up]
        exact (ih failed).up
      rw [if_neg up] at failed
      by_cases long : nameLimit < name.utf8ByteSize
      · rw [if_pos long] at failed
        cases failed
        exact Blocked.stuck (.long long) up
      rw [if_neg long] at failed
      cases found : tree.get? (start ++ [name]) with
      | none =>
          rw [found] at failed
          cases failed
          exact Blocked.stuck (.missing long found) up
      | some node =>
          rw [found] at failed
          cases node with
          | file contents =>
              cases failed
              exact Blocked.stuck (.file long contents found) up
          | directory => exact (ih failed).down up long found

theorem mem_entered_append_cons {name : String} (front back : List String) (entry : name ≠ "..") :
    lead start front ++ [name] ∈ entered start (front ++ name :: back) := by
  rw [entered_append, entered, if_neg entry]
  exact List.mem_append_right _ List.mem_cons_self

/-- What keeps names from leading to a directory, if no file is in their way and all are short, is
a directory that is not there. -/
theorem error_of_descend {steps : List String} {error : FileError}
    (short : ∀ name ∈ steps.filter (· ≠ "."), name ≠ ".." → name.utf8ByteSize ≤ nameLimit)
    (free : ∀ passed ∈ entered start (steps.filter (· ≠ ".")), ∀ contents,
      tree.get? passed ≠ some (.file contents))
    (failed : tree.descend start steps = .error error) : error = .notFound := by
  obtain ⟨front, name, back, split, entry, -, -, blocked⟩ := stuck_of_descend failed
  rw [split] at short free
  cases blocked with
  | long long => exact absurd long (Nat.not_lt.mpr (short name (by simp) entry))
  | missing => rfl
  | file _ contents found =>
      exact absurd found (free _ (mem_entered_append_cons front back entry) contents)

end Descend

section Locate

theorem names_eq_filter (path : String) :
    names path.toList = (stepsOf path).filter (· ≠ ".") := rfl

section Cut

variable {initial : List String} {last : String} (cut : stepsOf path = initial ++ [last])
include cut

theorem names_of_last_dot (dot : last = ".") :
    names path.toList = initial.filter (· ≠ ".") := by
  rw [names_eq_filter, cut, List.filter_append, List.filter_cons_of_neg (by simp [dot]),
    List.filter_nil, List.append_nil]

theorem names_of_last_name (shown : last ≠ ".") :
    names path.toList = initial.filter (· ≠ ".") ++ [last] := by
  rw [names_eq_filter, cut, List.filter_append, List.filter_cons_of_pos (by simp [shown]),
    List.filter_nil]

end Cut

theorem lead_up (start : Location) : lead start [".."] = start.dropLast := rfl

theorem lead_name {part : String} (entry : part ≠ "..") (start : Location) :
    lead start [part] = start ++ [part] := by
  rw [lead, if_neg entry, lead]

/-- What the last step of a path finds in the directory that the others lead to. -/
def finish (tree : FileTree) (path : String) (directory : Location) (last : String) :
    Except FileError Target :=
  if last = "." then
    .ok { location := directory, node := tree.get? directory, plain := false }
  else if last = ".." then
    .ok { location := directory.dropLast, node := tree.get? directory.dropLast, plain := false }
  else if nameLimit < last.utf8ByteSize then .error .nameTooLong
  else
    .ok
      { location := directory ++ [last]
        node := tree.get? (directory ++ [last])
        plain := !Text.endsWith '/' path.toList }

theorem locate_eq (tree : FileTree) {initial : List String} {last : String}
    (cut : stepsOf path = initial ++ [last]) (noNul : '\x00' ∉ path.toList)
    (short : path.utf8ByteSize ≤ pathLimit) :
    tree.locate path =
      (tree.descend (startFrom tree.base path) initial).bind fun directory =>
        tree.finish path directory last := by
  have nonempty : path.isEmpty = false := by
    by_contra empty
    rw [Bool.not_eq_false, String.isEmpty_iff] at empty
    rw [empty, show stepsOf "" = [] from rfl] at cut
    simp at cut
  have nul : path.toList.contains '\x00' = false := by simpa using noNul
  rw [locate, nonempty, nul]
  simp only [Bool.false_eq_true, if_false, if_neg (Nat.not_lt.mpr short), cut,
    List.getLast?_concat, List.dropLast_concat]
  rfl

theorem locate_eq_start (tree : FileTree) (none : stepsOf path = []) (nonempty : path.isEmpty = false)
    (noNul : '\x00' ∉ path.toList) (short : path.utf8ByteSize ≤ pathLimit) :
    tree.locate path = .ok
      { location := startFrom tree.base path
        node := tree.get? (startFrom tree.base path)
        plain := false } := by
  have nul : path.toList.contains '\x00' = false := by simpa using noNul
  rw [locate, nonempty, nul]
  simp only [Bool.false_eq_true, if_false, if_neg (Nat.not_lt.mpr short), none, List.getLast?_nil]
  rfl

theorem bounds_of_locate {target : Target} (found : tree.locate path = .ok target) :
    path.isEmpty = false ∧ '\x00' ∉ path.toList ∧ path.utf8ByteSize ≤ pathLimit := by
  rw [locate] at found
  split at found
  · cases found
  split at found
  · cases found
  split at found
  · cases found
  rename_i nonempty nul long
  exact ⟨by simpa using nonempty, by simpa using nul, Nat.not_lt.mp long⟩

/-- A path that leads to its place. -/
structure Reaches (tree : FileTree) (path : String) : Prop where
  lookable : Lookable path
  above : ∀ passed ∈ aboveFrom tree.base path, tree.get? passed = some .directory

/-- A path that is located leads to the place that its names spell out. -/
theorem reaches_of_locate {target : Target} (found : tree.locate path = .ok target) :
    tree.Reaches path ∧ target.location = placeFrom tree.base path ∧
      target.node = tree.get? (placeFrom tree.base path) := by
  obtain ⟨nonempty, noNul, short⟩ := bounds_of_locate found
  rcases List.eq_nil_or_concat (stepsOf path) with none | ⟨initial, last, cut⟩
  · have nothing : names path.toList = [] := by rw [names_eq_filter, none, List.filter_nil]
    have place : placeFrom tree.base path = startFrom tree.base path := by
      rw [placeFrom, nothing, lead]
    rw [locate_eq_start tree none nonempty noNul short] at found
    cases found
    refine ⟨⟨⟨noNul, short, by simp [nothing]⟩, by simp [aboveFrom, nothing, entered]⟩, ?_, ?_⟩
    · exact place.symm
    · rw [place]
  rw [List.concat_eq_append] at cut
  rw [locate_eq tree cut noNul short] at found
  cases descended : tree.descend (startFrom tree.base path) initial with
  | error error =>
      rw [descended] at found
      cases found
  | ok directory =>
      rw [descended, Except.bind, finish] at found
      obtain ⟨led, fits, directories⟩ := descend_eq_ok_iff.mp descended
      by_cases dot : last = "."
      · have parts := names_of_last_dot cut dot
        have place : placeFrom tree.base path = directory := by rw [placeFrom, parts, ← led]
        rw [if_pos dot] at found
        cases found
        refine ⟨⟨⟨noNul, short, by rwa [parts]⟩, ?_⟩, place.symm, by rw [place]⟩
        intro passed member
        have entered := aboveFrom_subset_chainFrom tree.base path member
        rw [chainFrom, parts] at entered
        exact directories passed entered
      have parts := names_of_last_name cut dot
      have above : ∀ passed ∈ aboveFrom tree.base path, tree.get? passed = some .directory := by
        rw [aboveFrom, parts, List.dropLast_concat]
        exact directories
      have place : placeFrom tree.base path = lead directory [last] := by
        rw [placeFrom, parts, lead_append, ← led]
      have named (fit : last ≠ ".." → last.utf8ByteSize ≤ nameLimit) :
          ∀ part ∈ names path.toList, part ≠ ".." → part.utf8ByteSize ≤ nameLimit := by
        intro part member entry
        rw [parts, List.mem_append, List.mem_singleton] at member
        rcases member with early | rfl
        · exact fits part early entry
        · exact fit entry
      rw [if_neg dot] at found
      by_cases up : last = ".."
      · rw [if_pos up] at found
        rw [up, lead_up] at place
        cases found
        exact ⟨⟨⟨noNul, short, named (absurd up)⟩, above⟩, place.symm, by rw [place]⟩
      · rw [if_neg up] at found
        rw [lead_name up] at place
        split at found
        · cases found
        rename_i long
        cases found
        exact ⟨⟨⟨noNul, short, named fun _ => Nat.not_lt.mp long⟩, above⟩, place.symm,
          by rw [place]⟩

section Ends

variable (ends : Ends front name path)
include ends

theorem stepsOf_of_ends :
    stepsOf path = stepsOf (String.ofList front) ++ [String.ofList name] := by
  have single := fields_of_single ends.isName.single
  have nonempty := ends.isName.nonempty
  rw [stepsOf, stepsOf, ends.text, String.toList_ofList]
  obtain rfl | ⟨before, rfl⟩ := ends.opens.cases
  · simp [single, nonempty, Text.fields]
  · rw [List.append_assoc, List.singleton_append, Text.fields_append _ _ _ _ (by decide), single,
      Text.fields_append _ _ _ _ (by decide), List.filterMap_append, List.filterMap_append]
    simp [nonempty, Text.fields]

theorem finish_of_ends (lookable : Lookable path) (directory : Location) :
    tree.finish path directory (String.ofList name) = .ok
      { location := lead directory [String.ofList name]
        node := tree.get? (lead directory [String.ofList name])
        plain := String.ofList name ≠ ".." } := by
  have shown : String.ofList name ≠ "." := by
    intro same
    exact ends.isName.visible (by simpa using congrArg String.toList same)
  rw [finish, if_neg shown]
  by_cases up : String.ofList name = ".."
  · simp [up, lead_up]
  · have fits := lookable.names (String.ofList name) (by simp [ends.names_eq]) up
    have stops : Text.endsWith '/' path.toList = false := by
      rw [Text.endsWith, beq_eq_false_iff_ne, ends.text,
        List.getLast?_append_of_ne_nil _ ends.isName.nonempty]
      intro last
      exact ends.isName.single (List.mem_of_getLast? last)
    rw [if_neg up, if_neg (Nat.not_lt.mpr fits), lead_name up, stops]
    simp [up]

theorem locate_of_ends (reaches : tree.Reaches path) :
    tree.locate path = .ok
      { location := placeFrom tree.base path
        node := tree.get? (placeFrom tree.base path)
        plain := String.ofList name ≠ ".." } := by
  have lookable := reaches.lookable
  have above := reaches.above
  rw [ends.aboveFrom_eq] at above
  have directory : tree.descend (startFrom tree.base path) (stepsOf (String.ofList front)) =
      .ok (lead (startFrom tree.base path) (names front)) := by
    rw [descend_eq_ok_iff, ← names_eq_filter, String.toList_ofList]
    refine ⟨rfl, ?_, above⟩
    intro part member
    exact lookable.names part (by rw [ends.names_eq]; exact List.mem_append_left _ member)
  rw [locate_eq tree (stepsOf_of_ends ends) lookable.noNul lookable.short, directory, Except.bind,
    finish_of_ends ends lookable, ends.placeFrom_eq]

theorem error_of_locate (lookable : Lookable path)
    (free : ∀ passed ∈ aboveFrom tree.base path, ∀ contents,
      tree.get? passed ≠ some (.file contents)) {error : FileError}
    (failed : tree.locate path = .error error) : error = .notFound := by
  rw [ends.aboveFrom_eq] at free
  rw [locate_eq tree (stepsOf_of_ends ends) lookable.noNul lookable.short] at failed
  cases descended : tree.descend (startFrom tree.base path) (stepsOf (String.ofList front)) with
  | ok directory =>
      rw [descended, Except.bind, finish_of_ends ends lookable] at failed
      cases failed
  | error other =>
      rw [descended] at failed
      cases failed
      apply error_of_descend _ _ descended
      · intro part member
        rw [← names_eq_filter, String.toList_ofList] at member
        exact lookable.names part (by rw [ends.names_eq]; exact List.mem_append_left _ member)
      · rw [← names_eq_filter, String.toList_ofList]
        exact free

end Ends

end Locate

end FileTree
end DirSchema
