import DirSchema.Proofs.FileTree.Directories
set_option autoImplicit false

namespace DirSchema

namespace Path

variable {path directory : String} {front name : List Char} {base : Location}

/-- A path without separators and dots at its end. -/
def tidied (path : String) : String :=
  if trimmed path.toList = [] then if isAbsolute path then "/" else ""
  else String.ofList (trimmed path.toList)

private theorem toList_tidied (some : trimmed path.toList ≠ []) :
    (tidied path).toList = trimmed path.toList := by
  rw [tidied, if_neg some, String.toList_ofList]

theorem tidied_cases (path : String) :
    (trimmed path.toList = [] ∧ isAbsolute path = true ∧ tidied path = "/") ∨
    (trimmed path.toList = [] ∧ isAbsolute path = false ∧ tidied path = "") ∨
    (trimmed path.toList ≠ [] ∧ (tidied path).toList = trimmed path.toList) := by
  by_cases nothing : trimmed path.toList = []
  · cases absolute : isAbsolute path with
    | true => exact .inl ⟨nothing, rfl, by simp [tidied, nothing, absolute]⟩
    | false => exact .inr (.inl ⟨nothing, rfl, by simp [tidied, nothing, absolute]⟩)
  · exact .inr (.inr ⟨nothing, toList_tidied nothing⟩)

theorem names_tidied (path : String) : names (tidied path).toList = names path.toList := by
  rw [← names_trimmed path.toList]
  rcases tidied_cases path with ⟨nothing, -, text⟩ | ⟨nothing, -, text⟩ | ⟨-, text⟩
  · rw [nothing, text]
    rfl
  · rw [nothing, text]
    rfl
  · rw [text]

theorem isAbsolute_tidied (path : String) : isAbsolute (tidied path) = isAbsolute path := by
  rcases tidied_cases path with ⟨-, absolute, text⟩ | ⟨-, relative, text⟩ | ⟨some, text⟩
  · rw [absolute, text]
    rfl
  · rw [relative, text]
    rfl
  · obtain ⟨rest, whole⟩ := trimmed_isPrefix path.toList
    have head : path.toList.head? = (trimmed path.toList).head? := by
      conv_lhs => rw [← whole, List.head?_append_of_ne_nil _ some]
    rw [isAbsolute_eq, isAbsolute_eq, text, head]

theorem tidied_isPrefix (path : String) : (tidied path).toList.IsPrefix path.toList := by
  rcases tidied_cases path with ⟨-, absolute, text⟩ | ⟨-, -, text⟩ | ⟨-, text⟩
  · rw [isAbsolute_eq, beq_iff_eq] at absolute
    obtain ⟨rest, whole⟩ := List.head?_eq_some_iff.mp absolute
    rw [text]
    exact ⟨rest, whole.symm⟩
  · rw [text]
    exact List.nil_prefix
  · rw [text]
    exact trimmed_isPrefix path.toList

theorem tidy_tidied (path : String) : Tidy (tidied path) := by
  rcases tidied_cases path with ⟨-, -, text⟩ | ⟨-, -, text⟩ | ⟨-, text⟩
  · exact .inr text
  · rw [text]
    exact .inl rfl
  · left
    rw [text, trimmed_trimmed]

theorem startFrom_tidied (base : Location) (path : String) :
    startFrom base (tidied path) = startFrom base path := by
  rw [startFrom, startFrom, isAbsolute_tidied]

private theorem placeFrom_tidied (base : Location) (path : String) :
    placeFrom base (tidied path) = placeFrom base path := by
  rw [placeFrom, placeFrom, startFrom_tidied, names_tidied]

theorem chainFrom_tidied (base : Location) (path : String) :
    chainFrom base (tidied path) = chainFrom base path := by
  rw [chainFrom, chainFrom, startFrom_tidied, names_tidied]

private theorem aboveFrom_tidied (base : Location) (path : String) :
    aboveFrom base (tidied path) = aboveFrom base path := by
  rw [aboveFrom, aboveFrom, startFrom_tidied, names_tidied]

private theorem Lookable.tidied (lookable : Lookable path) : Lookable (tidied path) :=
  lookable.of_isPrefix (tidied_isPrefix path) (by rw [names_tidied]; exact List.Subset.refl _)

/-- The directory that a path names an entry of is the same for the tidied path. -/
theorem Ends.parent?_tidied (ends : Ends front name (tidied path))
    (found : parent? path = some directory) : parent? (tidied path) = some directory := by
  have text : trimmed path.toList = front ++ name := by
    rcases tidied_cases path with ⟨-, -, none⟩ | ⟨-, -, none⟩ | ⟨-, text⟩
    · have nothing := ends.names_eq
      rw [none, show names "/".toList = [] from rfl] at nothing
      simp at nothing
    · have nothing := ends.names_eq
      rw [none, show names "".toList = [] from rfl] at nothing
      simp at nothing
    · rw [← text, ends.text]
  rw [ends.parent?_eq, isAbsolute_tidied, ← found, parent?]
  rw [parent?] at found
  cases last : (components path).getLast? with
  | none =>
      rw [last] at found
      cases found
  | some part =>
      have inner : part ≠ .root := by
        rintro rfl
        rw [last] at found
        cases found
      rw [text, dropEndWhile_name ends.opens ends.isName.single]
      cases trimmed front with
      | nil => cases part <;> simp_all
      | cons c rest => cases part <;> simp_all

theorem nameless_or_ends (path : String) :
    names path.toList = [] ∨ ∃ front name, Ends front name (tidied path) := by
  rw [← names_tidied]
  rcases (tidy_tidied path).cases with empty | dot | root | ends
  · exact .inl (by rw [empty]; rfl)
  · exact .inl (by rw [dot]; rfl)
  · exact .inl (by rw [root]; rfl)
  · exact .inr ends

/-- A path that names nothing is one in the root or in no directory. -/
theorem parent?_of_nameless (nameless : names path.toList = [])
    (found : parent? path = some directory) : directory = "" ∨ directory = "/" := by
  have text : trimmed path.toList = [] ∨ trimmed path.toList = ['.'] := by
    rcases tidied_cases path with ⟨nothing, -, -⟩ | ⟨nothing, -, -⟩ | ⟨-, text⟩
    · exact .inl nothing
    · exact .inl nothing
    · rw [← text]
      rcases (tidy_tidied path).cases with empty | dot | root | ⟨front, name, ends⟩
      · exact .inl (by rw [empty]; rfl)
      · exact .inr (by rw [dot]; rfl)
      · have twice := trimmed_trimmed path.toList
        rw [← text, root] at twice
        cases twice
      · rw [← names_tidied, ends.names_eq] at nameless
        simp at nameless
  have cut : trimmed (Text.dropEndWhile (· != '/') (trimmed path.toList)) = [] := by
    rcases text with text | text <;> rw [text] <;> rfl
  rw [parent?, cut] at found
  dsimp only at found
  split at found
  · cases found
  · cases found
  · split at found
    · exact .inr (Option.some.inj found).symm
    · exact .inl (Option.some.inj found).symm

private theorem join_cases (directory path : String) :
    join directory path = path ∨
    isAbsolute (join directory path) = isAbsolute directory ∧
      names (join directory path).toList = names directory.toList ++ names path.toList := by
  rw [join]
  split
  · exact .inl rfl
  rename_i below
  rw [Bool.or_eq_true, not_or, Bool.not_eq_true, Bool.not_eq_true, ← Bool.not_eq_true,
    ← Bool.not_eq_true, String.isEmpty_iff] at below
  have chars : directory.toList ≠ [] := fun none => below.2 (String.toList_eq_nil_iff.mp none)
  right
  split
  · rename_i separated
    obtain ⟨before, text⟩ := List.getLast?_eq_some_iff.mp separated
    rw [isAbsolute_eq, isAbsolute_eq, String.toList_append, List.head?_append_of_ne_nil _ chars,
      text, names_snoc, List.append_assoc, List.singleton_append, names_append]
    exact ⟨rfl, rfl⟩
  · rw [isAbsolute_eq, isAbsolute_eq, String.toList_append, String.toList_append,
      List.append_assoc, List.head?_append_of_ne_nil _ chars]
    exact ⟨rfl, names_append directory.toList path.toList⟩

private theorem mem_chainFrom {passed : Location} (member : passed ∈ chainFrom base path) :
    passed ∈ aboveFrom base path ∨ passed = placeFrom base path := by
  rw [chainFrom] at member
  rw [aboveFrom, placeFrom]
  rcases List.eq_nil_or_concat (names path.toList) with none | ⟨initial, last, split⟩
  · rw [none] at member
    cases member
  · rw [List.concat_eq_append] at split
    rw [split, List.dropLast_concat, lead_append]
    rw [split, entered_append, List.mem_append] at member
    apply member.imp_right
    rw [lead, entered]
    split
    · rw [entered]
      exact fun none => absurd none List.not_mem_nil
    · rw [entered, lead, List.mem_singleton]
      exact id

end Path

namespace FileTree

open DirSchema.Path

variable {tree before after : FileTree} {path directory : String}

private theorem Reaches.tidied (reaches : tree.Reaches path) : tree.Reaches (tidied path) :=
  ⟨reaches.lookable.tidied, by rw [aboveFrom_tidied]; exact reaches.above⟩

/-- Everything that a path enters is a directory if it reaches one. -/
theorem Reaches.chain (reaches : tree.Reaches path)
    (here : tree.get? (placeFrom tree.base path) = some .directory) :
    ∀ passed ∈ chainFrom tree.base path, tree.get? passed = some .directory := by
  intro passed member
  rcases mem_chainFrom member with above | rfl
  · exact reaches.above passed above
  · exact here

section Make

private theorem reaches_of_ensureDirectory (success : (tree.ensureDirectory path).2 = none) :
    (tree.ensureDirectory path).1.Reaches path ∧
      (tree.ensureDirectory path).1.get? (placeFrom tree.base path) = some .directory := by
  rcases ensureDirectory_cases tree path with
    ⟨reaches, vacant, result⟩ | ⟨reaches, here, result⟩ | ⟨⟨error, result⟩, -⟩
  · rw [result]
    have inner : placeFrom tree.base path ≠ [] := by
      intro root
      rw [root] at vacant
      cases vacant
    exact ⟨(Extends.put vacant).keeps.reaches reaches, get?_put_self inner⟩
  · rw [result]
    exact ⟨reaches, here⟩
  · rw [result] at success
    cases success

/-- What making a directory comes to: it is made sure of, after the one that its path names an entry
of was made if that was missing. -/
theorem createAll_cases (tree : FileTree) (nonempty : path ≠ "") (fuel : Nat) :
    createAll path tree (fuel + 1) = tree.ensureDirectory path ∨
    ∃ parent, parent? path = some parent ∧
      (((createAll parent tree fuel).2 = none ∧
        createAll path tree (fuel + 1) = (createAll parent tree fuel).1.ensureDirectory path) ∨
      ((createAll parent tree fuel).2 ≠ none ∧
        createAll path tree (fuel + 1) = createAll parent tree fuel)) := by
  have some : path.isEmpty = false := by
    rw [← Bool.not_eq_true, String.isEmpty_iff]
    exact nonempty
  rw [createAll, some]
  simp only [Bool.false_eq_true, if_false]
  split
  · rename_i parent _ found
    refine .inr ⟨parent, found, ?_⟩
    rcases createAll parent tree fuel with ⟨middle, _ | error⟩
    · exact .inl ⟨rfl, rfl⟩
    · exact .inr ⟨Option.some_ne_none error, rfl⟩
  · exact .inl rfl

private theorem reaches_of_createAll {fuel : Nat} (nonempty : path ≠ "")
    (success : (createAll path tree fuel).2 = none) :
    (createAll path tree fuel).1.Reaches path ∧
      (createAll path tree fuel).1.get? (placeFrom tree.base path) = some .directory := by
  cases fuel with
  | zero => cases success
  | succ fuel =>
      rcases createAll_cases tree nonempty fuel with
        result | ⟨parent, -, ⟨-, result⟩ | ⟨failed, result⟩⟩
      · rw [result] at success ⊢
        exact reaches_of_ensureDirectory success
      · rw [result] at success ⊢
        rw [← (createAll_extends parent tree fuel).base]
        exact reaches_of_ensureDirectory success
      · rw [result] at success
        exact absurd success failed

/-- A directory is made on the chain of its path, however that is written. -/
theorem WellFormed.ensureDirectory_deepens (wellFormed : tree.WellFormed) (path : String) :
    Deepens tree (tree.ensureDirectory path).1 (chainFrom tree.base path) := by
  rcases ensureDirectory_cases tree path with
    ⟨reaches, vacant, result⟩ | ⟨-, -, result⟩ | ⟨⟨error, result⟩, -⟩
  · rw [result, ← placeFrom_tidied, ← chainFrom_tidied]
    rw [← placeFrom_tidied] at vacant
    rcases nameless_or_ends path with nameless | ⟨front, name, ends⟩
    · rw [placeFrom, names_tidied, nameless, Path.lead, wellFormed.startFrom] at vacant
      cases vacant
    · exact wellFormed.put_deepens ends reaches.tidied vacant
  · rw [result]
    exact .refl wellFormed _
  · rw [result]
    exact .refl wellFormed _

theorem createAll_of_top (tree : FileTree) (fuel : Nat) (top : directory = "" ∨ directory = "/") :
    (createAll directory tree fuel).1 = tree := by
  cases fuel with
  | zero => rfl
  | succ fuel =>
      rcases top with rfl | rfl
      · rfl
      · have none : stepsOf "/" = [] := rfl
        have located := locate_eq_start tree none rfl (by decide) (by decide)
        rw [createAll_of_directory located rfl]

/-- The directory that a path names an entry of is made on the chain of the path. -/
theorem WellFormed.createAll_parent (wellFormed : tree.WellFormed)
    (found : parent? path = some directory) :
    Deepens tree (createAll directory tree path.length).1 (chainFrom tree.base path) := by
  rcases nameless_or_ends path with nameless | ⟨front, name, ends⟩
  · rw [createAll_of_top tree _ (parent?_of_nameless nameless found)]
    exact .refl wellFormed _
  · have within := ends.parent?_tidied found
    obtain ⟨other, same, parent⟩ := ends.exists_parent
    rw [within, Option.some.injEq] at same
    subst same
    have bound : directory.length < path.length :=
      Nat.lt_of_lt_of_le parent.shorter (tidied_isPrefix path).length_le
    refine (created_createAll directory tree path.length parent.tidy wellFormed bound).deepens.mono ?_
    rw [ends.chainFrom_parent parent, ← chainFrom_tidied]
    exact aboveFrom_subset_chainFrom _ _

theorem WellFormed.createDirectories_deepens (wellFormed : tree.WellFormed) (path : String) :
    Deepens tree (tree.createDirectories path).1 (chainFrom tree.base path) := by
  show Deepens tree (createAll path tree (path.length + 1)).1 _
  by_cases empty : path = ""
  · rw [createAll_of_top tree _ (.inl empty)]
    exact .refl wellFormed _
  rcases createAll_cases tree empty path.length with
    result | ⟨parent, found, ⟨-, result⟩ | ⟨-, result⟩⟩
  · rw [result]
    exact wellFormed.ensureDirectory_deepens path
  · have above := wellFormed.createAll_parent found
    have here := above.wellFormed.ensureDirectory_deepens path
    rw [above.base] at here
    rw [result]
    exact above.trans here
  · rw [result]
    exact wellFormed.createAll_parent found

theorem reaches_of_createDirectories (nonempty : path ≠ "")
    (success : tree.createDirectories path = (after, none)) :
    after.Reaches path ∧ after.get? (placeFrom tree.base path) = some .directory := by
  have made : createAll path tree (path.length + 1) = (after, none) := by
    rw [createDirectories, Prod.mk.injEq, Option.map_eq_none_iff] at success
    exact Prod.ext success.1 success.2
  have reaches := reaches_of_createAll nonempty (by rw [made])
  rwa [made] at reaches

end Make

section Down

variable {start : Location} {below : List String} {segment : String}

private theorem lead_down (down : ".." ∉ below) (start : Location) :
    Path.lead start below = start ++ below := by
  induction below generalizing start with
  | nil => rw [Path.lead, List.append_nil]
  | cons name rest ih =>
      rw [List.mem_cons, not_or] at down
      rw [Path.lead, if_neg (Ne.symm down.1), ih down.2, List.append_assoc, List.singleton_append]

/-- What is entered on the way down is a beginning of the place at its end. -/
theorem isPrefix_of_mem_entered {passed : Location} (down : ".." ∉ below)
    (member : passed ∈ entered start below) : passed.IsPrefix (Path.lead start below) := by
  induction below generalizing start with
  | nil => cases member
  | cons name rest ih =>
      rw [List.mem_cons, not_or] at down
      rw [Path.lead, if_neg (Ne.symm down.1)]
      rw [entered, if_neg (Ne.symm down.1), List.mem_cons] at member
      rcases member with rfl | later
      · rw [lead_down down.2]
        exact List.prefix_append _ _
      · exact ih down.2 later

/-- On the way down to a directory there are only directories. -/
theorem WellFormed.entered_down (wellFormed : tree.WellFormed) (down : ".." ∉ below)
    (here : tree.get? (Path.lead start below) = some .directory) :
    ∀ passed ∈ entered start below, tree.get? passed = some .directory := by
  induction below using List.reverseRecOn with
  | nil => exact List.forall_mem_nil _
  | append_singleton initial last ih =>
      rw [List.mem_append, not_or, List.mem_singleton] at down
      have entry : last ≠ ".." := Ne.symm down.2
      have place : Path.lead start (initial ++ [last]) = Path.lead start initial ++ [last] := by
        rw [lead_append, lead_name entry]
      have above := wellFormed.above here
      rw [place, List.dropLast_concat] at above
      rw [place] at here
      rw [entered_append, List.forall_mem_append, entered, if_neg entry, entered]
      exact ⟨ih down.1 above, by simpa using here⟩

/-- A path that goes on from directories that are there, and then down only. -/
def Straight (tree : FileTree) (path : String) : Prop :=
  ∃ above below, names path.toList = above ++ below ∧ ".." ∉ below ∧
    ∀ passed ∈ entered (startFrom tree.base path) above, tree.get? passed = some .directory

namespace Straight

theorem of_reaches (reaches : tree.Reaches path)
    (here : tree.get? (placeFrom tree.base path) = some .directory) : tree.Straight path :=
  ⟨names path.toList, [], (List.append_nil _).symm, List.not_mem_nil, reaches.chain here⟩

/-- Below a path with a name, a name of its own starts no path. -/
theorem join (straight : tree.Straight path) (down : ".." ∉ names segment.toList) :
    tree.Straight (Path.join path segment) := by
  obtain ⟨above, below, split, straightDown, passed⟩ := straight
  rcases join_cases path segment with whole | ⟨absolute, parts⟩
  · rw [whole]
    exact ⟨[], names segment.toList, rfl, down, List.forall_mem_nil _⟩
  · refine ⟨above, below ++ names segment.toList, ?_, ?_, ?_⟩
    · rw [parts, split, List.append_assoc]
    · rw [List.mem_append, not_or]
      exact ⟨straightDown, down⟩
    · rwa [startFrom, absolute]

theorem keeps (keeps : Keeps before after) (straight : before.Straight path) :
    after.Straight path := by
  obtain ⟨above, below, split, down, passed⟩ := straight
  refine ⟨above, below, split, down, ?_⟩
  rw [keeps.base]
  exact fun place member => keeps.directory (passed place member)

/-- On the way to a directory there are only directories. -/
theorem chain (straight : tree.Straight path) (wellFormed : tree.WellFormed)
    (here : tree.get? (placeFrom tree.base path) = some .directory) :
    ∀ passed ∈ chainFrom tree.base path, tree.get? passed = some .directory := by
  obtain ⟨above, below, split, down, passed⟩ := straight
  rw [placeFrom, split, lead_append] at here
  rw [chainFrom, split, entered_append, List.forall_mem_append]
  exact ⟨passed, wellFormed.entered_down down here⟩

/-- On the way to something that is there, nothing is missing. -/
theorem standing (straight : tree.Straight path) (wellFormed : tree.WellFormed) {node : Node}
    (here : tree.get? (placeFrom tree.base path) = some node) :
    ∀ passed ∈ chainFrom tree.base path, tree.get? passed ≠ none := by
  obtain ⟨above, below, split, down, passed⟩ := straight
  rw [placeFrom, split, lead_append] at here
  rw [chainFrom, split, entered_append, List.forall_mem_append]
  refine ⟨fun place member => by rw [passed place member]; simp, ?_⟩
  rcases List.eq_nil_or_concat below with rfl | ⟨initial, last, rfl⟩
  · exact List.forall_mem_nil _
  · rw [List.concat_eq_append] at down here ⊢
    rw [List.mem_append, not_or, List.mem_singleton] at down
    have entry : last ≠ ".." := Ne.symm down.2
    rw [lead_append, lead_name entry] at here
    have directory := wellFormed.above here
    rw [List.dropLast_concat] at directory
    rw [entered_append, List.forall_mem_append, entered, if_neg entry, entered]
    refine ⟨fun place member => ?_, ?_⟩
    · rw [wellFormed.entered_down down.1 directory place member]
      simp
    · rw [List.forall_mem_singleton, here]
      simp

/-- The way to the directory of a straight path is straight. -/
theorem parent {front name : List Char} (straight : tree.Straight path) (ends : Ends front name path)
    (parent : Parent front path directory) : tree.Straight directory := by
  obtain ⟨above, below, split, down, passed⟩ := straight
  have start : Path.startFrom tree.base directory = Path.startFrom tree.base path := by
    rw [Path.startFrom, Path.startFrom, parent.absolute]
  rw [ends.names_eq] at split
  rcases List.eq_nil_or_concat below with rfl | ⟨initial, last, rfl⟩
  · rw [List.append_nil] at split
    rw [← split, entered_append, List.forall_mem_append] at passed
    refine ⟨Path.names front, [], by rw [parent.names, List.append_nil], List.not_mem_nil, ?_⟩
    rw [start]
    exact passed.1
  · rw [List.concat_eq_append, ← List.append_assoc] at split
    rw [List.concat_eq_append, List.mem_append, not_or] at down
    refine ⟨above, initial, ?_, down.1, ?_⟩
    · rw [parent.names]
      exact (List.append_inj' split rfl).1
    · rw [start]
      exact passed

/-- What a straight path enters is a directory already, or no deeper than its end. -/
theorem length_le (straight : tree.Straight path) {passed : Location}
    (member : passed ∈ chainFrom tree.base path) (vacant : tree.get? passed ≠ some .directory) :
    passed.length ≤ (placeFrom tree.base path).length := by
  obtain ⟨above, below, split, down, directories⟩ := straight
  rw [chainFrom, split, entered_append, List.mem_append] at member
  rw [placeFrom, split, lead_append]
  rcases member with early | late
  · exact absurd (directories passed early) vacant
  · exact (isPrefix_of_mem_entered down late).length_le

theorem reaches (straight : tree.Straight path) (wellFormed : tree.WellFormed)
    (lookable : Lookable path)
    (here : tree.get? (placeFrom tree.base path) = some .directory) : tree.Reaches path :=
  ⟨lookable, fun passed member =>
    straight.chain wellFormed here passed (aboveFrom_subset_chainFrom _ _ member)⟩

end Straight
end Down
end FileTree
end DirSchema
