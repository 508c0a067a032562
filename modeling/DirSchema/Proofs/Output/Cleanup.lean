import DirSchema.Output.Cleanup
import DirSchema.Proofs.FileTree.Listing
import DirSchema.Proofs.FileTree.Roots
import DirSchema.Proofs.Output.Artifacts
import Mathlib.Data.List.Sort
set_option autoImplicit false

namespace DirSchema.Output

open DirSchema.Path FileTree

variable {settings : Settings} {kind other : ArtifactKind} {tree : FileTree} {name : String}

/-- The name of a file that an earlier run may have generated. -/
structure IsGenerated (name : String) : Prop where
  single : '/' ∉ name.toList
  extended : extension? name = some extension

theorem IsGenerated.isName (generated : IsGenerated name) : IsName name.toList ∧ name ≠ ".." := by
  have extended := generated.extended
  refine ⟨⟨?_, generated.single, ?_⟩, ?_⟩
  · intro empty
    rw [String.toList_eq_nil_iff.mp empty] at extended
    revert extended
    decide
  · intro dot
    rw [String.toList_injective (dot.trans rfl : name.toList = ".".toList)] at extended
    revert extended
    decide
  · rintro rfl
    revert extended
    decide

namespace Settings

def entryPath (settings : Settings) (kind : ArtifactKind) (name : String) : String :=
  join (settings.outputDirectory kind) name

def entryPlace (settings : Settings) (base : Location) (kind : ArtifactKind) (name : String) :
    Location := placeFrom base (settings.outputDirectory kind) ++ [name]

/-- Whether a generated file stands directly in the directory of a kind. -/
structure Holds (settings : Settings) (tree : FileTree) (kind : ArtifactKind) (name : String) :
    Prop where
  generated : IsGenerated name
  lookable : Lookable (settings.outputDirectory kind)
  file : (tree.fileAt? (settings.entryPlace tree.base kind name)).isSome

theorem placeFrom_entryPath (settings : Settings) (kind : ArtifactKind)
    (generated : IsGenerated name) (base : Location) :
    placeFrom base (settings.entryPath kind name) = settings.entryPlace base kind name :=
  placeFrom_join_name generated.isName.1 generated.isName.2 base (settings.outputDirectory kind)

theorem Holds.congr {after : FileTree} (base : after.base = tree.base)
    (same : after.fileAt? (settings.entryPlace tree.base kind name) =
      tree.fileAt? (settings.entryPlace tree.base kind name))
    (holds : settings.Holds tree kind name) : settings.Holds after kind name :=
  ⟨holds.generated, holds.lookable, by rw [base, same]; exact holds.file⟩

theorem holds_of_extends {after : FileTree} (grown : Extends tree after) :
    settings.Holds after kind name ↔ settings.Holds tree kind name :=
  ⟨.congr grown.base.symm (by rw [grown.base]; exact (grown.fileAt?_eq _).symm),
    .congr grown.base (grown.fileAt?_eq _)⟩

end Settings

/-- A tree in which the directories of all kinds are found at their places, as soon as something
stands in them. -/
structure Ready (settings : Settings) (tree : FileTree) : Prop where
  wellFormed : tree.WellFormed
  straight : ∀ kind, tree.Straight (settings.outputDirectory kind)
  named : ∀ {place name contents}, tree.get? (place ++ [name]) = some (.file contents) →
    IsName name.toList ∧ name ≠ ".."

/-- The names of the generated files in the directory of a kind, in order. -/
def oldNames (settings : Settings) (tree : FileTree) (kind : ArtifactKind) : List String :=
  (tree.fileNamesIn (settings.outputDirectory kind)).filter fun name =>
    extension? name == some extension

section Listed

variable (ready : Ready settings tree)
include ready

theorem named_of_mem_fileNamesIn {path : String} (member : name ∈ tree.fileNamesIn path) :
    IsName name.toList ∧ name ≠ ".." := by
  obtain ⟨place, contents, file⟩ := exists_file_of_mem_fileNamesIn member
  exact ready.named file

/-- The directory of a kind is reached if a file stands in it. -/
theorem Settings.Holds.reaches (holds : settings.Holds tree kind name) :
    tree.Reaches (settings.outputDirectory kind) ∧
      tree.get? (placeFrom tree.base (settings.outputDirectory kind)) = some .directory := by
  obtain ⟨contents, file⟩ := Option.isSome_iff_exists.mp holds.file
  have here := ready.wellFormed.above (fileAt?_eq_some.mp file)
  rw [Settings.entryPlace, List.dropLast_concat] at here
  exact ⟨(ready.straight kind).reaches ready.wellFormed holds.lookable here, here⟩

/-- Cleanup finds the generated files that stand directly in the directory of a kind. -/
theorem mem_oldNames_iff : name ∈ oldNames settings tree kind ↔ settings.Holds tree kind name := by
  rw [oldNames, List.mem_filter, beq_iff_eq]
  constructor
  · rintro ⟨member, extended⟩
    have single := (named_of_mem_fileNamesIn ready member).1.single
    rcases fileNamesIn_cases tree (settings.outputDirectory kind) with
      none | ⟨reaches, -, found⟩
    · rw [none] at member
      cases member
    · exact ⟨⟨single, extended⟩, reaches.lookable, (mem_fileNamesIn_iff found).mp member⟩
  · intro holds
    obtain ⟨reaches, here⟩ := holds.reaches ready
    have found := find_of_reaches (settings.outputDirectory_ends kind) reaches here
    exact ⟨(mem_fileNamesIn_iff found).mpr holds.file, holds.generated.extended⟩

private theorem oldFiles_eq (kind : ArtifactKind) :
    oldFiles tree (settings.outputDirectory kind) =
      (oldNames settings tree kind).map (settings.entryPath kind) := by
  rw [oldFiles, filesIn, List.filter_map, oldNames]
  apply congrArg (List.map _)
  apply List.filter_congr
  intro name member
  obtain ⟨isName, inner⟩ := named_of_mem_fileNamesIn ready member
  rw [Function.comp, (settings.outputDirectory_ends kind).extension?_join isName inner]

end Listed

theorem pairwise_oldNames (distinct : (tree.nodes.map Prod.fst).Nodup) (kind : ArtifactKind) :
    (oldNames settings tree kind).Pairwise (· < ·) :=
  (pairwise_fileNamesIn distinct _).filter _

section Remove

variable {front last : List Char} {path : String} {names : List String}

/-- What removing entries of a directory comes to: those are gone whose paths can be looked up, and
if none has failed these are all of them. -/
structure Swept (tree : FileTree) (path : String) (names : List String)
    (result : FileTree × List Removal) : Prop where
  wellFormed : result.1.WellFormed
  sublist : result.1.nodes.Sublist tree.nodes
  clears : Clears tree result.1 fun place => ∃ name ∈ names,
    Lookable (join path name) ∧ place = placeFrom tree.base path ++ [name]
  removed : (∀ removal ∈ result.2, removal.diagnostic? = none) →
    result.2 = names.map (fun name => .removed (join path name)) ∧
      ∀ name ∈ names, Lookable (join path name)

theorem removeAll_cons (tree : FileTree) (path : String) (rest : List String) :
    removeAll tree (path :: rest) =
      match tree.removeFile path with
      | .ok after => ((removeAll after rest).1, .removed path :: (removeAll after rest).2)
      | .error failure => ((removeAll tree rest).1, .failed failure :: (removeAll tree rest).2) := by
  cases result : tree.removeFile path <;> simp only [removeAll, result]

theorem Swept.nil (wellFormed : tree.WellFormed) : Swept tree path [] (tree, []) :=
  ⟨wellFormed, List.Sublist.refl _, .of_vacant (by simp), fun _ => ⟨rfl, nofun⟩⟩

private theorem swept_removeAll (ends : Ends front last path) (wellFormed : tree.WellFormed)
    (reaches : tree.Reaches path) (here : tree.get? (placeFrom tree.base path) = some .directory)
    (entries : ∀ name ∈ names, (IsName name.toList ∧ name ≠ "..") ∧
      tree.get? (placeFrom tree.base path ++ [name]) ≠ some .directory) :
    Swept tree path names (removeAll tree (names.map (join path))) := by
  induction names generalizing tree with
  | nil => exact .nil wellFormed
  | cons name rest ih =>
      rw [List.forall_mem_cons] at entries
      obtain ⟨⟨⟨isName, inner⟩, spared⟩, others⟩ := entries
      rw [List.map_cons, removeAll_cons]
      rcases removeFile_join ends isName inner reaches here spared with
        ⟨lookable, ⟨contents, file⟩, result⟩ | ⟨gone, failure, result⟩
      · rw [result]
        dsimp only
        have first := Clears.erase spared
        have keeps := first.keeps
        obtain ⟨restWellFormed, sublist, clears, removed⟩ := ih (wellFormed.erase file)
          (keeps.reaches reaches) (keeps.directory here) fun name member =>
            ⟨(others name member).1, fun directory =>
              (others name member).2 (first.of_some directory).2⟩
        refine ⟨restWellFormed, sublist.trans List.filter_sublist,
          (first.trans clears).congr ?_, ?_⟩
        · intro place
          simp [lookable]
        · intro fine
          obtain ⟨same, all⟩ := removed fun removal member =>
            fine removal (List.mem_cons_of_mem _ member)
          exact ⟨by rw [same, List.map_cons], List.forall_mem_cons.mpr ⟨lookable, all⟩⟩
      · rw [result]
        dsimp only
        have first : Clears tree tree fun place =>
            Lookable (join path name) ∧ place = placeFrom tree.base path ++ [name] :=
          .of_vacant (by rintro _ ⟨lookable, rfl⟩; exact gone lookable)
        obtain ⟨restWellFormed, sublist, clears, removed⟩ := ih wellFormed reaches here others
        refine ⟨restWellFormed, sublist, (first.trans clears).congr ?_, ?_⟩
        · intro place
          simp
        · intro fine
          have reported := fine (.failed failure) List.mem_cons_self
          cases reported

end Remove

section Kinds

variable {after : FileTree} {kinds : List ArtifactKind}

theorem Settings.entryPlace_eq (settings : Settings) (base : Location) (kind : ArtifactKind)
    (name : String) :
    settings.entryPlace base kind name = settings.homeFrom base ++ [kind.subpackage, name] := by
  rw [entryPlace, placeFrom_outputDirectory, List.append_assoc]
  rfl

theorem Settings.entryPlace_inj {base : Location} {otherName : String}
    (same : settings.entryPlace base kind name = settings.entryPlace base other otherName) :
    kind = other ∧ name = otherName := by
  rw [entryPlace_eq, entryPlace_eq, List.append_cancel_left_eq, List.cons.injEq,
    List.cons.injEq] at same
  refine ⟨?_, same.2.1⟩
  cases kind <;> cases other <;> simp_all [ArtifactKind.subpackage]

theorem Settings.entryPath_inj {otherName : String} (generated : IsGenerated name)
    (otherGenerated : IsGenerated otherName)
    (same : settings.entryPath kind name = settings.entryPath other otherName) :
    kind = other ∧ name = otherName := by
  have places := congrArg (placeFrom []) same
  rw [placeFrom_entryPath _ _ generated, placeFrom_entryPath _ _ otherGenerated] at places
  exact entryPlace_inj places

/-- A place that cleanup of some kinds clears. -/
def Stale (settings : Settings) (tree : FileTree) (kinds : List ArtifactKind)
    (place : Location) : Prop :=
  ∃ kind ∈ kinds, ∃ name, settings.Holds tree kind name ∧
    Lookable (settings.entryPath kind name) ∧ place = settings.entryPlace tree.base kind name

/-- What cleanup of some kinds comes to. -/
structure Cleaned (settings : Settings) (tree : FileTree) (kinds : List ArtifactKind)
    (result : FileTree × List Removal) : Prop where
  ready : Ready settings result.1
  clears : Clears tree result.1 (Stale settings tree kinds)
  removed : (tree.nodes.map Prod.fst).Nodup → kinds.Nodup →
    (∀ removal ∈ result.2, removal.diagnostic? = none) →
      result.2 = (kinds.flatMap fun kind =>
        (oldNames settings tree kind).map fun name => .removed (settings.entryPath kind name)) ∧
      ∀ kind ∈ kinds, ∀ name, settings.Holds tree kind name →
        Lookable (settings.entryPath kind name)

private theorem swept_kind (ready : Ready settings tree) (kind : ArtifactKind) :
    Swept tree (settings.outputDirectory kind) (oldNames settings tree kind)
      (removeAll tree (oldFiles tree (settings.outputDirectory kind))) := by
  rw [oldFiles_eq ready]
  cases listed : oldNames settings tree kind with
  | nil => exact .nil ready.wellFormed
  | cons first rest =>
      have holds : settings.Holds tree kind first := by
        rw [← mem_oldNames_iff ready, listed]
        exact List.mem_cons_self
      obtain ⟨reaches, here⟩ := holds.reaches ready
      rw [← listed]
      apply swept_removeAll (settings.outputDirectory_ends kind) ready.wellFormed reaches here
      intro name member
      have holds := (mem_oldNames_iff ready).mp member
      obtain ⟨contents, file⟩ := Option.isSome_iff_exists.mp holds.file
      refine ⟨holds.generated.isName, ?_⟩
      rw [fileAt?_eq_some, Settings.entryPlace] at file
      rw [file]
      nofun

private theorem Ready.clears {gone : Location → Prop} (ready : Ready settings tree)
    (clears : Clears tree after gone) (wellFormed : after.WellFormed) : Ready settings after where
  wellFormed := wellFormed
  straight := fun kind => (ready.straight kind).keeps clears.keeps
  named := fun file => ready.named (clears.of_some file).2

/-- What is no directory yet is not on the way to a directory of artifacts if it stands in one. -/
theorem Ready.entry_not_mem_chain (ready : Ready settings tree)
    (vacant : tree.get? (settings.entryPlace tree.base kind name) ≠ some .directory)
    (other : ArtifactKind) :
    settings.entryPlace tree.base kind name ∉
      chainFrom tree.base (settings.outputDirectory other) := by
  intro member
  have short := (ready.straight other).length_le member vacant
  rw [Settings.entryPlace_eq, Settings.placeFrom_outputDirectory, List.length_append,
    List.length_append] at short
  simp at short

/-- A place that cleanup has cleared is not on the way to a directory of artifacts. -/
theorem not_mem_chain_of_stale {place : Location}
    (clears : Clears tree after (Stale settings tree kinds)) (later : Ready settings after)
    (stale : Stale settings tree kinds place) (other : ArtifactKind) :
    place ∉ chainFrom after.base (settings.outputDirectory other) := by
  have vacant := clears.vacant stale
  obtain ⟨kind, -, name, -, -, rfl⟩ := stale
  rw [← clears.base] at vacant ⊢
  apply later.entry_not_mem_chain
  rw [vacant]
  nofun

/-- What is cleared of other kinds is not held by a kind. -/
theorem holds_of_clears (clears : Clears tree after (Stale settings tree kinds)) :
    settings.Holds after kind name ↔ settings.Holds tree kind name ∧
      (kind ∈ kinds → ¬ Lookable (settings.entryPath kind name)) := by
  have base := clears.base
  constructor
  · intro holds
    obtain ⟨contents, file⟩ := Option.isSome_iff_exists.mp holds.file
    rw [base, fileAt?_eq_some] at file
    obtain ⟨spared, file⟩ := clears.of_some file
    have held : settings.Holds tree kind name :=
      ⟨holds.generated, holds.lookable, by rw [fileAt?_eq_some.mpr file]; rfl⟩
    exact ⟨held, fun member lookable => spared ⟨kind, member, name, held, lookable, rfl⟩⟩
  · rintro ⟨holds, spared⟩
    refine ⟨holds.generated, holds.lookable, ?_⟩
    rw [base, fileAt?, clears.kept]
    · exact holds.file
    · rintro ⟨other, member, otherName, -, lookable, same⟩
      obtain ⟨rfl, rfl⟩ := Settings.entryPlace_inj same
      exact spared member lookable

theorem cleanKinds_cons (settings : Settings) (tree : FileTree) (kind : ArtifactKind)
    (rest : List ArtifactKind) :
    cleanKinds settings tree (kind :: rest) =
      ((cleanKinds settings
          (removeAll tree (oldFiles tree (settings.outputDirectory kind))).1 rest).1,
        (removeAll tree (oldFiles tree (settings.outputDirectory kind))).2 ++
          (cleanKinds settings
            (removeAll tree (oldFiles tree (settings.outputDirectory kind))).1 rest).2) := by
  rw [cleanKinds]

private theorem stale_cons {middle : FileTree} {place : Location} {rest : List ArtifactKind}
    (clears : Clears tree middle (Stale settings tree [kind])) :
    Stale settings tree [kind] place ∨ Stale settings middle rest place ↔
      Stale settings tree (kind :: rest) place := by
  constructor
  · rintro (⟨only, member, name, holds, lookable, same⟩ | ⟨other, member, name, holds, lookable, same⟩)
    · rw [List.mem_singleton] at member
      exact ⟨only, by rw [member]; exact List.mem_cons_self, name, holds, lookable, same⟩
    · have held := ((holds_of_clears clears).mp holds).1
      rw [clears.base] at same
      exact ⟨other, List.mem_cons_of_mem _ member, name, held, lookable, same⟩
  · rintro ⟨other, member, name, holds, lookable, same⟩
    by_cases first : other = kind
    · exact .inl ⟨other, List.mem_singleton.mpr first, name, holds, lookable, same⟩
    · right
      refine ⟨other, (List.mem_cons.mp member).resolve_left first, name, ?_, lookable, ?_⟩
      · rw [holds_of_clears clears, List.mem_singleton]
        exact ⟨holds, fun same => absurd same first⟩
      · rw [clears.base]
        exact same

/-- Cleanup of one kind leaves what there is to clean of another. -/
theorem oldNames_of_clears {middle : FileTree} (ready : Ready settings tree)
    (later : Ready settings middle) (distinct : (tree.nodes.map Prod.fst).Nodup)
    (laterDistinct : (middle.nodes.map Prod.fst).Nodup)
    (clears : Clears tree middle (Stale settings tree [other])) (apart : kind ≠ other) :
    oldNames settings middle kind = oldNames settings tree kind := by
  apply (pairwise_oldNames laterDistinct kind).eq_of_mem_iff (pairwise_oldNames distinct kind)
  intro name
  rw [mem_oldNames_iff later, mem_oldNames_iff ready, holds_of_clears clears, List.mem_singleton]
  exact and_iff_left fun same => absurd same apart

theorem cleaned_cleanKinds (ready : Ready settings tree) (kinds : List ArtifactKind) :
    Cleaned settings tree kinds (cleanKinds settings tree kinds) := by
  induction kinds generalizing tree with
  | nil =>
      refine ⟨ready, .of_vacant ?_, fun _ _ _ => ⟨rfl, nofun⟩⟩
      rintro place ⟨kind, member, -⟩
      cases member
  | cons kind rest ih =>
      have swept := swept_kind ready kind
      rw [cleanKinds_cons]
      generalize removeAll tree (oldFiles tree (settings.outputDirectory kind)) = first at swept ⊢
      have clears : Clears tree first.1 (Stale settings tree [kind]) := by
        apply swept.clears.congr
        intro place
        simp only [Stale, List.mem_singleton, exists_eq_left, mem_oldNames_iff ready]
        rfl
      have later := ready.clears clears swept.wellFormed
      obtain ⟨restReady, restClears, restRemoved⟩ := ih later
      refine ⟨restReady, (clears.trans restClears).congr fun place => stale_cons clears, ?_⟩
      intro distinct nodup fine
      rw [List.nodup_cons] at nodup
      dsimp only at fine
      rw [List.forall_mem_append] at fine
      have laterDistinct := distinct.sublist (swept.sublist.map Prod.fst)
      obtain ⟨here, lookable⟩ := swept.removed fine.1
      obtain ⟨there, restLookable⟩ := restRemoved laterDistinct nodup.2 fine.2
      have others : ∀ other ∈ rest, other ≠ kind := by
        rintro other member rfl
        exact nodup.1 member
      constructor
      · dsimp only
        rw [here, there, List.flatMap_cons]
        refine congrArg (_ ++ ·) (List.flatMap_congr ?_)
        intro other member
        rw [oldNames_of_clears ready later distinct laterDistinct clears (others other member)]
      · rw [List.forall_mem_cons]
        constructor
        · intro name holds
          exact lookable name ((mem_oldNames_iff ready).mpr holds)
        · intro other member name holds
          apply restLookable other member
          rw [holds_of_clears clears, List.mem_singleton]
          exact ⟨holds, fun same => absurd same (others other member)⟩

end Kinds

end DirSchema.Output
