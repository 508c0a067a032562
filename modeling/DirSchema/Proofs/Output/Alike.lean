import DirSchema.Proofs.FileTree.Walk
import DirSchema.Proofs.Output.Emission
set_option autoImplicit false

/-!
Trees that are alike for generation: in both, files are in the way of the same directories, and
directories in that of the same artifacts. Generation has the same outcomes in both, it makes the
same directories, and what it or cleanup leaves of a tree is alike to it.
-/
namespace DirSchema.Output

open DirSchema.Path FileTree

variable {settings : Settings} {tree other middle after : FileTree} {kind : ArtifactKind}
  {className name : String} {place : Location}

/-- Trees in which the same artifacts can be written. -/
structure Alike (settings : Settings) (tree other : FileTree) : Prop where
  base : other.base = tree.base
  file : ∀ kind, ∀ passed ∈ chainFrom tree.base (settings.outputDirectory kind),
    (tree.fileAt? passed).isSome = (other.fileAt? passed).isSome
  directory : ∀ kind name, tree.get? (settings.entryPlace tree.base kind name) = some .directory ↔
    other.get? (settings.entryPlace tree.base kind name) = some .directory

namespace Alike

theorem symm (alike : Alike settings tree other) : Alike settings other tree := by
  obtain ⟨base, file, directory⟩ := alike
  rw [← base] at file directory
  exact ⟨base.symm, fun kind passed member => (file kind passed member).symm,
    fun kind name => (directory kind name).symm⟩

theorem trans (first : Alike settings tree middle) (second : Alike settings middle after) :
    Alike settings tree after := by
  obtain ⟨base, file, directory⟩ := second
  rw [first.base] at file directory
  exact ⟨base.trans first.base,
    fun kind passed member => (first.file kind passed member).trans (file kind passed member),
    fun kind name => (first.directory kind name).trans (directory kind name)⟩

/-- The same directories can be made. -/
theorem walkOf_eq (alike : Alike settings tree other) (kind : ArtifactKind) :
    walkOf tree (settings.outputDirectory kind) = walkOf other (settings.outputDirectory kind) :=
  walkOf_congr alike.base (alike.file kind)

end Alike

theorem Ready.alike_of_reworked (ready : Ready settings tree)
    (reworked : Reworked settings tree after) : Alike settings tree after := by
  refine ⟨reworked.base, ?_, ?_⟩
  · intro kind passed member
    rw [Bool.eq_iff_iff, Option.isSome_iff_exists, Option.isSome_iff_exists]
    simp only [fileAt?_eq_some]
    constructor
    · rintro ⟨contents, file⟩
      exact reworked.file file
    · rintro ⟨contents, file⟩
      rcases reworked.stored file with earlier | elsewhere
      · exact ⟨contents, earlier⟩
      · exact absurd member (elsewhere kind)
  · intro kind name
    refine ⟨reworked.directory, ?_⟩
    intro found
    rcases reworked.made found with earlier | ⟨other, member⟩
    · exact earlier
    · by_contra vacant
      exact ready.entry_not_mem_chain vacant other member

theorem alike_of_clears {kinds : List ArtifactKind} (later : Ready settings after)
    (clears : Clears tree after (Stale settings tree kinds)) : Alike settings tree after := by
  refine ⟨clears.base, ?_, ?_⟩
  · intro kind passed member
    have spared : ¬ Stale settings tree kinds passed := by
      intro stale
      rw [← clears.base] at member
      exact not_mem_chain_of_stale clears later stale kind member
    rw [fileAt?, fileAt?, clears.kept spared]
  · intro kind name
    by_cases stale : Stale settings tree kinds (settings.entryPlace tree.base kind name)
    · refine iff_of_false (clears.spares stale) ?_
      rw [clears.vacant stale]
      simp
    · rw [clears.kept stale]

private theorem writeArtifact_congr {path contents : String}
    (made : (tree.createDirectories ((parent? path).getD "")).2 =
      (other.createDirectories ((parent? path).getD "")).2)
    (refused : (tree.createDirectories ((parent? path).getD "")).2 = none → ∀ failure,
      (prepared tree path).writeText path contents = .error failure ↔
        (prepared other path).writeText path contents = .error failure) :
    (writeArtifact tree path contents).2 = (writeArtifact other path contents).2 := by
  rw [writeArtifact_eq, writeArtifact_eq, ← made]
  cases created : (tree.createDirectories ((parent? path).getD "")).2 with
  | some failure => rfl
  | none =>
      have refused := refused created
      dsimp only
      cases stored : (prepared tree path).writeText path contents with
      | error failure => rw [(refused failure).mp stored]
      | ok written =>
          cases otherStored : (prepared other path).writeText path contents with
          | error failure =>
              rw [(refused failure).mpr otherStored] at stored
              cases stored
          | ok otherWritten => rfl

section Single

variable (ready : Ready settings tree) (single : '/' ∉ className.toList)
include ready single

/-- What is prepared for an artifact, in terms of the walk along the directory of its kind. -/
theorem Ready.walked_prepared (kind : ArtifactKind) :
    (tree.createDirectories ((parent? (settings.artifactPath kind className)).getD "")).2 =
        (walkOf tree (settings.outputDirectory kind)).2.map (fun error =>
          { action := .createDirectory, path := settings.outputDirectory kind, error }) ∧
      ∀ place, (prepared tree (settings.artifactPath kind className)).get? place =
          some .directory ↔
        tree.get? place = some .directory ∨
          place ∈ (walkOf tree (settings.outputDirectory kind)).1 := by
  obtain ⟨found, parent⟩ := settings.artifactPath_parent kind single
  rw [prepared, found, Option.getD_some]
  exact walked_createDirectories parent.tidy ready.wellFormed (ready.straight kind)

/-- The directory of a kind is reached once nothing has stopped the walk along it. -/
theorem Ready.reaches_prepared (kind : ArtifactKind)
    (free : (walkOf tree (settings.outputDirectory kind)).2 = none) :
    (prepared tree (settings.artifactPath kind className)).Reaches
        (settings.outputDirectory kind) ∧
      (prepared tree (settings.artifactPath kind className)).get?
        (placeFrom tree.base (settings.outputDirectory kind)) = some .directory := by
  obtain ⟨-, directory⟩ := ready.walked_prepared single kind
  obtain ⟨lookable, places⟩ := walkOf_free free
  have base := (prepared_extends tree (settings.artifactPath kind className)).base
  refine ⟨⟨lookable, ?_⟩, ?_⟩
  · intro passed member
    rw [base] at member
    rw [directory, places]
    exact .inr (aboveFrom_subset_chainFrom _ _ member)
  · rw [directory, places, Settings.placeFrom_outputDirectory, Settings.chainFrom_outputDirectory]
    simp

/-- The directories that writing an artifact makes. -/
theorem Ready.directory_writeArtifact (kind : ArtifactKind) (contents : String) (place : Location) :
    (writeArtifact tree (settings.artifactPath kind className) contents).1.get? place =
        some .directory ↔
      tree.get? place = some .directory ∨
        place ∈ (walkOf tree (settings.outputDirectory kind)).1 := by
  rw [← (ready.walked_prepared single kind).2 place]
  rcases writeArtifact_cases tree (settings.artifactPath kind className) contents with
    ⟨-, -, vacant, result⟩ | ⟨⟨failure, result⟩, -⟩
  · rw [result]
    dsimp only
    by_cases same : place = placeFrom tree.base (settings.artifactPath kind className)
    · rw [same, get?_put_self (ne_nil_of_get? vacant)]
      exact iff_of_false (by simp) vacant
    · rw [get?_put_of_ne same]
  · rw [result]

/-- Whether an artifact is written, and why not, is the same in trees that are alike. -/
theorem Alike.failure_eq (alike : Alike settings tree other) (otherReady : Ready settings other)
    (kind : ArtifactKind) (contents : String) :
    (writeArtifact tree (settings.artifactPath kind className) contents).2 =
      (writeArtifact other (settings.artifactPath kind className) contents).2 := by
  obtain ⟨failure, directory⟩ := ready.walked_prepared single kind
  obtain ⟨otherFailure, otherDirectory⟩ := otherReady.walked_prepared single kind
  have base := (prepared_extends tree (settings.artifactPath kind className)).base
  have otherBase := (prepared_extends other (settings.artifactPath kind className)).base
  have same := alike.walkOf_eq kind
  rw [← same] at otherFailure otherDirectory
  apply writeArtifact_congr (failure.trans otherFailure.symm)
  intro made
  rw [failure, Option.map_eq_none_iff] at made
  obtain ⟨reaches, here⟩ := ready.reaches_prepared single kind made
  obtain ⟨otherReaches, otherHere⟩ := otherReady.reaches_prepared single kind (same ▸ made)
  rw [alike.base] at otherHere otherBase
  rw [← base] at here otherHere
  refine writeText_congr (settings.outputDirectory_ends kind) (Settings.isName_fileName single)
    (Settings.fileName_ne_up className) (otherBase.trans base.symm) reaches here otherReaches
    otherHere ?_
  rw [base, directory, otherDirectory]
  exact or_congr_left (alike.directory kind _)

end Single

section Run

variable {schema : Schema} {templates : Templates} {renderer : Renderer}
  {artifact : ObjectClass × ArtifactKind} {jobs : List (ObjectClass × ArtifactKind)}

theorem reworked_generateAll (plain : ∀ artifact ∈ jobs, Plain artifact)
    (wellFormed : tree.WellFormed) :
    Reworked settings tree (generateAll schema settings templates renderer tree jobs).1 := by
  induction jobs generalizing tree with
  | nil => exact .refl wellFormed
  | cons artifact rest ih =>
      rw [List.forall_mem_cons] at plain
      have step := reworked_generateOne schema settings templates renderer plain.1 wellFormed
      rw [generateAll_cons]
      exact step.trans (ih plain.2 step.wellFormed)

theorem ready_generateAll (ready : Ready settings tree) (plain : ∀ artifact ∈ jobs, Plain artifact) :
    Ready settings (generateAll schema settings templates renderer tree jobs).1 where
  wellFormed := (reworked_generateAll plain ready.wellFormed).wellFormed
  straight := fun kind => (ready.straight kind).keeps
    (keeps_generateAll schema settings templates renderer tree jobs)
  named := by
    intro place name contents file
    by_cases own : ∃ artifact ∈ jobs,
        place ++ [name] = placeFrom tree.base (pathOf settings artifact)
    · obtain ⟨artifact, member, same⟩ := own
      rw [placeFrom_pathOf (plain artifact member)] at same
      obtain ⟨-, last⟩ := List.append_inj' same rfl
      rw [List.singleton_inj.mp last]
      exact ⟨Settings.isName_fileName (single_of_plain (plain artifact member)),
        Settings.fileName_ne_up _⟩
    · rw [← fileAt?_eq_some, fileAt?_generateAll_of_ne, fileAt?_eq_some] at file
      · exact ready.named file
      · exact fun artifact member same => own ⟨artifact, member, same⟩

private theorem generateAll_singleton (tree : FileTree) :
    (generateAll schema settings templates renderer tree [artifact]).1 =
      (generateOne schema settings templates renderer tree artifact).1 := by
  rw [generateAll_cons, generateAll]

theorem ready_generateOne (ready : Ready settings tree) (plain : Plain artifact) :
    Ready settings (generateOne schema settings templates renderer tree artifact).1 := by
  rw [← generateAll_singleton]
  exact ready_generateAll ready (List.forall_mem_singleton.mpr plain)

theorem alike_generateOne (ready : Ready settings tree) (plain : Plain artifact) :
    Alike settings tree (generateOne schema settings templates renderer tree artifact).1 :=
  ready.alike_of_reworked
    (reworked_generateOne schema settings templates renderer plain ready.wellFormed)

theorem alike_generateAll (ready : Ready settings tree)
    (plain : ∀ artifact ∈ jobs, Plain artifact) :
    Alike settings tree (generateAll schema settings templates renderer tree jobs).1 :=
  ready.alike_of_reworked (reworked_generateAll plain ready.wellFormed)

/-- An artifact has the same outcome in trees that are alike. -/
theorem Alike.outcome_eq (alike : Alike settings tree other) (ready : Ready settings tree)
    (otherReady : Ready settings other) (plain : Plain artifact) :
    (generateOne schema settings templates renderer tree artifact).2 =
      (generateOne schema settings templates renderer other artifact).2 := by
  rw [generateOne_eq, generateOne_eq]
  cases rendering schema settings templates renderer artifact with
  | error reason => rfl
  | ok contents =>
      have same : (writeArtifact tree (pathOf settings artifact) contents).2 =
          (writeArtifact other (pathOf settings artifact) contents).2 :=
        alike.failure_eq ready (single_of_plain plain) otherReady artifact.2 contents
      dsimp only
      generalize writeArtifact tree (pathOf settings artifact) contents = first at same ⊢
      generalize writeArtifact other (pathOf settings artifact) contents = second at same ⊢
      obtain ⟨after, failure⟩ := first
      obtain ⟨otherAfter, otherFailure⟩ := second
      dsimp only at same
      subst same
      cases failure <;> rfl

/-- A run has the same outcomes in trees that are alike. -/
theorem Alike.outcomes_eq (alike : Alike settings tree other) (ready : Ready settings tree)
    (otherReady : Ready settings other) (plain : ∀ artifact ∈ jobs, Plain artifact) :
    (generateAll schema settings templates renderer tree jobs).2 =
      (generateAll schema settings templates renderer other jobs).2 := by
  induction jobs generalizing tree other with
  | nil => rfl
  | cons artifact rest ih =>
      rw [List.forall_mem_cons] at plain
      have after : Alike settings
          (generateOne schema settings templates renderer tree artifact).1
          (generateOne schema settings templates renderer other artifact).1 :=
        ((alike_generateOne ready plain.1).symm.trans alike).trans
          (alike_generateOne otherReady plain.1)
      rw [generateAll_cons, generateAll_cons, alike.outcome_eq ready otherReady plain.1,
        ih after (ready_generateOne ready plain.1) (ready_generateOne otherReady plain.1) plain.2]

/-- The directories that a run makes are those of the walks along the directories of the artifacts
that are rendered. -/
theorem directory_generateAll_iff (ready : Ready settings tree)
    (plain : ∀ artifact ∈ jobs, Plain artifact) (place : Location) :
    (generateAll schema settings templates renderer tree jobs).1.get? place = some .directory ↔
      tree.get? place = some .directory ∨ ∃ artifact ∈ jobs,
        (∃ contents, rendering schema settings templates renderer artifact = .ok contents) ∧
          place ∈ (walkOf tree (settings.outputDirectory artifact.2)).1 := by
  induction jobs generalizing tree with
  | nil => simp [generateAll]
  | cons artifact rest ih =>
      rw [List.forall_mem_cons] at plain
      have later : Ready settings (generateOne schema settings templates renderer tree artifact).1 :=
        ready_generateOne ready plain.1
      have alike : Alike settings tree
          (generateOne schema settings templates renderer tree artifact).1 :=
        alike_generateOne ready plain.1
      have here : (generateOne schema settings templates renderer tree artifact).1.get? place =
            some .directory ↔
          tree.get? place = some .directory ∨
            (∃ contents, rendering schema settings templates renderer artifact = .ok contents) ∧
              place ∈ (walkOf tree (settings.outputDirectory artifact.2)).1 := by
        rcases generateOne_cases schema settings templates renderer tree artifact with
          ⟨reason, refused, result⟩ | ⟨contents, rendered, ⟨-, result⟩ | ⟨-, reason, result⟩⟩
        all_goals rw [result]
        · simp [refused]
        all_goals
          simp only [rendered, Except.ok.injEq, exists_eq', true_and]
          exact ready.directory_writeArtifact (single_of_plain plain.1) artifact.2 contents place
      rw [generateAll_cons]
      dsimp only
      rw [ih later plain.2, here, List.exists_mem_cons_iff, or_assoc]
      simp only [← alike.walkOf_eq]

end Run

end DirSchema.Output
