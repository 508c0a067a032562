import DirSchema.Output.Compile
import DirSchema.Proofs.Output.Writing
set_option autoImplicit false

namespace DirSchema.Output

open DirSchema.Path FileTree

def modelOf (schema : Schema) (settings : Settings) (artifact : ObjectClass × ArtifactKind) :
    Model := Model.ofClass schema artifact.1 settings.package artifact.2

def pathOf (settings : Settings) (artifact : ObjectClass × ArtifactKind) : String :=
  settings.artifactPath artifact.2 (Model.classNameOf artifact.2 artifact.1.name)

def rendering (schema : Schema) (settings : Settings) (templates : Templates) (renderer : Renderer)
    (artifact : ObjectClass × ArtifactKind) : Except String String :=
  renderer (templates.get artifact.2) (modelOf schema settings artifact)

/-- The code under which an artifact is reported that was skipped. -/
def failureCode : Except String String → String
  | .error _ => "artifact-render-failed"
  | .ok _ => "artifact-write-failed"

def succeeded (pairs : List ((ObjectClass × ArtifactKind) × Outcome)) :
    List (ObjectClass × ArtifactKind) :=
  (pairs.filter fun pair => pair.2.written?.isSome).map Prod.fst

def failed (pairs : List ((ObjectClass × ArtifactKind) × Outcome)) :
    List (ObjectClass × ArtifactKind) :=
  (pairs.filter fun pair => pair.2.written?.isNone).map Prod.fst

def lastWritten? (pairs : List ((ObjectClass × ArtifactKind) × Outcome)) (path : String) :
    Option (ObjectClass × ArtifactKind) :=
  (pairs.reverse.find? fun pair => pair.2.written? = some path).map Prod.fst

section Run

variable (schema : Schema) (settings : Settings) (templates : Templates) (renderer : Renderer)

/-- The outcomes that an artifact can have: it is written to its path, or it is skipped, which is
due to its rendering if that failed. -/
inductive Tells (artifact : ObjectClass × ArtifactKind) : Outcome → Prop where
  | written {contents : String}
      (rendered : rendering schema settings templates renderer artifact = .ok contents) :
      Tells artifact (.written (pathOf settings artifact))
  | renderFailed {reason : String}
      (refused : rendering schema settings templates renderer artifact = .error reason) :
      Tells artifact
        (.renderFailed artifact.2 (modelOf schema settings artifact).className reason)
  | writeFailed {contents : String} (reason : String)
      (rendered : rendering schema settings templates renderer artifact = .ok contents) :
      Tells artifact
        (.writeFailed artifact.2 (modelOf schema settings artifact).className reason)

private theorem className_modelOf (artifact : ObjectClass × ArtifactKind) :
    (modelOf schema settings artifact).className =
      Model.classNameOf artifact.2 artifact.1.name := rfl

theorem generateOne_eq (tree : FileTree) (artifact : ObjectClass × ArtifactKind) :
    generateOne schema settings templates renderer tree artifact =
      match rendering schema settings templates renderer artifact with
      | .error reason =>
        (tree, .renderFailed artifact.2 (modelOf schema settings artifact).className reason)
      | .ok contents =>
        match writeArtifact tree (pathOf settings artifact) contents with
        | (tree, none) => (tree, .written (pathOf settings artifact))
        | (tree, some failure) =>
          (tree, .writeFailed artifact.2 (modelOf schema settings artifact).className
            failure.message) := by
  obtain ⟨owner, kind⟩ := artifact
  have className := className_modelOf schema settings (owner, kind)
  delta generateOne rendering pathOf
  cases rendered : renderer (templates.get kind) (modelOf schema settings (owner, kind)) with
  | error reason =>
      rw [modelOf] at *
      simp only [rendered]
  | ok contents =>
      rw [modelOf] at *
      rcases written : writeArtifact tree
        (settings.artifactPath kind (Model.classNameOf kind owner.name)) contents with
        ⟨after, failure⟩
      cases failure <;> simp only [rendered, className, written]

/-- What generating one artifact comes to. -/
theorem generateOne_cases (tree : FileTree) (artifact : ObjectClass × ArtifactKind) :
    (∃ reason, rendering schema settings templates renderer artifact = .error reason ∧
      generateOne schema settings templates renderer tree artifact =
        (tree, .renderFailed artifact.2 (modelOf schema settings artifact).className reason)) ∨
    ∃ contents, rendering schema settings templates renderer artifact = .ok contents ∧
      (((writeArtifact tree (pathOf settings artifact) contents).2 = none ∧
        generateOne schema settings templates renderer tree artifact =
          ((writeArtifact tree (pathOf settings artifact) contents).1,
            .written (pathOf settings artifact))) ∨
      ((writeArtifact tree (pathOf settings artifact) contents).2 ≠ none ∧ ∃ reason,
        generateOne schema settings templates renderer tree artifact =
          ((writeArtifact tree (pathOf settings artifact) contents).1,
            .writeFailed artifact.2 (modelOf schema settings artifact).className reason))) := by
  rw [generateOne_eq]
  cases rendered : rendering schema settings templates renderer artifact with
  | error reason => exact .inl ⟨reason, rfl, rfl⟩
  | ok contents =>
      right
      refine ⟨contents, rfl, ?_⟩
      dsimp only
      generalize writeArtifact tree (pathOf settings artifact) contents = result
      obtain ⟨after, failure⟩ := result
      cases failure with
      | none => exact .inl ⟨rfl, rfl⟩
      | some failure => exact .inr ⟨nofun, failure.message, rfl⟩

/-- The tree is changed by writing the artifact, or not at all. -/
theorem tree_generateOne (tree : FileTree) (artifact : ObjectClass × ArtifactKind) :
    (generateOne schema settings templates renderer tree artifact).1 = tree ∨
      ∃ contents, (generateOne schema settings templates renderer tree artifact).1 =
        (writeArtifact tree (pathOf settings artifact) contents).1 := by
  rcases generateOne_cases schema settings templates renderer tree artifact with
    ⟨reason, -, result⟩ | ⟨contents, -, ⟨-, result⟩ | ⟨-, reason, result⟩⟩
  · left
    rw [result]
  · right
    exact ⟨contents, by rw [result]⟩
  · right
    exact ⟨contents, by rw [result]⟩

private theorem tells_generateOne (tree : FileTree) (artifact : ObjectClass × ArtifactKind) :
    Tells schema settings templates renderer artifact
      (generateOne schema settings templates renderer tree artifact).2 := by
  rcases generateOne_cases schema settings templates renderer tree artifact with
    ⟨reason, refused, result⟩ | ⟨contents, rendered, ⟨-, result⟩ | ⟨-, reason, result⟩⟩
  · rw [result]
    exact .renderFailed refused
  · rw [result]
    exact .written rendered
  · rw [result]
    exact .writeFailed reason rendered

theorem generateAll_cons (tree : FileTree) (artifact : ObjectClass × ArtifactKind)
    (rest : List (ObjectClass × ArtifactKind)) :
    generateAll schema settings templates renderer tree (artifact :: rest) =
      ((generateAll schema settings templates renderer
          (generateOne schema settings templates renderer tree artifact).1 rest).1,
        (generateOne schema settings templates renderer tree artifact).2 ::
          (generateAll schema settings templates renderer
            (generateOne schema settings templates renderer tree artifact).1 rest).2) := rfl

/-- A run tells of its artifacts one by one. -/
theorem tells_generateAll (tree : FileTree) (jobs : List (ObjectClass × ArtifactKind)) :
    List.Forall₂ (Tells schema settings templates renderer) jobs
      (generateAll schema settings templates renderer tree jobs).2 := by
  induction jobs generalizing tree with
  | nil => exact .nil
  | cons artifact rest ih =>
      rw [generateAll_cons]
      exact .cons (tells_generateOne schema settings templates renderer tree artifact) (ih _)

/-- What a run accounts for: each artifact has one outcome, those that succeeded are the files that
were written, those that failed are the ones that were skipped, and each of these is reported once,
as an error whose code says at which point it failed. -/
structure Accounted (jobs : List (ObjectClass × ArtifactKind)) (outcomes : List Outcome) :
    Prop where
  each : outcomes.length = jobs.length
  written : (Report.ofOutcomes [] outcomes).written =
    (succeeded (jobs.zip outcomes)).map (pathOf settings)
  skipped : (Report.ofOutcomes [] outcomes).skipped.map (fun entry => (entry.kind, entry.className)) =
    (failed (jobs.zip outcomes)).map fun artifact =>
      (artifact.2, (modelOf schema settings artifact).className)
  reported : (outcomes.filterMap Outcome.diagnostic?).map (fun entry => (entry.severity, entry.code)) =
    (failed (jobs.zip outcomes)).map fun artifact =>
      (.error, some (failureCode (rendering schema settings templates renderer artifact)))

private theorem succeeded_cons (artifact : ObjectClass × ArtifactKind) (outcome : Outcome)
    (rest : List ((ObjectClass × ArtifactKind) × Outcome)) :
    succeeded ((artifact, outcome) :: rest) =
      if outcome.written?.isSome then artifact :: succeeded rest else succeeded rest := by
  rw [succeeded, List.filter_cons]
  split <;> rfl

private theorem failed_cons (artifact : ObjectClass × ArtifactKind) (outcome : Outcome)
    (rest : List ((ObjectClass × ArtifactKind) × Outcome)) :
    failed ((artifact, outcome) :: rest) =
      if outcome.written?.isNone then artifact :: failed rest else failed rest := by
  rw [failed, List.filter_cons]
  split <;> rfl

theorem accounted_of_tells {jobs : List (ObjectClass × ArtifactKind)} {outcomes : List Outcome}
    (tells : List.Forall₂ (Tells schema settings templates renderer) jobs outcomes) :
    Accounted schema settings templates renderer jobs outcomes := by
  induction tells with
  | nil => exact ⟨rfl, rfl, rfl, rfl⟩
  | cons first _ ih =>
      obtain ⟨each, written, skipped, reported⟩ := ih
      dsimp only [Report.ofOutcomes] at written skipped
      cases first
      all_goals
        refine ⟨congrArg (· + 1) each, ?_, ?_, ?_⟩
        · simp [Report.ofOutcomes, succeeded_cons, Outcome.written?, List.filterMap_cons, written]
        · simp [Report.ofOutcomes, failed_cons, Outcome.written?, Outcome.skipped?,
            List.filterMap_cons, skipped]
        · simp [failed_cons, Outcome.written?, Outcome.diagnostic?, Outcome.failure,
            List.filterMap_cons, failureCode, Diagnostic.Code.name, *]

/-- A name without separators. -/
def Plain (artifact : ObjectClass × ArtifactKind) : Prop := '/' ∉ artifact.1.name.toList

theorem keeps_generateOne (tree : FileTree) (artifact : ObjectClass × ArtifactKind) :
    Keeps tree (generateOne schema settings templates renderer tree artifact).1 := by
  rcases tree_generateOne schema settings templates renderer tree artifact with
    same | ⟨contents, written⟩
  · rw [same]
    exact .refl tree
  · rw [written]
    exact keeps_writeArtifact tree (pathOf settings artifact) contents

theorem keeps_generateAll (tree : FileTree) (jobs : List (ObjectClass × ArtifactKind)) :
    Keeps tree (generateAll schema settings templates renderer tree jobs).1 := by
  induction jobs generalizing tree with
  | nil => exact .refl tree
  | cons artifact rest ih =>
      rw [generateAll_cons]
      exact (keeps_generateOne schema settings templates renderer tree artifact).trans (ih _)

theorem keeps_generate (tree : FileTree) :
    Keeps tree (generate schema settings templates renderer tree).1 :=
  keeps_generateAll schema settings templates renderer tree (artifacts schema settings)

private theorem reaches_generateOne (tree : FileTree) (artifact : ObjectClass × ArtifactKind)
    {path : String}
    (written : (generateOne schema settings templates renderer tree artifact).2.written? =
      some path) :
    (generateOne schema settings templates renderer tree artifact).1.Reaches path := by
  rcases generateOne_cases schema settings templates renderer tree artifact with
    ⟨reason, -, result⟩ | ⟨contents, -, ⟨success, result⟩ | ⟨-, reason, result⟩⟩
  · rw [result] at written
    cases written
  · rw [result] at written ⊢
    cases written
    dsimp only
    exact (stored_writeArtifact success).1
  · rw [result] at written
    cases written

/-- A path that was written can still be reached when the run is over. -/
theorem reaches_generateAll (tree : FileTree) (jobs : List (ObjectClass × ArtifactKind))
    {outcome : Outcome} {path : String}
    (member : outcome ∈ (generateAll schema settings templates renderer tree jobs).2)
    (written : outcome.written? = some path) :
    (generateAll schema settings templates renderer tree jobs).1.Reaches path := by
  induction jobs generalizing tree with
  | nil => cases member
  | cons artifact rest ih =>
      rw [generateAll_cons] at member ⊢
      rcases List.mem_cons.mp member with rfl | later
      · exact (keeps_generateAll schema settings templates renderer _ rest).reaches
          (reaches_generateOne schema settings templates renderer tree artifact written)
      · exact ih _ later

def bytes? (artifact : ObjectClass × ArtifactKind) : Option ByteArray :=
  (rendering schema settings templates renderer artifact).toOption.map String.toUTF8

theorem single_of_plain {artifact : ObjectClass × ArtifactKind} (plain : Plain artifact) :
    '/' ∉ (Model.classNameOf artifact.2 artifact.1.name).toList :=
  single_classNameOf artifact.2 plain

variable {settings} in
private theorem pathOf_of_place {artifact other : ObjectClass × ArtifactKind} {base : Location}
    (plain : Plain artifact) (otherPlain : Plain other)
    (same : placeFrom base (pathOf settings artifact) = placeFrom base (pathOf settings other)) :
    pathOf settings artifact = pathOf settings other :=
  Settings.artifactPath_of_place base (single_of_plain plain) (single_of_plain otherPlain) same

/-- One artifact changes the file at its own path, if it is written, and no other. -/
theorem fileAt?_generateOne (tree : FileTree) {artifact other : ObjectClass × ArtifactKind}
    (plain : Plain artifact) (otherPlain : Plain other) :
    (generateOne schema settings templates renderer tree artifact).1.fileAt?
        (placeFrom tree.base (pathOf settings other)) =
      if (generateOne schema settings templates renderer tree artifact).2.written? =
          some (pathOf settings other) then
        bytes? schema settings templates renderer artifact
      else tree.fileAt? (placeFrom tree.base (pathOf settings other)) := by
  rcases generateOne_cases schema settings templates renderer tree artifact with
    ⟨reason, -, result⟩ | ⟨contents, rendered, ⟨success, result⟩ | ⟨refused, reason, result⟩⟩
  · rw [result]
    dsimp only
    rw [if_neg]
    nofun
  · rw [result]
    dsimp only
    by_cases same : pathOf settings artifact = pathOf settings other
    · have hit : Outcome.written? (.written (pathOf settings artifact)) =
          some (pathOf settings other) := congrArg some same
      rw [if_pos hit, ← same, (stored_writeArtifact success).2, bytes?, rendered]
      rfl
    · have missed : Outcome.written? (.written (pathOf settings artifact)) ≠
          some (pathOf settings other) := fun both => same (Option.some.inj both)
      rw [if_neg missed]
      apply fileAt?_writeArtifact
      intro _ here
      exact same (pathOf_of_place otherPlain plain here).symm
  · rw [result]
    dsimp only
    rw [if_neg]
    · exact fileAt?_writeArtifact fun success => absurd success refused
    · nofun

theorem lastWritten?_cons (artifact : ObjectClass × ArtifactKind) (outcome : Outcome)
    (rest : List ((ObjectClass × ArtifactKind) × Outcome)) (path : String) :
    lastWritten? ((artifact, outcome) :: rest) path =
      (lastWritten? rest path).or
        (if outcome.written? = some path then some artifact else none) := by
  rw [lastWritten?, lastWritten?, List.reverse_cons, List.find?_append, List.find?_singleton,
    Option.map_or]
  split <;> simp_all

/-- When a run is over, the file at the path of an artifact is the one that was written last, or the
one that stood there before. -/
theorem fileAt?_generateAll (tree : FileTree) (jobs : List (ObjectClass × ArtifactKind))
    (plain : ∀ artifact ∈ jobs, Plain artifact) {other : ObjectClass × ArtifactKind}
    (otherPlain : Plain other) :
    (generateAll schema settings templates renderer tree jobs).1.fileAt?
        (placeFrom tree.base (pathOf settings other)) =
      match lastWritten? (jobs.zip (generateAll schema settings templates renderer tree jobs).2)
        (pathOf settings other) with
      | some artifact => bytes? schema settings templates renderer artifact
      | none => tree.fileAt? (placeFrom tree.base (pathOf settings other)) := by
  induction jobs generalizing tree with
  | nil => rfl
  | cons artifact rest ih =>
      rw [List.forall_mem_cons] at plain
      have step :=
        fileAt?_generateOne schema settings templates renderer tree plain.1 otherPlain
      have base :=
        (keeps_generateOne schema settings templates renderer tree artifact).base
      have after :=
        ih (generateOne schema settings templates renderer tree artifact).1 plain.2
      rw [base] at after
      rw [generateAll_cons, List.zip_cons_cons, lastWritten?_cons]
      dsimp only
      rw [after, step]
      generalize generateOne schema settings templates renderer tree artifact = first
      cases lastWritten? (rest.zip (generateAll schema settings templates renderer first.1 rest).2)
        (pathOf settings other) with
      | some later => rfl
      | none =>
          rw [Option.none_or]
          dsimp only
          by_cases hit : first.2.written? = some (pathOf settings other)
          · rw [if_pos hit, if_pos hit]
          · rw [if_neg hit, if_neg hit]

end Run

end DirSchema.Output
