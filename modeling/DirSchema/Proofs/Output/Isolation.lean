import DirSchema.Proofs.Output.Generation
import Mathlib.Data.List.Forall2
import Mathlib.Data.Set.Defs
set_option autoImplicit false

namespace DirSchema.Output

open DirSchema.Path FileTree

section Run

variable {schema : Schema} {settings : Settings} {templates : Templates}
  {renderer other : Renderer} {tree before : FileTree}
  {artifact : ObjectClass × ArtifactKind} {jobs : List (ObjectClass × ArtifactKind)}
  {outcomes : List Outcome} {path : String}

private theorem written?_of_tells {outcome : Outcome}
    (tells : Tells schema settings templates renderer artifact outcome)
    (written : outcome.written? = some path) :
    path = pathOf settings artifact ∧
      ∃ contents, rendering schema settings templates renderer artifact = .ok contents := by
  cases tells with
  | written rendered => exact ⟨(Option.some.inj written).symm, _, rendered⟩
  | renderFailed refused => cases written
  | writeFailed reason rendered => cases written

/-- The last artifact that was written to a path is one of the run, it has this path, and it was
rendered. -/
theorem tells_of_lastWritten?
    (tells : List.Forall₂ (Tells schema settings templates renderer) jobs outcomes)
    (last : lastWritten? (jobs.zip outcomes) path = some artifact) :
    artifact ∈ jobs ∧ path = pathOf settings artifact ∧
      ∃ contents, rendering schema settings templates renderer artifact = .ok contents := by
  rw [lastWritten?, Option.map_eq_some_iff] at last
  obtain ⟨⟨artifact, outcome⟩, found, rfl⟩ := last
  have member := List.mem_reverse.mp (List.mem_of_find?_eq_some found)
  have written : outcome.written? = some path := by simpa using List.find?_some found
  have told := (List.forall₂_iff_zip.mp tells).2 member
  exact ⟨(List.of_mem_zip member).1, written?_of_tells told written⟩

private theorem exists_lastWritten? (lengths : jobs.length = outcomes.length)
    (member : path ∈ (Report.ofOutcomes [] outcomes).written) :
    ∃ artifact, lastWritten? (jobs.zip outcomes) path = some artifact := by
  obtain ⟨outcome, among, written⟩ := List.mem_filterMap.mp member
  have paired : outcome ∈ (jobs.zip outcomes).map Prod.snd := by
    rwa [List.map_snd_zip (Nat.le_of_eq lengths.symm)]
  obtain ⟨pair, inside, rfl⟩ := List.mem_map.mp paired
  have some : ((jobs.zip outcomes).reverse.find? fun pair =>
      pair.2.written? = some path).isSome := by
    rw [List.find?_isSome]
    exact ⟨pair, List.mem_reverse.mpr inside, decide_eq_true written⟩
  obtain ⟨last, found⟩ := Option.isSome_iff_exists.mp some
  exact ⟨last.1, by rw [lastWritten?, found]; rfl⟩

private theorem mem_written_of_getElem? {index : Nat}
    (written : outcomes[index]?.bind Outcome.written? = some path) :
    path ∈ (Report.ofOutcomes [] outcomes).written := by
  obtain ⟨outcome, found, tells⟩ := Option.bind_eq_some_iff.mp written
  exact List.mem_filterMap.mpr ⟨outcome, List.mem_of_getElem? found, tells⟩

/-- What the paths hold that a run has written. -/
def HoldsLast (schema : Schema) (settings : Settings) (templates : Templates)
    (renderer : Renderer) (run : FileTree × List Outcome) : Prop :=
  ∀ path ∈ (Report.ofOutcomes [] run.2).written, ∃ artifact contents,
    lastWritten? ((artifacts schema settings).zip run.2) path = some artifact ∧
      rendering schema settings templates renderer artifact = .ok contents ∧
      run.1.readText path = .ok contents

/-- A schema with classes whose names have no separators. -/
def PlainNames (schema : Schema) : Prop :=
  ∀ owner ∈ schema.objectClasses, '/' ∉ owner.name.toList

theorem enabled_of_mem_artifacts (member : artifact ∈ artifacts schema settings) :
    artifact.1 ∈ schema.objectClasses ∧ artifact.2 ∈ settings.enabledKinds := by
  rw [artifacts, List.mem_flatMap] at member
  obtain ⟨owner, among, paired⟩ := member
  obtain ⟨kind, enabled, rfl⟩ := List.mem_map.mp paired
  exact ⟨among, enabled⟩

theorem plain_of_mem_artifacts (plain : PlainNames schema)
    (member : artifact ∈ artifacts schema settings) : Plain artifact :=
  plain artifact.1 (enabled_of_mem_artifacts member).1

/-- What a run has written stands at the places of the paths when it is over. -/
theorem stored_generate (plain : PlainNames schema) (tree : FileTree)
    (written : path ∈ (Report.ofOutcomes []
      (generate schema settings templates renderer tree).2).written) :
    ∃ artifact ∈ artifacts schema settings, ∃ contents,
      lastWritten? ((artifacts schema settings).zip
          (generate schema settings templates renderer tree).2) path = some artifact ∧
        path = pathOf settings artifact ∧
        rendering schema settings templates renderer artifact = .ok contents ∧
        (generate schema settings templates renderer tree).1.Reaches path ∧
        (generate schema settings templates renderer tree).1.fileAt?
          (placeFrom (generate schema settings templates renderer tree).1.base path) =
            some contents.toUTF8 := by
  rw [generate] at written ⊢
  have tells := tells_generateAll schema settings templates renderer tree
    (artifacts schema settings)
  have keeps := keeps_generateAll schema settings templates renderer tree
    (artifacts schema settings)
  obtain ⟨outcome, among, here⟩ := List.mem_filterMap.mp written
  have reaches := reaches_generateAll schema settings templates renderer tree
    (artifacts schema settings) among here
  obtain ⟨artifact, last⟩ := exists_lastWritten? (List.forall₂_iff_zip.mp tells).1 written
  obtain ⟨member, rfl, contents, rendered⟩ := tells_of_lastWritten? tells last
  have stored := fileAt?_generateAll schema settings templates renderer tree
    (artifacts schema settings) (fun _ => plain_of_mem_artifacts plain)
    (plain_of_mem_artifacts plain member)
  rw [last] at stored
  dsimp only at stored
  rw [bytes?, rendered, ← keeps.base] at stored
  exact ⟨artifact, member, contents, last, rfl, rendered, reaches, stored⟩

theorem holdsLast_generate (plain : PlainNames schema) (tree : FileTree) :
    HoldsLast schema settings templates renderer
      (generate schema settings templates renderer tree) := by
  intro path written
  obtain ⟨artifact, member, contents, last, rfl, rendered, reaches, stored⟩ :=
    stored_generate plain tree written
  have ends := settings.artifactPath_ends artifact.2
    (single_of_plain (plain_of_mem_artifacts plain member))
  have entry := Settings.entry_fileName (Model.classNameOf artifact.2 artifact.1.name)
  exact ⟨artifact, contents, last, rendered, readText_of_file ends entry reaches stored⟩

end Run

section Admitted

variable {schema : Schema} {settings : Settings} {templates : Templates}
  {renderer other : Renderer} {tree before : FileTree}
  {artifact : ObjectClass × ArtifactKind} {jobs : List (ObjectClass × ArtifactKind)}
  {outcomes : List Outcome} {path : String}

/-- When an artifact is written to a path: it is its own, its rendering succeeds, and the tree that
generation started with admits it. -/
def Written (schema : Schema) (settings : Settings) (templates : Templates) (renderer : Renderer)
    (before : FileTree) (artifact : ObjectClass × ArtifactKind) (path : String) : Prop :=
  path = pathOf settings artifact ∧
    (∃ contents, rendering schema settings templates renderer artifact = .ok contents) ∧
    Admits before settings artifact.2 (Model.classNameOf artifact.2 artifact.1.name)

theorem reworked_generateOne (schema : Schema) (settings : Settings) (templates : Templates)
    (renderer : Renderer) (plain : Plain artifact) (wellFormed : tree.WellFormed) :
    Reworked settings tree (generateOne schema settings templates renderer tree artifact).1 := by
  rcases tree_generateOne schema settings templates renderer tree artifact with
    same | ⟨contents, written⟩
  · rw [same]
    exact .refl wellFormed
  · rw [written]
    exact reworked_writeArtifact (single_of_plain plain) wellFormed contents

/-- What came before an artifact has no part in whether it is written. -/
theorem written?_generateOne (plain : Plain artifact) (reworked : Reworked settings before tree) :
    (generateOne schema settings templates renderer tree artifact).2.written? = some path ↔
      Written schema settings templates renderer before artifact path := by
  have success (contents : String) :=
    (writeArtifact_eq_none_iff settings artifact.2 (single_of_plain plain)
      reworked.wellFormed contents).trans
      (reworked.admits_iff (single_of_plain plain))
  rw [Written]
  rcases generateOne_cases schema settings templates renderer tree artifact with
    ⟨reason, refused, result⟩ | ⟨contents, rendered, ⟨written, result⟩ | ⟨failed, reason, result⟩⟩
  · rw [result, refused]
    simp [Outcome.written?]
  · have admits := (success contents).mp written
    rw [result, rendered]
    simp [Outcome.written?, admits, eq_comm]
  · have refuses : ¬ Admits before settings artifact.2
        (Model.classNameOf artifact.2 artifact.1.name) :=
      fun admits => failed ((success contents).mpr admits)
    rw [result]
    simp [Outcome.written?, refuses]

private theorem written?_generateAll (schema : Schema) (templates : Templates) (renderer : Renderer)
    (plain : ∀ artifact ∈ jobs, Plain artifact)
    (reworked : Reworked settings before tree) :
    List.Forall₂ (fun artifact outcome => ∀ path, outcome.written? = some path ↔
        Written schema settings templates renderer before artifact path) jobs
      (generateAll schema settings templates renderer tree jobs).2 := by
  induction jobs generalizing tree with
  | nil => exact .nil
  | cons artifact rest ih =>
      rw [List.forall_mem_cons] at plain
      have step := reworked_generateOne schema settings templates renderer plain.1
        reworked.wellFormed
      rw [generateAll_cons]
      exact .cons (fun _ => written?_generateOne plain.1 reworked)
        (ih plain.2 (reworked.trans step))

private theorem lastWritten?_congr {others : List Outcome}
    {first second : ObjectClass × ArtifactKind → Prop}
    (here : List.Forall₂ (fun artifact outcome => outcome.written? = some path ↔ first artifact)
      jobs outcomes)
    (there : List.Forall₂ (fun artifact outcome => outcome.written? = some path ↔ second artifact)
      jobs others)
    (same : ∀ artifact ∈ jobs, first artifact ↔ second artifact) :
    lastWritten? (jobs.zip outcomes) path = lastWritten? (jobs.zip others) path := by
  induction here generalizing others with
  | nil => rfl
  | cons head _ ih =>
      cases there with
      | cons otherHead otherTail =>
          rw [List.forall_mem_cons] at same
          have outcome := head.trans (same.1.trans otherHead.symm)
          rw [List.zip_cons_cons, List.zip_cons_cons, lastWritten?_cons, lastWritten?_cons,
            ih otherTail same.2, if_congr outcome rfl rfl]

end Admitted

section Failing

variable (schema : Schema) (settings : Settings) (templates : Templates)

/-- A renderer that does as another one, except for models that it fails on. -/
structure FailsOn (failing : Set Model) (renderer other : Renderer) : Prop where
  agrees : ∀ template model, model ∉ failing → other template model = renderer template model
  fails : ∀ template model, model ∈ failing → ∃ reason, other template model = .error reason

/-- An artifact that is none of the failing ones and does not share its path with one of them. -/
structure Unaffected (failing : Set Model) (artifact : ObjectClass × ArtifactKind) : Prop where
  model : modelOf schema settings artifact ∉ failing
  path : ∀ other ∈ artifacts schema settings, modelOf schema settings other ∈ failing →
    pathOf settings other ≠ pathOf settings artifact

/-- What two runs have in common for one artifact: whether it is written, the file that they leave
at its path, and what is read there if it is written. -/
structure SameArtifact (base : Location) (run other : FileTree × List Outcome) (index : Nat)
    (path : String) : Prop where
  outcome : run.2[index]?.bind Outcome.written? = other.2[index]?.bind Outcome.written?
  file : run.1.fileAt? (placeFrom base path) = other.1.fileAt? (placeFrom base path)
  text : run.2[index]?.bind Outcome.written? = some path →
    run.1.readText path = other.1.readText path

end Failing

section Isolated

variable {schema : Schema} {settings : Settings} {templates : Templates} {failing : Set Model}
  {renderer other : Renderer} {tree : FileTree} {artifact : ObjectClass × ArtifactKind}

theorem exists_outcome {relation : ObjectClass × ArtifactKind → Outcome → Prop}
    {jobs : List (ObjectClass × ArtifactKind)} {outcomes : List Outcome}
    (told : List.Forall₂ relation jobs outcomes) {index : Nat}
    (found : jobs[index]? = some artifact) :
    ∃ outcome, outcomes[index]? = some outcome ∧ relation artifact outcome := by
  induction told generalizing index with
  | nil => cases found
  | cons head _ ih =>
      cases index with
      | zero =>
          cases found
          exact ⟨_, rfl, head⟩
      | succ index => exact ih found

private theorem FailsOn.rendering_eq (failsOn : FailsOn failing renderer other)
    (fine : modelOf schema settings artifact ∉ failing) :
    rendering schema settings templates other artifact =
      rendering schema settings templates renderer artifact := failsOn.agrees _ _ fine

/-- No artifact with the path of an unaffected one fails. -/
theorem Unaffected.not_failing (unaffected : Unaffected schema settings failing artifact)
    {sharing : ObjectClass × ArtifactKind} (member : sharing ∈ artifacts schema settings)
    (same : pathOf settings artifact = pathOf settings sharing) :
    modelOf schema settings sharing ∉ failing :=
  fun fails => unaffected.path sharing member fails same.symm

/-- An artifact that does not fail has the same outcome, and leaves the same file, whichever others
fail. -/
theorem sameArtifact_of_failsOn (plain : PlainNames schema) (wellFormed : tree.WellFormed)
    (failsOn : FailsOn failing renderer other) {index : Nat}
    (found : (artifacts schema settings)[index]? = some artifact)
    (unaffected : Unaffected schema settings failing artifact) :
    SameArtifact tree.base (generate schema settings templates renderer tree)
      (generate schema settings templates other tree) index (pathOf settings artifact) := by
  have plainAll : ∀ artifact ∈ artifacts schema settings, Plain artifact :=
    fun _ => plain_of_mem_artifacts plain
  have member := List.mem_of_getElem? found
  have start : Reworked settings tree tree := .refl wellFormed
  have here := written?_generateAll schema templates renderer plainAll start
  have there := written?_generateAll schema templates other plainAll start
  have agree : ∀ sharing ∈ artifacts schema settings,
      Written schema settings templates renderer tree sharing (pathOf settings artifact) ↔
        Written schema settings templates other tree sharing (pathOf settings artifact) := by
    intro sharing among
    rw [Written, Written]
    apply and_congr_right
    intro same
    rw [failsOn.rendering_eq (unaffected.not_failing among same)]
  have last := lastWritten?_congr (here.imp fun _ _ told => told (pathOf settings artifact))
    (there.imp fun _ _ told => told (pathOf settings artifact)) agree
  have tells := tells_generateAll schema settings templates renderer tree
    (artifacts schema settings)
  have outcome : ((generate schema settings templates renderer tree).2[index]?.bind
        Outcome.written?) =
      ((generate schema settings templates other tree).2[index]?.bind Outcome.written?) := by
    obtain ⟨first, atFirst, writtenFirst⟩ := exists_outcome here found
    obtain ⟨second, atSecond, writtenSecond⟩ := exists_outcome there found
    rw [generate, generate, atFirst, atSecond, Option.bind_some, Option.bind_some]
    ext path
    rw [writtenFirst, writtenSecond, Written, Written, failsOn.rendering_eq unaffected.model]
  refine ⟨outcome, ?_, ?_⟩
  · have plainHere := plainAll artifact member
    rw [generate, generate, fileAt?_generateAll _ _ _ _ tree _ plainAll plainHere,
      fileAt?_generateAll _ _ _ _ tree _ plainAll plainHere, ← last]
    cases writer : lastWritten? ((artifacts schema settings).zip
        (generateAll schema settings templates renderer tree (artifacts schema settings)).2)
      (pathOf settings artifact) with
    | none => rfl
    | some sharing =>
        obtain ⟨among, same, -⟩ := tells_of_lastWritten? tells writer
        simp only [bytes?, failsOn.rendering_eq (unaffected.not_failing among same)]
  · intro written
    obtain ⟨first, contents, lastFirst, rendered, read⟩ :=
      holdsLast_generate plain tree _ (mem_written_of_getElem? written)
    obtain ⟨second, others, lastSecond, otherRendered, otherRead⟩ :=
      holdsLast_generate plain tree _ (mem_written_of_getElem? (outcome ▸ written))
    rw [generate] at lastFirst lastSecond
    rw [← last, lastFirst, Option.some.injEq] at lastSecond
    subst lastSecond
    obtain ⟨among, same, -⟩ := tells_of_lastWritten? tells lastFirst
    rw [failsOn.rendering_eq (unaffected.not_failing among same), rendered,
      Except.ok.injEq] at otherRendered
    rw [read, otherRead, otherRendered]

end Isolated

/-- Every artifact of a schema is handled once, and failures are isolated: the artifacts are visited
in order, each is written or skipped with one report, and if no name of a class has a separator in
it then every path that was written holds what was rendered last for it, and the artifacts that do
not fail are the same whichever others do. -/
theorem generate_isolates_failures (schema : Schema) (settings : Settings) (templates : Templates)
    (renderer : Renderer) (tree : FileTree) :
    Accounted schema settings templates renderer (artifacts schema settings)
        (generate schema settings templates renderer tree).2 ∧
      (PlainNames schema →
        HoldsLast schema settings templates renderer
            (generate schema settings templates renderer tree) ∧
          ∀ (failing : Set Model) (other : Renderer), FailsOn failing renderer other →
            tree.WellFormed → ∀ index artifact,
              (artifacts schema settings)[index]? = some artifact →
              Unaffected schema settings failing artifact →
              SameArtifact tree.base (generate schema settings templates renderer tree)
                (generate schema settings templates other tree) index
                (pathOf settings artifact)) := by
  refine ⟨accounted_of_tells schema settings templates renderer
    (tells_generateAll schema settings templates renderer tree _), ?_⟩
  intro plain
  refine ⟨holdsLast_generate plain tree, ?_⟩
  intro failing other failsOn wellFormed index artifact found unaffected
  exact sameArtifact_of_failsOn plain wellFormed failsOn found unaffected

/-- Two classes, one of them declared twice. -/
def staff : Schema :=
  { objectClasses := [{ name := "person" }, { name := "employee" }, { name := "person" }] }

/-- A tree in which a directory stands where an entity would. -/
def occupied : FileTree :=
  { base := ["w"]
    nodes := [(["w"], .directory), (["w", "out"], .directory), (["w", "out", "app"], .directory),
      (["w", "out", "app", "types"], .directory),
      (["w", "out", "app", "types", "Employee.rs"], .directory)] }

/-- A renderer that writes the name of the class behind the template. -/
def naming : Renderer := fun template model => .ok (template ++ model.className)

/-- The same, except that it fails on one of the mappers. -/
def namingMost : Renderer := fun template model =>
  if model.className = "EmployeeMapper" then .error "unknown field"
  else .ok (template ++ model.className)

theorem staff_isolated :
    (generate staff { outputRoot := "out", package := "app" } ⟨"e ", "m "⟩ namingMost
        occupied).2.map Outcome.written? =
      [some "out/app/types/Person.rs", some "out/app/mappers/PersonMapper.rs", none, none,
        some "out/app/types/Person.rs", some "out/app/mappers/PersonMapper.rs"] ∧
    SameArtifact occupied.base
      (generate staff { outputRoot := "out", package := "app" } ⟨"e ", "m "⟩ naming occupied)
      (generate staff { outputRoot := "out", package := "app" } ⟨"e ", "m "⟩ namingMost occupied) 4
      "out/app/types/Person.rs" := by
  have plain : PlainNames staff := by
    show ∀ owner ∈ staff.objectClasses, '/' ∉ owner.name.toList
    decide
  have failsOn : FailsOn {model | model.className = "EmployeeMapper"} naming namingMost := by
    constructor
    · intro template model fine
      exact if_neg fine
    · intro template model fails
      exact ⟨"unknown field", if_pos fails⟩
  have unaffected : Unaffected staff { outputRoot := "out", package := "app" }
      {model | model.className = "EmployeeMapper"} ({ name := "person" }, .entity) := by
    constructor
    · show ¬ (modelOf _ _ _).className = "EmployeeMapper"
      decide
    · show ∀ other ∈ artifacts staff _, (modelOf staff _ other).className = "EmployeeMapper" →
        pathOf _ other ≠ pathOf _ _
      decide +kernel
  exact ⟨by decide +kernel,
    ((generate_isolates_failures staff { outputRoot := "out", package := "app" } ⟨"e ", "m "⟩ naming
      occupied).2 plain).2 _ namingMost failsOn (by decide +kernel) 4 ({ name := "person" }, .entity)
      rfl unaffected⟩

end DirSchema.Output
