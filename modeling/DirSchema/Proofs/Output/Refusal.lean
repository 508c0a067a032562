import DirSchema.Output.Compile
import DirSchema.Proofs.Decoder.Files
import DirSchema.Proofs.FileTree.Directories
set_option autoImplicit false

namespace DirSchema.Output

open DirSchema.Source (Registry)

/-- What a run needs before it touches the tree: settings that are not empty, and templates and
schema files that can be read, also the template of a kind that is not generated. -/
structure Startable (paths : List String) (settings : Settings) (tree : FileTree) : Prop where
  someFiles : paths ≠ []
  package : settings.package ≠ ""
  outputRoot : settings.outputRoot ≠ ""
  templates : ∀ kind path, settings.template? kind = some path → tree.Readable path
  schemaFiles : ∀ path ∈ paths, tree.Readable path

/-- Whether an error is that the output root cannot be made. -/
def CompileError.IsRoot (error : CompileError) : Prop := ∃ failure, error = .outputRoot failure

/-- How a run ends. Without what it needs it is refused and leaves the tree as it was; else it
reports, unless the output root cannot be made, and then nothing but directories is made. -/
structure Concludes (paths : List String) (settings : Settings) (tree : FileTree)
    (compiled : Compiled) : Prop where
  refused : ¬ Startable paths settings tree →
    ∃ error, compiled.result = .error error ∧ ¬ error.IsRoot ∧ compiled.tree = tree
  rootless : Startable paths settings tree → ∀ failure,
    (tree.createDirectories settings.outputRoot).2 = some failure →
      compiled.result = .error (.outputRoot failure) ∧ tree.Extends compiled.tree
  reports : Startable paths settings tree →
    (tree.createDirectories settings.outputRoot).2 = none →
      ∃ report, compiled.result = .ok report

variable {renderer : Renderer} {paths : List String} {settings : Settings} {tree : FileTree}
  {registry : Registry} {kind : ArtifactKind}

private theorem checkSettings_eq_ok_iff : checkSettings paths settings = .ok () ↔
    paths ≠ [] ∧ settings.package ≠ "" ∧ settings.outputRoot ≠ "" := by
  rw [checkSettings]
  split
  · simp_all
  split
  · simp_all
  split
  · simp_all
  · simp_all

private theorem not_isRoot_of_checkSettings {error : CompileError}
    (refused : checkSettings paths settings = .error error) : ¬ error.IsRoot := by
  rintro ⟨failure, rfl⟩
  rw [checkSettings] at refused
  split at refused
  · cases refused
  split at refused
  · cases refused
  split at refused
  · cases refused
  · cases refused

namespace Templates

private theorem exists_loadKind_iff : (∃ source, loadKind tree settings kind = .ok source) ↔
    ∀ path, settings.template? kind = some path → tree.Readable path := by
  rw [loadKind]
  cases settings.template? kind with
  | none => simp
  | some path =>
      simp only [Option.some.injEq, forall_eq', FileTree.Readable]
      cases tree.readText path <;> simp [Except.mapError]

/-- Templates are loaded exactly if all that are named can be read. -/
theorem exists_load_iff : (∃ templates, load tree settings = .ok templates) ↔
    ∀ kind path, settings.template? kind = some path → tree.Readable path := by
  have each : (∃ templates, load tree settings = .ok templates) ↔
      (∃ source, loadKind tree settings .entity = .ok source) ∧
        ∃ source, loadKind tree settings .mapper = .ok source := by
    rw [load]
    cases loadKind tree settings .entity with
    | error error => simp [bind, Except.bind]
    | ok entity =>
        cases loadKind tree settings .mapper <;> simp [bind, Except.bind, pure, Except.pure]
  rw [each, exists_loadKind_iff, exists_loadKind_iff]
  constructor
  · rintro ⟨entity, mapper⟩ (_ | _)
    · exact entity
    · exact mapper
  · intro all
    exact ⟨all .entity, all .mapper⟩

end Templates

/-- What a run needs is what the steps before its first effect give. -/
theorem startable_iff (registry : Registry) : Startable paths settings tree ↔
    checkSettings paths settings = .ok () ∧
      (∃ templates, Templates.load tree settings = .ok templates) ∧
      ∃ schema, (Decoder.decodeFiles tree registry paths).result = .ok schema := by
  rw [checkSettings_eq_ok_iff, Templates.exists_load_iff, Decoder.decodeFiles_ok_iff]
  constructor
  · rintro ⟨someFiles, package, outputRoot, templates, schemaFiles⟩
    exact ⟨⟨someFiles, package, outputRoot⟩, templates, schemaFiles⟩
  · rintro ⟨⟨someFiles, package, outputRoot⟩, templates, schemaFiles⟩
    exact ⟨someFiles, package, outputRoot, templates, schemaFiles⟩

/-- A run that reports what it has emitted. -/
structure Emits (compiled : Compiled) (parsed : Decoder.Parsed) (emitted : Emitted) : Prop where
  tree : compiled.tree = emitted.tree
  result : compiled.result = .ok emitted.report
  diagnostics : compiled.diagnostics = parsed.diagnostics ++ emitted.diagnostics

section Read

variable (renderer) {templates : Templates} {schema : Schema} {made : FileTree}
  (checked : checkSettings paths settings = .ok ())
  (loaded : Templates.load tree settings = .ok templates)
  (decoded : (Decoder.decodeFiles tree registry paths).result = .ok schema)
include checked loaded decoded

theorem emits_of_created (created : tree.createDirectories settings.outputRoot = (made, none)) :
    Emits (compileWith renderer paths settings tree registry)
      (Decoder.decodeFiles tree registry paths) (emit schema settings templates renderer made) := by
  rw [compileWith, checked]
  dsimp only
  rw [loaded]
  dsimp only
  rw [decoded]
  dsimp only
  rw [created]
  exact ⟨rfl, rfl, rfl⟩

private theorem compileWith_of_failure {failure : FileFailure}
    (failed : tree.createDirectories settings.outputRoot = (made, some failure)) :
    (compileWith renderer paths settings tree registry).tree = made ∧
      (compileWith renderer paths settings tree registry).result = .error (.outputRoot failure) := by
  rw [compileWith, checked]
  dsimp only
  rw [loaded]
  dsimp only
  rw [decoded]
  dsimp only
  rw [failed]
  exact ⟨rfl, rfl⟩

end Read

private theorem compileWith_of_not_startable (lacking : ¬ Startable paths settings tree) :
    ∃ error, (compileWith renderer paths settings tree registry).result = .error error ∧
      ¬ error.IsRoot ∧ (compileWith renderer paths settings tree registry).tree = tree := by
  rw [compileWith]
  cases checked : checkSettings paths settings with
  | error error => exact ⟨error, rfl, not_isRoot_of_checkSettings checked, rfl⟩
  | ok =>
      cases loaded : Templates.load tree settings with
      | error error => exact ⟨.template error, rfl, nofun, rfl⟩
      | ok templates =>
          dsimp only
          cases decoded : (Decoder.decodeFiles tree registry paths).result with
          | error error => exact ⟨.schemaFile error, rfl, nofun, rfl⟩
          | ok schema =>
              have needed := (startable_iff registry).mpr ⟨checked, ⟨templates, loaded⟩, schema, decoded⟩
              contradiction

theorem concludes_compileWith (renderer : Renderer) (paths : List String) (settings : Settings)
    (tree : FileTree) (registry : Registry) :
    Concludes paths settings tree (compileWith renderer paths settings tree registry) where
  refused := compileWith_of_not_startable
  rootless := by
    intro startable failure failed
    obtain ⟨checked, ⟨templates, loaded⟩, schema, decoded⟩ :=
      (startable_iff registry).mp startable
    have created : tree.createDirectories settings.outputRoot =
        ((tree.createDirectories settings.outputRoot).1, some failure) := Prod.ext rfl failed
    obtain ⟨made, result⟩ :=
      compileWith_of_failure renderer checked loaded decoded created
    rw [made]
    exact ⟨result, FileTree.createDirectories_extends tree settings.outputRoot⟩
  reports := by
    intro startable success
    obtain ⟨checked, ⟨templates, loaded⟩, schema, decoded⟩ :=
      (startable_iff registry).mp startable
    have created : tree.createDirectories settings.outputRoot =
        ((tree.createDirectories settings.outputRoot).1, none) := Prod.ext rfl success
    exact ⟨_, (emits_of_created renderer checked loaded decoded created).result⟩

/-- A run that fails leaves the tree as it was, unless the output root cannot be made. -/
theorem Concludes.tree_eq {compiled : Compiled} {error : CompileError}
    (concludes : Concludes paths settings tree compiled)
    (failed : compiled.result = .error error) (other : ¬ error.IsRoot) : compiled.tree = tree := by
  by_cases startable : Startable paths settings tree
  swap
  · obtain ⟨-, -, -, same⟩ := concludes.refused startable
    exact same
  cases root : (tree.createDirectories settings.outputRoot).2 with
  | none =>
      obtain ⟨report, success⟩ := concludes.reports startable root
      rw [failed] at success
      cases success
  | some failure =>
      have rootless := (concludes.rootless startable failure root).1
      rw [failed] at rootless
      exact absurd ⟨failure, Except.error.inj rootless⟩ other

/-- A run that succeeds has read all that it needs and found or made the output root. -/
theorem exists_emits {report : Report}
    (success : (compileWith renderer paths settings tree registry).result = .ok report) :
    ∃ templates schema made, Startable paths settings tree ∧
      Templates.load tree settings = .ok templates ∧
      (Decoder.decodeFiles tree registry paths).result = .ok schema ∧
      tree.createDirectories settings.outputRoot = (made, none) ∧
      Emits (compileWith renderer paths settings tree registry)
        (Decoder.decodeFiles tree registry paths)
        (emit schema settings templates renderer made) ∧
      report = (emit schema settings templates renderer made).report := by
  have concludes := concludes_compileWith renderer paths settings tree registry
  by_cases startable : Startable paths settings tree
  swap
  · obtain ⟨error, result, -⟩ := concludes.refused startable
    rw [success] at result
    cases result
  obtain ⟨checked, ⟨templates, loaded⟩, schema, decoded⟩ :=
    (startable_iff registry).mp startable
  rcases created : tree.createDirectories settings.outputRoot with ⟨made, _ | failure⟩
  · have emits := emits_of_created renderer checked loaded decoded created
    exact ⟨templates, schema, made, startable, loaded, decoded, rfl, emits,
      Except.ok.inj (success.symm.trans emits.result)⟩
  · obtain ⟨result, -⟩ := concludes.rootless startable failure (by rw [created])
    rw [success] at result
    cases result

end DirSchema.Output
