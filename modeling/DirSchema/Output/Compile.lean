import DirSchema.Decoder.Files
import DirSchema.Output.Cleanup
import DirSchema.Output.Generate
set_option autoImplicit false

namespace DirSchema.Output

open DirSchema.Source (Registry)

inductive CompileError where
  | noSchemaFiles
  | noPackage
  | noOutputDirectory
  | template (error : Templates.LoadError)
  | schemaFile (error : Decoder.FileUnreadable)
  | outputRoot (failure : FileFailure)
deriving DecidableEq, Repr

def CompileError.message : CompileError → String
  | .noSchemaFiles => "no schema files were specified"
  | .noPackage => "the package name was not specified"
  | .noOutputDirectory => "the output directory was not specified"
  | .template error => error.message
  | .schemaFile error => error.message
  | .outputRoot failure =>
    "failed to create output directory '" ++ failure.path ++ "': " ++ failure.message

structure Report where
  removed : List String := []
  written : List String := []
  skipped : List Skipped := []
deriving DecidableEq, Repr

def Report.ofOutcomes (removed : List String) (outcomes : List Outcome) : Report :=
  { removed
    written := outcomes.filterMap Outcome.written?
    skipped := outcomes.filterMap Outcome.skipped? }

structure Compiled where
  tree : FileTree
  registry : Registry
  diagnostics : List Diagnostic := []
  log : List String := []
  result : Except CompileError Report

/-- The settings that cannot be empty. -/
def checkSettings (paths : List String) (settings : Settings) : Except CompileError Unit :=
  if paths.isEmpty then .error .noSchemaFiles
  else if settings.package.isEmpty then .error .noPackage
  else if settings.outputRoot.isEmpty then .error .noOutputDirectory
  else .ok ()

/-- The kinds whose templates are logged: those up to the first that cannot be read. -/
def loggedKinds (tree : FileTree) (settings : Settings) : List ArtifactKind :=
  match Templates.loadKind tree settings .entity with
  | .ok _ => ArtifactKind.all
  | .error _ => [.entity]

/-- What became of the old files and of the artifacts of a run. -/
structure Emitted where
  tree : FileTree
  removals : List Removal
  outcomes : List Outcome

namespace Emitted

def report (emitted : Emitted) : Report :=
  Report.ofOutcomes (emitted.removals.filterMap Removal.removed?) emitted.outcomes

/-- What is reported about old files and artifacts. -/
def diagnostics (emitted : Emitted) : List Diagnostic :=
  emitted.removals.filterMap Removal.diagnostic? ++ emitted.outcomes.filterMap Outcome.diagnostic?

/-- What is logged about old files and artifacts. -/
def log (emitted : Emitted) : List String :=
  emitted.report.removed.map ("removed " ++ ·) ++ emitted.outcomes.filterMap Outcome.log?

end Emitted

/-- The tree in which generation starts, and what became of the old files. -/
def cleaned (settings : Settings) (tree : FileTree) : FileTree × List Removal :=
  if settings.removeOldOutput then cleanUp settings tree else (tree, [])

/-- The artifacts of a schema, in a tree that has the output root. -/
def emit (schema : Schema) (settings : Settings) (templates : Templates) (renderer : Renderer)
    (tree : FileTree) : Emitted :=
  let (tree, removals) := cleaned settings tree
  let (tree, outcomes) := generate schema settings templates renderer tree
  { tree, removals, outcomes }

/-- The line that is logged at the end of a run. -/
def closingLine (report : Report) : String :=
  "wrote " ++ Text.decimal report.written.length ++ " artifacts, skipped " ++
    Text.decimal report.skipped.length

/-- Schema files compiled to artifacts. -/
def compileWith (renderer : Renderer) (paths : List String) (settings : Settings) (tree : FileTree)
    (registry : Registry) : Compiled :=
  match checkSettings paths settings with
  | .error error => { tree, registry, result := .error error }
  | .ok () =>
    let templateLog := Templates.logs settings (loggedKinds tree settings)
    match Templates.load tree settings with
    | .error error => { tree, registry, log := templateLog, result := .error (.template error) }
    | .ok templates =>
      let parsed := Decoder.decodeFiles tree registry paths
      let log := templateLog ++ parsed.log
      match parsed.result with
      | .error error =>
        { tree, registry := parsed.registry, diagnostics := parsed.diagnostics, log
          result := .error (.schemaFile error) }
      | .ok schema =>
        match tree.createDirectories settings.outputRoot with
        | (tree, some failure) =>
          { tree, registry := parsed.registry, diagnostics := parsed.diagnostics, log
            result := .error (.outputRoot failure) }
        | (tree, none) =>
          let emitted := emit schema settings templates renderer tree
          { tree := emitted.tree
            registry := parsed.registry
            diagnostics := parsed.diagnostics ++ emitted.diagnostics
            log := log ++ emitted.log ++ [closingLine emitted.report]
            result := .ok emitted.report }

/-- Schema files compiled with the renderer of templates. -/
def compile : List String → Settings → FileTree → Registry → Compiled :=
  compileWith templateRenderer

end DirSchema.Output
