import DirSchema.Decoder.Basic
import DirSchema.FileTree.Operations
set_option autoImplicit false

namespace DirSchema.Decoder

open DirSchema.Source (Line Registry)

/-- A schema file that cannot be read. -/
structure FileUnreadable where
  failure : FileFailure
deriving DecidableEq, Repr

def FileUnreadable.message (error : FileUnreadable) : String :=
  "failed to read schema file '" ++ error.failure.path ++ "': " ++ error.failure.message

/-- What has been read of the files so far. -/
structure Progress where
  registry : Registry
  state : State := .idle
  schema : Schema := {}
  diagnostics : List Diagnostic := []
  log : List String := []

def Progress.read (progress : Progress) (path text : String) : Progress :=
  let (registry, file) := progress.registry.add path text
  let (state, events) := progress.state.steps (Line.ofText file text)
  { progress with
    registry
    state
    schema := declareAll progress.schema events
    diagnostics := progress.diagnostics ++ Decoder.diagnostics events }

def readFiles (tree : FileTree) (progress : Progress) :
    List String → Progress × Option FileUnreadable
  | [] => (progress, none)
  | path :: rest =>
    let progress := { progress with log := progress.log ++ ["parsing " ++ path] }
    match tree.readText path with
    | .error failure => (progress, some { failure })
    | .ok text => readFiles tree (progress.read path text) rest

def summary (schema : Schema) : String :=
  "parsed " ++ Text.decimal schema.attributes.length ++ " attributes, " ++
    Text.decimal schema.objectClasses.length ++ " object classes, " ++
    Text.decimal schema.bindings.length ++ " bindings"

structure Parsed where
  registry : Registry
  diagnostics : List Diagnostic
  log : List String
  result : Except FileUnreadable Schema

def decodeFiles (tree : FileTree) (registry : Registry) (paths : List String) : Parsed :=
  match readFiles tree { registry } paths with
  | (progress, some error) =>
    { registry := progress.registry
      diagnostics := progress.diagnostics
      log := progress.log
      result := .error error }
  | (progress, none) =>
    let last := progress.state.finish
    let (schema, warnings) := (declareAll progress.schema last).resolve
    { registry := progress.registry
      diagnostics := progress.diagnostics ++ Decoder.diagnostics last ++ warnings
      log := progress.log ++ [summary schema]
      result := .ok schema }

end DirSchema.Decoder
