import DirSchema.Config.Basic
import DirSchema.Config.Fields
import DirSchema.FileTree.Operations
import DirSchema.Source.Registry
import DirSchema.Toml.Document
set_option autoImplicit false

namespace DirSchema.Config

open DirSchema.Source (Registry)
open DirSchema.Toml (Issue)

def readText : ValueReader Entry
  | .text span value => .ok { value, span }
  | value => .error [.otherType "a string" value]

def readSchemas : FieldReader Config := do
  let schemaDirectory ← optional "directory" readText
  let included ← optional "include" (readArray readText)
  let excluded ← optional "exclude" (readArray readText)
  return { schemaDirectory, included := included.getD [], excluded := excluded.getD [] }

def readOutput : FieldReader Config := do
  let outputDirectory ← optional "directory" readText
  let package ← optional "package" readText
  let entities ← optional "entities" readBool
  let mappers ← optional "mappers" readBool
  let removeOldOutput ← optional "remove-old-output" readBool
  return { outputDirectory, package, entities, mappers, removeOldOutput }

def readTemplates : FieldReader Config := do
  let entityTemplate ← optional "entity" readText
  let mapperTemplate ← optional "mapper" readText
  return { entityTemplate, mapperTemplate }

def readSettings : FieldReader Config := do
  let schemas := (← optional "schemas" (readTable readSchemas)).getD {}
  let output := (← optional "output" (readTable readOutput)).getD {}
  let templates := (← optional "templates" (readTable readTemplates)).getD {}
  return { output with
    schemaDirectory := schemas.schemaDirectory
    included := schemas.included
    excluded := schemas.excluded
    entityTemplate := templates.entityTemplate
    mapperTemplate := templates.mapperTemplate }

/-- The step at which a config file fails. -/
inductive LoadError where
  | unreadable (failure : FileFailure)
  | noDocument (path : String)
  | noConfig (path : String)
deriving DecidableEq, Repr

def LoadError.message : LoadError → String
  | .unreadable failure =>
    "failed to read config from '" ++ failure.path ++ "': " ++ failure.message
  | .noDocument path => "failed to parse config from '" ++ path ++ "'"
  | .noConfig path => "failed to deserialize config from '" ++ path ++ "'"

/-- The config in a text, or the step at which it fails with its issues. -/
def ofText (path text : String) : Except (LoadError × List Issue) Config :=
  match Toml.parse text with
  | .error issue => .error (.noDocument path, [issue])
  | .ok table => (readFields readSettings table).mapError fun issues => (.noConfig path, issues)

/-- A config that was read from a registered file. -/
structure Source where
  config : Config
  file : Nat
  path : String
deriving DecidableEq, Repr

/-- The directory that the relative paths of a config start from. -/
def Source.baseDirectory (source : Source) : String := (Path.parent? source.path).getD ""

structure Loaded where
  registry : Registry
  diagnostics : List Diagnostic := []
  log : List String := []
  result : Except LoadError Source

def load (tree : FileTree) (registry : Registry) (path : String) : Loaded :=
  match tree.readText path with
  | .error failure => { registry, result := .error (.unreadable failure) }
  | .ok text =>
    let (registry, file) := registry.add path text
    match ofText path text with
    | .error (error, issues) =>
      { registry, diagnostics := issues.map (·.diagnostic file), result := .error error }
    | .ok config =>
      { registry, log := ["using config from " ++ path], result := .ok { config, file, path } }

end DirSchema.Config
