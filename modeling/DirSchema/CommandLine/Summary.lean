import DirSchema.CommandLine.Console
import DirSchema.Output.Compile
set_option autoImplicit false

namespace DirSchema.CommandLine

/-- How much a run has done, and how much it has found. -/
structure Summary where
  written : Nat
  skipped : Nat
  removed : Nat
  errors : Nat
  warnings : Nat
  notes : Nat
deriving DecidableEq, Repr

namespace Summary

def ofReport (report : Output.Report) (diagnostics : List Diagnostic) : Summary :=
  { written := report.written.length
    skipped := report.skipped.length
    removed := report.removed.length
    errors := Diagnostic.count .error diagnostics
    warnings := Diagnostic.count .warning diagnostics
    notes := Diagnostic.count .note diagnostics }

def counted (n : Nat) (thing : String) : String :=
  Text.decimal n ++ " " ++ thing ++ (if n = 1 then "" else "s")

def status (summary : Summary) (colors : Bool) : String :=
  let (color, word) : Diagnostic.Color × String :=
    if summary.skipped = 0 then (.green, "ok") else (.yellow, "incomplete")
  if colors then Console.colored color word else word

def line (summary : Summary) (colors : Bool) : String :=
  "generate " ++ summary.status colors ++ ", " ++ counted summary.written "file" ++ " written, " ++
    counted summary.skipped "artifact" ++ " skipped, " ++ counted summary.warnings "warning" ++
    (if summary.removed = 0 then "" else ", " ++ counted summary.removed "old file" ++ " removed")

def datum (summary : Summary) : Datum :=
  .record
    [("written", .number summary.written), ("skipped", .number summary.skipped),
      ("removed", .number summary.removed), ("errors", .number summary.errors),
      ("warnings", .number summary.warnings), ("notes", .number summary.notes)]

/-- The summary as it is written: for people in the output unless nothing is logged, and as a record
among the messages. -/
def transcript (summary : Summary) (console : Console) : Transcript :=
  match console.format with
  | .json => .errLine (Console.record "summary" summary.datum)
  | .human =>
    if console.level = .off then {} else .outLine (summary.line console.colorsOut)

end Summary

/-- The settings of a run, each with its name, in order of their names. -/
def settingsFields (files : List String) (settings : Output.Settings) : List (String × Datum) :=
  [("entityNamespace", .text (Model.packageOf settings.package .entity)),
    ("entityTemplate", .ofText? settings.entityTemplate),
    ("generateEntities", .bool settings.entities),
    ("generateMappers", .bool settings.mappers),
    ("mapperNamespace", .text (Model.packageOf settings.package .mapper)),
    ("mapperTemplate", .ofText? settings.mapperTemplate),
    ("outputRoot", .text settings.outputRoot),
    ("package", .text settings.package),
    ("removeOldOutput", .bool settings.removeOldOutput),
    ("schemaFiles", .texts files)]

/-- The settings of a run as they are written among the messages. -/
def settingsTranscript (console : Console) (files : List String) (settings : Output.Settings) :
    Transcript :=
  let fields := settingsFields files settings
  match console.format with
  | .json => .errLine (Console.record "settings" (.record fields))
  | .human =>
    .errLine "settings:" ++
      .concat (fields.map fun (name, value) => .errLine ("  " ++ name ++ " = " ++ value.compact))

end DirSchema.CommandLine
