import DirSchema.Datum.Basic
import DirSchema.Diagnostic.Basic
import DirSchema.Source.Registry
set_option autoImplicit false

namespace DirSchema.Diagnostic

open DirSchema.Source (Registry)

/-- The text that a range of a file marks, empty if there is none. -/
def markedText (registry : Registry) (coord : Coord) : String :=
  match registry.file coord.file with
  | .ok file => (file.slice? coord.start coord.stop).getD ""
  | .error _ => ""

/-- A label as data. A place that cannot be found is left out. -/
def Label.report (registry : Registry) (label : Label) : Datum :=
  let fileName :=
    match registry.file label.coord.file with
    | .ok file => file.name
    | .error _ => ""
  let place :=
    match registry.location label.coord.file label.coord.start with
    | .ok place =>
      [("line", Datum.number (place.line + 1)), ("column", Datum.number (place.column + 1))]
    | .error _ => []
  .record
    ([("message", .text label.message), ("file", .text fileName),
      ("span", .text (markedText registry label.coord))] ++ place)

/-- The fields of a report. What there is none of is left out. -/
def fields (registry : Registry) (diagnostic : Diagnostic) : Datum :=
  .record
    ([("severity", .text diagnostic.severity.name), ("message", .text diagnostic.message)] ++
      (diagnostic.code.map fun code => ("code", Datum.text code)).toList ++
      (if diagnostic.labels.isEmpty then []
        else [("labels", .list (diagnostic.labels.map (·.report registry)))]) ++
      (if diagnostic.notes.isEmpty then [] else [("notes", Datum.texts diagnostic.notes)]))

/-- A report, marked as one for the reader of a stream of records. -/
def report (registry : Registry) (diagnostic : Diagnostic) : Datum :=
  .record [("type", .text "diagnostic"), ("fields", diagnostic.fields registry)]

end DirSchema.Diagnostic
