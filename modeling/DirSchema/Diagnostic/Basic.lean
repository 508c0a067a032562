import DirSchema.Diagnostic.Code
import DirSchema.Source.Coord
set_option autoImplicit false

namespace DirSchema

/-- How much a diagnostic matters. -/
inductive Severity where
  | bug
  | error
  | warning
  | note
  | help
deriving DecidableEq, Repr, Inhabited

namespace Severity

def name : Severity → String
  | .bug => "bug"
  | .error => "error"
  | .warning => "warning"
  | .note => "note"
  | .help => "help"

def all : List Severity := [.bug, .error, .warning, .note, .help]

def ofName? (text : String) : Option Severity := all.find? fun severity => severity.name == text

end Severity

namespace Diagnostic

/-- Whether a label marks the cause itself or something that helps to see it. -/
inductive Label.Role where
  | primary
  | secondary
deriving DecidableEq, Repr, Inhabited

/-- A marked range of a file. An empty message adds nothing to the mark. -/
structure Label where
  coord : Coord
  message : String := ""
  role : Label.Role := .primary
deriving DecidableEq, Repr, Inhabited

end Diagnostic

structure Diagnostic where
  severity : Severity
  message : String
  code : Option String := none
  labels : List Diagnostic.Label := []
  notes : List String := []
deriving DecidableEq, Repr, Inhabited

namespace Diagnostic

def count (severity : Severity) (diagnostics : List Diagnostic) : Nat :=
  (diagnostics.filter (·.severity == severity)).length

def withCode (code : String) (diagnostics : List Diagnostic) : List Diagnostic :=
  diagnostics.filter (·.code == some code)

end Diagnostic
end DirSchema
