import DirSchema.CommandLine.Invocation
import DirSchema.Datum.Json
import DirSchema.Diagnostic.Human
import DirSchema.Diagnostic.Report
set_option autoImplicit false

namespace DirSchema.CommandLine

open DirSchema.Diagnostic (Color Piece Style)
open DirSchema.Source (Registry)

structure Transcript where
  out : String := ""
  err : String := ""
deriving DecidableEq, Repr, Inhabited

namespace Transcript

def append (a b : Transcript) : Transcript := { out := a.out ++ b.out, err := a.err ++ b.err }

instance : Append Transcript := ⟨append⟩

def concat (transcripts : List Transcript) : Transcript := transcripts.foldl append {}

def outLine (text : String) : Transcript := { out := text ++ "\n" }

def errLine (text : String) : Transcript := { err := text ++ "\n" }

end Transcript

/-- The time, as it is written for people and in records. -/
structure Clock where
  human : String
  record : String
deriving DecidableEq, Repr

structure Terminals where
  out : Bool := false
  err : Bool := false
deriving DecidableEq, Repr

structure Console where
  level : LogLevel
  format : Format
  colorsOut : Bool
  colorsErr : Bool
  clock : Clock
deriving DecidableEq, Repr

namespace Console

def ofInvocation (invocation : Invocation) (terminals : Terminals) (clock : Clock) : Console :=
  { level := invocation.level
    format := invocation.format
    colorsOut := invocation.color.applies terminals.out
    colorsErr := invocation.color.applies terminals.err
    clock }

def levelColor : LogLevel → Color
  | .off | .error => .red
  | .warn => .yellow
  | .info => .green
  | .debug => .blue
  | .trace => .magenta

def colored (color : Color) (word : String) : String :=
  "\x1b[3" ++ color.number ++ "m" ++ word ++ "\x1b[0m"

def record (type : String) (fields : Datum) : String :=
  (Datum.record [("type", .text type), ("fields", fields)]).sorted.compact

def log (console : Console) (level : LogLevel) (message : String) : Transcript :=
  if console.level.rank < level.rank then {}
  else
    .errLine <|
      match console.format, console.colorsErr with
      | .human, false => console.clock.human ++ " [" ++ level.name ++ "] " ++ message
      | .human, true =>
        console.clock.human ++ " [" ++ colored (levelColor level) level.name ++ "] " ++ message ++
          "\x1b[0m"
      | .json, _ =>
        record "log" <| .record
          [("timestamp", .text console.clock.record), ("level", .text level.name),
            ("message", .text message)]

def logAll (console : Console) (level : LogLevel) (messages : List String) : Transcript :=
  .concat (messages.map (console.log level))

def severities : LogLevel → List Severity
  | .off => []
  | .error => [.bug, .error]
  | .warn => [.bug, .error, .warning]
  | .info => [.bug, .error, .warning, .note]
  | .debug | .trace => Severity.all

def diagnosticText (console : Console) (registry : Registry) (diagnostic : Diagnostic) : String :=
  match console.format with
  | .json => (diagnostic.report registry).sorted.compact ++ "\n"
  | .human =>
    match diagnostic.human registry with
    | .error _ => ""
    | .ok pieces => if console.colorsErr then Piece.ansi pieces else Piece.plain pieces

def diagnostics (console : Console) (registry : Registry) (found : List Diagnostic) : Transcript :=
  let shown := found.filter fun diagnostic =>
    (severities console.level).contains diagnostic.severity
  { err := String.join (shown.map (console.diagnosticText registry)) }

end Console
end DirSchema.CommandLine
