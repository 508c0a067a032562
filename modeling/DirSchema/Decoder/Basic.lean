import DirSchema.Decoder.Draft
import DirSchema.Schema.Resolve
import DirSchema.Source.Registry
set_option autoImplicit false

/-!
The decoder reads significant lines one at a time. It is a machine whose state is what it has seen
of the block that is open, if one is; each line leads to a state and to events, which are
declarations to add to the schema and issues to report. The state lives on from one file to the
next.
-/
namespace DirSchema.Decoder

open DirSchema.Source (Line Registry)

inductive State where
  | idle
  /-- A header was read whose brace has to follow. -/
  | awaitingBrace (kind : Option BlockKind) (origin : Coord)
  | reading (origin : Coord) (draft : Draft)
  /-- A block of a kind that is not decoded, `depth` levels deep in it. -/
  | skipping (origin : Coord) (depth : Nat)
deriving DecidableEq, Repr

inductive Event where
  | declared (declaration : Declaration)
  | reported (issue : Issue)
deriving DecidableEq, Repr

namespace State

def opened (kind : Option BlockKind) (origin : Coord) : State :=
  match kind with
  | some kind => .reading origin (Draft.empty kind)
  | none => .skipping origin 0

def stepIdle (line : Line) : State × List Event :=
  match Header.ofLine? line.text with
  | some { kind, opening := .opened } => (opened kind line.coord, [])
  | some { kind, opening := .awaitingBrace } => (.awaitingBrace kind line.coord, [])
  | some { opening := .statement, .. } => (.idle, [])
  | none => (.idle, [.reported (.unrecognized line.coord)])

/-- The step for a line of a block that is decoded. A header drops the block and opens another. -/
def stepReading (origin : Coord) (draft : Draft) (line : Line) : State × List Event :=
  if isBlockEnd line.text then
    match draft.close origin with
    | .ok declaration => (.idle, [.declared declaration])
    | .error issue => (.idle, [.reported issue])
  else if (Header.ofLine? line.text).isSome then
    let (state, events) := stepIdle line
    (state, .reported (.unterminated (some draft.kind) origin) :: events)
  else
    let (draft, issues) := draft.read line
    (.reading origin draft, issues.map .reported)

def stepSkipping (origin : Coord) (depth : Nat) (line : Line) : State :=
  if isBlockEnd line.text then
    match depth with
    | 0 => .idle
    | depth + 1 => .skipping origin depth
  else if opensLevel line.text then .skipping origin (depth + 1)
  else .skipping origin depth

def step (state : State) (line : Line) : State × List Event :=
  if line.isSignificant then
    match state with
    | .idle => stepIdle line
    | .awaitingBrace kind origin =>
      if isBrace line.text then (opened kind origin, [])
      else
        let (state, events) := stepIdle line
        (state, .reported (.unterminated kind origin) :: events)
    | .reading origin draft => stepReading origin draft line
    | .skipping origin depth => (stepSkipping origin depth line, [])
  else (state, [])

/-- The steps for lines, one after another, given what one line leads to. -/
def stepsWith {m : Type → Type} [Monad m] (step : State → Line → m (State × List Event))
    (state : State) : List Line → m (State × List Event)
  | [] => return (state, [])
  | line :: rest => do
    let (state, events) ← step state line
    let (state, more) ← stepsWith step state rest
    return (state, events ++ more)

def steps (state : State) (lines : List Line) : State × List Event :=
  stepsWith (m := Id) step state lines

/-- What is reported at the end of the last file: a block that is still open. -/
def finish : State → List Event
  | .idle => []
  | .awaitingBrace kind origin => [.reported (.unterminated kind origin)]
  | .reading origin draft => [.reported (.unterminated (some draft.kind) origin)]
  | .skipping origin _ => [.reported (.unterminated none origin)]

def runWith {m : Type → Type} [Monad m] (step : State → Line → m (State × List Event))
    (state : State) (lines : List Line) : m (List Event) := do
  let (state, events) ← stepsWith step state lines
  return events ++ state.finish

def run (state : State) (lines : List Line) : List Event := runWith (m := Id) step state lines

/-- The state in which a new stream of lines begins: what was open is forgotten. -/
def reset (_ : State) : State := .idle

end State

def declarations (events : List Event) : List Declaration :=
  events.filterMap fun
    | .declared declaration => some declaration
    | .reported _ => none

def diagnostics (events : List Event) : List Diagnostic :=
  events.filterMap fun
    | .declared _ => none
    | .reported issue => some issue.diagnostic

def declareAll (schema : Schema) (events : List Event) : Schema :=
  (declarations events).foldl Schema.declare schema

/-- A text to decode, with the number of its file. -/
structure Input where
  file : Nat
  text : String
deriving DecidableEq, Repr

/-- The lines of texts, which are read as one stream. -/
def linesOf (inputs : List Input) : List Line :=
  inputs.flatMap fun input => Line.ofText input.file input.text

/-- The events of a whole stream of lines that starts outside of every block. -/
def events (lines : List Line) : List Event := State.idle.run lines

structure Decoded where
  schema : Schema
  diagnostics : List Diagnostic
deriving DecidableEq, Repr

/-- What a decoder makes of texts, in whatever state earlier texts have left it, given what one line
leads to and how the attributes of classes are found. -/
def State.decodeWith {m : Type → Type} [Monad m] (step : State → Line → m (State × List Event))
    (lookup : Schema.Lookup m) (state : State) (inputs : List Input) : m Decoded := do
  let events ← runWith step state.reset (linesOf inputs)
  let (schema, warnings) ← Schema.resolveWith lookup (declareAll {} events)
  return { schema, diagnostics := diagnostics events ++ warnings }

def State.decode (state : State) (inputs : List Input) : Decoded :=
  decodeWith (m := Id) step Schema.lookupOrSynthesize state inputs

/-- A schema decoded from texts and resolved. -/
def decode (inputs : List Input) : Decoded := State.idle.decode inputs

end DirSchema.Decoder
