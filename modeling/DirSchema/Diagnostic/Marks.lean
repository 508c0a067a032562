import DirSchema.Diagnostic.Basic
import DirSchema.Source.Registry
set_option autoImplicit false

namespace DirSchema.Diagnostic

open DirSchema.Source (File Registry LocationError)

/-- A range of bytes from `start` up to `stop`. -/
structure Range where
  start : Nat
  stop : Nat
deriving DecidableEq, Repr

def Range.overlaps (a b : Range) : Bool := max a.start b.start < min a.stop b.stop

structure Mark where
  role : Label.Role
  range : Range
  message : String
deriving DecidableEq, Repr

/-- What a line shows of a bracket. -/
inductive Edge where
  | top (start : Nat)
  | side
  | bottom (stop : Nat) (message : String)
deriving DecidableEq, Repr

/-- The part of a bracket on one line. Brackets are numbered by file. -/
structure Bracket where
  number : Nat
  role : Label.Role
  edge : Edge
deriving DecidableEq, Repr

/-- A line that labels touch. Inner lines of a long bracket are not shown. -/
structure MarkedLine where
  index : Nat
  marks : List Mark := []
  brackets : List Bracket := []
  shown : Bool := false
deriving DecidableEq, Repr

/-- A file that labels touch. `start` and `role` are those of the label that the file is shown for:
the first of the most important ones. -/
structure MarkedFile where
  id : Nat
  file : File
  start : Nat
  role : Label.Role
  bracketCount : Nat := 0
  lines : List MarkedLine := []
deriving DecidableEq, Repr

/-- Marks in order of their ranges. A mark with the range of another comes before the last such. -/
def Mark.insert (mark : Mark) (marks : List Mark) : List Mark :=
  let le (a b : Range) : Bool := a.start < b.start || (a.start == b.start && a.stop ≤ b.stop)
  let before := marks.takeWhile fun other => le other.range mark.range
  let after := marks.dropWhile fun other => le other.range mark.range
  match before.getLast? with
  | some last =>
    if last.range = mark.range then before.dropLast ++ mark :: last :: after
    else before ++ mark :: after
  | none => mark :: after

/-- The lines with a change to the one that has an index, which is added if it is missing. -/
def changeLine (index : Nat) (change : MarkedLine → MarkedLine) : List MarkedLine → List MarkedLine
  | [] => [change { index }]
  | line :: rest =>
    if line.index = index then change line :: rest
    else if index < line.index then change { index } :: line :: rest
    else line :: changeLine index change rest

def MarkedLine.withBracket (bracket : Bracket) (shown : Bool) (line : MarkedLine) : MarkedLine :=
  { line with brackets := line.brackets ++ [bracket], shown := line.shown || shown }

namespace MarkedFile

def lineStart (file : File) (line : Nat) : Nat := (file.lineStarts[line]?).getD 0

/-- The file with a label within one line. A mark covers one byte at least. -/
def withMark (marked : MarkedFile) (label : Label) (line : Nat) : MarkedFile :=
  let offset := lineStart marked.file line
  let start := label.coord.start - offset
  let mark : Mark :=
    { role := label.role
      range := { start, stop := max (label.coord.stop - offset) (start + 1) }
      message := label.message }
  { marked with
    lines := changeLine line
      (fun l => { l with marks := mark.insert l.marks, shown := true }) marked.lines }

/-- The file with a label from one line to another. Of the lines between them the first three and
the last one are shown. -/
def withBracket (marked : MarkedFile) (label : Label) (first last : Nat) : MarkedFile :=
  let number := marked.bracketCount
  let part (edge : Edge) : Bracket := { number, role := label.role, edge }
  let top := changeLine first
    (MarkedLine.withBracket (part (.top (label.coord.start - lineStart marked.file first))) true)
    marked.lines
  let sides := (List.range (last - (first + 1))).foldl
    (fun lines i =>
      let index := first + 1 + i
      changeLine index
        (MarkedLine.withBracket (part .side) (index - first ≤ 3 || last - index ≤ 1)) lines)
    top
  { marked with
    bracketCount := number + 1
    lines := changeLine last
      (MarkedLine.withBracket
        (part (.bottom (label.coord.stop - lineStart marked.file last) label.message)) true)
      sides }

def withLabel (marked : MarkedFile) (label : Label) : MarkedFile :=
  let first := marked.file.lineIndex label.coord.start
  let last := marked.file.lineIndex label.coord.stop
  if first = last then marked.withMark label first else marked.withBracket label first last

/-- The file shown for the given label, if that is more important than the one so far. -/
def preferring (marked : MarkedFile) (label : Label) : MarkedFile :=
  let better :=
    (marked.role == .secondary && label.role == .primary) ||
      (marked.role == label.role && label.coord.start < marked.start)
  if better then { marked with start := label.coord.start, role := label.role } else marked

end MarkedFile

def addLabel (registry : Registry) (label : Label) :
    List MarkedFile → Except LocationError (List MarkedFile)
  | [] => do
    let file ← registry.file label.coord.file
    let marked : MarkedFile :=
      { id := label.coord.file, file, start := label.coord.start, role := label.role }
    return [marked.withLabel label]
  | marked :: rest =>
    if marked.id = label.coord.file then .ok ((marked.preferring label).withLabel label :: rest)
    else do return marked :: (← addLabel registry label rest)

/-- The files that labels touch, in the order in which labels first do. -/
def markedFiles (registry : Registry) (labels : List Label) :
    Except LocationError (List MarkedFile) :=
  labels.foldlM (fun files label => addLabel registry label files) []

end DirSchema.Diagnostic
