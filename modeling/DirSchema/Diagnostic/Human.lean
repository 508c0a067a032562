import DirSchema.Diagnostic.Marks
import DirSchema.Diagnostic.Styled
import DirSchema.Text.Width
set_option autoImplicit false

/-!
Diagnostics for people: a header, the marked lines of each file with their marks drawn below them,
and notes.

Marks of one line are drawn on one row. The message of the last mark follows on that row unless the
mark overlaps another; the other messages hang below their marks, from right to left. Brackets are
drawn to the left of the lines, each in a column of its own.
-/
namespace DirSchema.Diagnostic

open DirSchema.Source (File Registry LocationError)

/-- A character of a line with its offset and the columns that it takes. -/
structure Cell where
  offset : Nat
  width : Nat
  char : Char
deriving DecidableEq, Repr

def Cell.range (cell : Cell) : Range :=
  { start := cell.offset, stop := cell.offset + cell.char.utf8Size }

/-- The cells of a text that starts at an offset and a column. Tab stops are four columns apart. -/
def cellsAt (offset column : Nat) : List Char → List Cell
  | [] => []
  | c :: cs =>
    let width := if c = '\t' then 4 - column % 4 else Text.width c
    { offset, width, char := c } :: cellsAt (offset + c.utf8Size) (column + width) cs

def cells (line : List Char) : List Cell := cellsAt 0 0 line

def times (n : Nat) (c : Char) : String := String.ofList (List.replicate n c)

namespace Human

/-- What the rows of a snippet have in common: the severity, the width of the line numbers and the
number of columns for brackets. -/
structure Frame where
  severity : Severity
  padding : Nat
  columns : Nat

abbrev Row := List Piece

namespace Frame

def style (frame : Frame) (role : Label.Role) : Style := role.style frame.severity

def styled (frame : Frame) (role : Label.Role) (text : String) : Row :=
  Piece.styled (frame.style role) text

def gutter (frame : Frame) : Row := [.text (times frame.padding ' ' ++ " ")]

def gutterWith (frame : Frame) (number : Nat) : Row :=
  let digits := Text.decimal number
  Piece.styled (.colored .blue) (times (frame.padding - digits.length) ' ' ++ digits) ++ [.text " "]

def border : Row := Piece.styled (.colored .blue) "│"

/-- One column for a bracket, given the side that is drawn if the bracket passes. -/
def bracketColumns (frame : Frame) (brackets : List Bracket) (column : Bracket → Row) : Row :=
  (List.range frame.columns).flatMap fun number =>
    match brackets.find? (·.number == number) with
    | some bracket => column bracket
    | none => [.text "  "]

def side (frame : Frame) (role : Label.Role) : Row := .text " " :: frame.styled role "│"

def below (frame : Frame) (brackets : List Bracket) : Row :=
  frame.bracketColumns brackets fun bracket =>
    match bracket.edge with
    | .top _ => [.text "  "]
    | .side | .bottom _ _ => frame.side bracket.role

def empty (frame : Frame) (brackets : List Bracket) : Row :=
  frame.gutter ++ border ++ frame.below brackets

def gap (frame : Frame) (brackets : List Bracket) : Row :=
  frame.gutter ++ Piece.styled (.colored .blue) "·" ++ frame.below brackets

end Frame

/-- Whether a bracket starts at or before the first character of a line that is no white space. -/
def startsLine (line : List Char) (start : Nat) : Bool :=
  start ≤ Text.byteLength (line.takeWhile Text.isBlank)

def isCause (marks : List Mark) (brackets : List Bracket) (cell : Cell) : Bool :=
  (marks.any fun mark => mark.role == .primary && mark.range.overlaps cell.range) ||
    brackets.any fun bracket =>
      bracket.role == .primary &&
        match bracket.edge with
        | .top start => start ≤ cell.offset
        | .side => true
        | .bottom stop _ => cell.range.stop ≤ stop

/-- The characters of a line, those of causes in the color of the severity. -/
def paint (style : Style) (cause : Cell → Bool) (painted : Bool) : List Cell → Row
  | [] => if painted then [.style .plain] else []
  | cell :: rest =>
    let now := cause cell
    let change : Row :=
      if now && !painted then [.style style] else if painted && !now then [.style .plain] else []
    let text :=
      if cell.char = '\t' then times cell.width ' ' else String.ofList [cell.char]
    change ++ .text text :: paint style cause now rest

def sourceRow (frame : Frame) (number : Nat) (line : List Char) (marks : List Mark)
    (brackets : List Bracket) : Row :=
  let left := frame.bracketColumns brackets fun bracket =>
    match bracket.edge with
    | .top start =>
      if startsLine line start then .text " " :: frame.styled bracket.role "╭" else [.text "  "]
    | .side | .bottom _ _ => frame.side bracket.role
  frame.gutterWith number ++ Frame.border ++ left ++ [.text " "] ++
    paint (frame.style .primary) (isCause marks brackets) false (cells line)

/-- The mark whose message follows on the row of marks: the last of those that reach furthest to the
right, if it has a message and overlaps no other mark. -/
def trailing? (marks : List Mark) : Option Nat :=
  let furthest := (marks.map (·.range.stop)).foldl max 0
  match (marks.zipIdx.filter fun (mark, _) => mark.range.stop == furthest).getLast? with
  | none => none
  | some (mark, index) =>
    if mark.message.isEmpty then none
    else if marks.zipIdx.any fun (other, i) => i != index && mark.range.overlaps other.range
    then none
    else some index

/-- The marks whose messages hang below them. -/
def hanging (marks : List Mark) : List Mark :=
  let trailing := trailing? marks
  (marks.zipIdx.filter fun (mark, i) => !mark.message.isEmpty && trailing != some i).map (·.1)

def strongest? (marks : List Mark) : Option Label.Role :=
  if marks.any (·.role == .primary) then some .primary else marks.head?.map (·.role)

def carets (frame : Frame) (marks : List Mark) (previous : Option Label.Role) : List Cell → Row
  | [] => if previous.isSome then [.style .plain] else []
  | cell :: rest =>
    let current := strongest? (marks.filter fun mark => mark.range.overlaps cell.range)
    let change : Row :=
      if current = previous then []
      else
        match current with
        | none => [.style .plain]
        | some role => [.style (frame.style role)]
    let drawn : Row :=
      match current with
      | some .primary => [.text (times cell.width '━')]
      | some .secondary => [.text (times cell.width '─')]
      | none =>
        if marks.any fun mark => cell.offset < mark.range.stop then [.text (times cell.width ' ')]
        else []
    change ++ drawn ++ carets frame marks current rest

/-- The lines down from the marks with hanging messages. -/
def pointers (frame : Frame) (marks : List Mark) (cells : List Cell) : Row :=
  let rightmost := (marks.map (·.range.start)).foldl max 0
  let hanging := hanging marks
  cells.flatMap fun cell =>
    let here := hanging.filter fun mark =>
      cell.range.start ≤ mark.range.start && mark.range.start < cell.range.stop
    let space (n : Nat) : Row := if cell.offset ≤ rightmost then [.text (times n ' ')] else []
    match strongest? here with
    | none => space cell.width
    | some role => frame.styled role "│" ++ space (cell.width - 1)

def markRows (frame : Frame) (line : List Char) (marks : List Mark) (brackets : List Bracket) :
    List Row :=
  if marks.isEmpty then []
  else
    let lineCells := cells line
    let lead := frame.gutter ++ Frame.border ++ frame.below brackets ++ [.text " "]
    let final : Cell := { offset := Text.byteLength line, width := 1, char := '\x00' }
    let message : Row :=
      match (trailing? marks).bind fun i => marks[i]? with
      | some mark => .text " " :: frame.styled mark.role mark.message
      | none => []
    let caretRow := lead ++ carets frame marks none (lineCells ++ [final]) ++ message
    let hanging := hanging marks
    if hanging.isEmpty then [caretRow]
    else
      [caretRow, lead ++ pointers frame marks lineCells] ++
        hanging.reverse.map fun mark =>
          lead ++
            pointers frame marks (lineCells.takeWhile fun cell => cell.offset < mark.range.start) ++
            frame.styled mark.role mark.message

/-- The horizontal part of a bracket, which ends in a corner, and the message of its bottom. -/
def bracketEnd (frame : Frame) (role : Label.Role) (cells : List Cell) (message : String) : Row :=
  let width := (cells.map (·.width)).foldl (· + ·) 0
  frame.styled role (times width '─' ++ "┘" ++ if message.isEmpty then "" else " " ++ message)

/-- Whether a bracket goes past the row of the bracket at `position`, whose own place is `i`:
upwards if it ends below that row, and downwards if it has started above it. -/
def passes (edge : Edge) (i position : Nat) : Bool :=
  match edge with
  | .side => true
  | .top _ => i < position
  | .bottom _ _ => position < i

/-- The columns of brackets on the row of the bracket at `position`. Once its own corner is drawn,
its horizontal part runs below or through the columns that follow. -/
def cornerColumns (frame : Frame) (brackets : List Bracket) (position : Nat) (corner : String)
    (underline : Option Label.Role) : List Nat → Row
  | [] => []
  | number :: rest =>
    let through : Row :=
      match underline with
      | some role => frame.styled role "──"
      | none => [.text "  "]
    let (column, underline) :=
      match brackets.zipIdx.find? fun (bracket, _) => bracket.number == number with
      | none => (through, underline)
      | some (bracket, i) =>
        if i = position then
          (.text " " :: frame.styled bracket.role corner, some bracket.role)
        else if passes bracket.edge i position then
          ((match underline with
            | some role => frame.styled role "─"
            | none => [.text " "]) ++ frame.styled bracket.role "│", underline)
        else (through, underline)
    column ++ cornerColumns frame brackets position corner underline rest

def bracketRow? (frame : Frame) (line : List Char) (brackets : List Bracket) (drawn : Bracket)
    (position : Nat) : Option Row :=
  let lead (corner : String) : Row :=
    frame.gutter ++ Frame.border ++
      cornerColumns frame brackets position corner none (List.range frame.columns)
  let upTo (offset : Nat) : List Cell := (cells line).takeWhile fun cell => cell.offset < offset
  match drawn.edge with
  | .side => none
  | .top start =>
    if startsLine line start then none
    else some (lead "╭" ++ bracketEnd frame drawn.role (upTo (start + 1)) "")
  | .bottom stop message => some (lead "╰" ++ bracketEnd frame drawn.role (upTo stop) message)

def lineRows (frame : Frame) (file : File) (marked : MarkedLine) : List Row :=
  let written := ((Text.pieces file.text.toList)[marked.index]?).getD []
  let line := Text.dropEndWhile (fun c => c == '\n' || c == '\r' || c == '\x00') written
  sourceRow frame (marked.index + 1) line marked.marks marked.brackets ::
    markRows frame line marked.marks marked.brackets ++
    marked.brackets.zipIdx.filterMap fun (bracket, i) =>
      bracketRow? frame line marked.brackets bracket i

/-- The rows between two shown lines: a single line in between is written out after all. -/
def betweenRows (frame : Frame) (marked : MarkedFile) (line next : MarkedLine) : List Row :=
  if next.index = line.index + 1 then []
  else if next.index = line.index + 2 then
    let brackets := ((marked.lines.find? (·.index == line.index + 1)).map (·.brackets)).getD []
    lineRows frame marked.file { index := line.index + 1, brackets }
  else [frame.gap line.brackets]

def linesRows (frame : Frame) (marked : MarkedFile) : List MarkedLine → List Row
  | [] => []
  | [line] => lineRows frame marked.file line
  | line :: next :: rest =>
    lineRows frame marked.file line ++ betweenRows frame marked line next ++
      linesRows frame marked (next :: rest)

/-- The name of a file with a line and column, both counted from one. -/
def locus (marked : MarkedFile) : String :=
  let line := marked.file.lineIndex marked.start
  let start := MarkedFile.lineStart marked.file line
  let written := ((Text.pieces marked.file.text.toList)[line]?).getD []
  let column := (cells written).countP fun cell => start + cell.range.stop ≤ marked.start
  marked.file.name ++ ":" ++ Text.decimal (line + 1) ++ ":" ++ Text.decimal (column + 1)

def fileRows (severity : Severity) (padding : Nat) (marked : MarkedFile) : List Row :=
  let frame : Frame := { severity, padding, columns := marked.bracketCount }
  (frame.gutter ++ Piece.styled (.colored .blue) "┌─" ++ [.text (" " ++ locus marked)]) ::
    frame.empty [] :: linesRows frame marked (marked.lines.filter (·.shown))

/-- The rows of files. A file is followed by a border if another file or a note comes after it. -/
def filesRows (severity : Severity) (padding : Nat) (notes : Bool) : List MarkedFile → List Row
  | [] => []
  | marked :: rest =>
    let frame : Frame := { severity, padding, columns := marked.bracketCount }
    fileRows severity padding marked ++
      (if rest.isEmpty && !notes then [] else [frame.empty []]) ++
      filesRows severity padding notes rest

def noteRows (padding : Nat) (note : String) : List Row :=
  (Text.lines note.toList).zipIdx.map fun (line, i) =>
    let bullet : Row := if i = 0 then Piece.styled (.colored .blue) "├" else [.text " "]
    .text (times padding ' ' ++ " ") :: bullet ++ [.text (" " ++ String.ofList line)]

def header (diagnostic : Diagnostic) : Row :=
  let code :=
    match diagnostic.code with
    | some code => if code.isEmpty then "" else "[" ++ code ++ "]"
    | none => ""
  [.style (.heading (Severity.color diagnostic.severity)), .text (diagnostic.severity.name ++ code),
    .style .bold, .text (": " ++ diagnostic.message), .style .plain]

/-- The width of the longest number of a line that labels touch. -/
def paddingOf (files : List MarkedFile) : Nat :=
  ((files.flatMap (·.lines)).map fun line => (Text.decimal (line.index + 1)).length).foldl max 0

end Human

/-- A diagnostic as styled text. It ends with an empty line. -/
def human (registry : Registry) (diagnostic : Diagnostic) : Except LocationError (List Piece) := do
  let files ← markedFiles registry diagnostic.labels
  let padding := Human.paddingOf files
  let rows :=
    Human.header diagnostic ::
      Human.filesRows diagnostic.severity padding (!diagnostic.notes.isEmpty) files ++
      diagnostic.notes.flatMap (Human.noteRows padding) ++ [[]]
  return rows.flatMap fun row => row ++ [.text "\n"]

def humanAll (registry : Registry) (diagnostics : List Diagnostic) :
    Except LocationError (List Piece) := do
  return (← diagnostics.mapM (human registry)).flatten

end DirSchema.Diagnostic
