import DirSchema.Source.Coord
import DirSchema.Text.Basic
set_option autoImplicit false

namespace DirSchema.Source

structure Line where
  text : List Char
  coord : Coord
deriving DecidableEq, Repr, Inhabited

namespace Line

/-- The line that a piece of file `file` holds, if the piece starts at byte `offset`. -/
def ofPiece (file offset : Nat) (piece : List Char) : Line :=
  let text := Text.trim piece
  let start := offset + Text.byteLength (piece.takeWhile Text.isBlank)
  { text, coord := { file, start, stop := start + Text.byteLength text } }

/-- The lines of consecutive pieces, the first of which starts at byte `offset`. -/
def ofPieces (file offset : Nat) : List (List Char) → List Line
  | [] => []
  | piece :: rest =>
    ofPiece file offset piece :: ofPieces file (offset + Text.byteLength piece) rest

/-- The lines of a text, blank ones and comments included. -/
def ofText (file : Nat) (text : String) : List Line := ofPieces file 0 (Text.pieces text.toList)

/-- Blank lines and comments, which start with `#`, declare nothing. -/
def isSignificant (line : Line) : Bool :=
  match line.text with
  | [] => false
  | c :: _ => c != '#'

end Line
end DirSchema.Source
