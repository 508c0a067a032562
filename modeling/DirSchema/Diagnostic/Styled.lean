import DirSchema.Diagnostic.Basic
set_option autoImplicit false

namespace DirSchema.Diagnostic

inductive Color where
  | red
  | green
  | yellow
  | blue
  | magenta
  | cyan
deriving DecidableEq, Repr

/-- The number of a color among the eight that every terminal has. -/
def Color.number : Color → String
  | .red => "1"
  | .green => "2"
  | .yellow => "3"
  | .blue => "4"
  | .magenta => "5"
  | .cyan => "6"

def Color.brightNumber : Color → String
  | .red => "9"
  | .green => "10"
  | .yellow => "11"
  | .blue => "12"
  | .magenta => "13"
  | .cyan => "14"

inductive Style where
  | plain
  | bold
  | colored (color : Color)
  | heading (color : Color)
deriving DecidableEq, Repr

/-- A part of styled text. -/
inductive Piece where
  | text (text : String)
  | style (style : Style)
deriving DecidableEq, Repr

def Style.escape : Style → String
  | .plain => "\x1b[0m"
  | .bold => "\x1b[0m\x1b[1m"
  | .colored color => "\x1b[0m\x1b[3" ++ color.number ++ "m"
  | .heading color => "\x1b[0m\x1b[1m\x1b[38;5;" ++ color.brightNumber ++ "m"

namespace Piece

def ansi (pieces : List Piece) : String :=
  String.join (pieces.map fun
    | .text words => words
    | .style look => look.escape)

def plain (pieces : List Piece) : String :=
  String.join (pieces.map fun
    | .text words => words
    | .style _ => "")

def styled (style : Style) (text : String) : List Piece :=
  [.style style, .text text, .style .plain]

end Piece

def Severity.color : Severity → Color
  | .bug | .error => .red
  | .warning => .yellow
  | .note => .green
  | .help => .cyan

/-- The style of marks: the color of the severity for a cause, and blue for what helps. -/
def Label.Role.style (severity : Severity) : Label.Role → Style
  | .primary => .colored (Severity.color severity)
  | .secondary => .colored .blue

end DirSchema.Diagnostic
