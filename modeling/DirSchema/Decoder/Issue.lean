import DirSchema.Decoder.Header
import DirSchema.Diagnostic.Basic
set_option autoImplicit false

namespace DirSchema.Decoder

inductive Issue where
  | incomplete (kind : BlockKind) (missing : List String) (origin : Coord)
  | redundantParent (kept ignored : String) (place : Coord)
  | unknownSyntax (text : String) (place : Coord)
  | unrecognized (place : Coord)
  | unterminated (kind : Option BlockKind) (origin : Coord)
deriving DecidableEq, Repr

namespace Issue

/-- The name of a kind of block, also of those that are not decoded. -/
def kindName : Option BlockKind → String
  | some kind => kind.word
  | none => "unsupported"

def warning (code : Diagnostic.Code) (message : String) (origin : Coord) : Diagnostic :=
  { severity := .warning
    message
    code := some code.name
    labels := [{ coord := origin, message := "declaration started here" }] }

def note (code : Diagnostic.Code) (message : String) (place : Coord) (notes : List String) :
    Diagnostic :=
  { severity := .note, message, code := some code.name, labels := [{ coord := place }], notes }

def diagnostic : Issue → Diagnostic
  | .incomplete kind missing origin =>
    warning .incompleteDeclaration
      (kind.word ++ " declaration is missing '" ++ String.intercalate "', '" missing ++
        "' and was ignored")
      origin
  | .redundantParent kept ignored place =>
    note .redundantParent
      ("only a single parent class is supported, '" ++ ignored ++ "' is ignored") place
      ["'" ++ kept ++ "' is used as the parent class"]
  | .unknownSyntax text place =>
    note .unknownSyntax ("unknown syntax '" ++ text ++ "', values are treated as opaque") place []
  | .unrecognized place => note .unrecognizedLine "unrecognized line was ignored" place []
  | .unterminated kind origin =>
    warning .unterminatedBlock (kindName kind ++ " declaration was never closed and was ignored")
      origin

end Issue
end DirSchema.Decoder
