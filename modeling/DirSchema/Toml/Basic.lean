import DirSchema.Diagnostic.Basic
import DirSchema.Text.Basic
set_option autoImplicit false

namespace DirSchema.Toml

/-- A range of bytes of a text. -/
structure Span where
  start : Nat
  stop : Nat
deriving DecidableEq, Repr, Inhabited

structure Key where
  name : String
  span : Span
deriving DecidableEq, Repr, Inhabited

/-- A value. The range of a text is that of its contents, without the quotes. -/
inductive Value where
  | text (span : Span) (value : String)
  | integer (span : Span) (value : Int)
  /-- A number with a point or an exponent, as written. -/
  | float (span : Span) (text : String)
  | boolean (span : Span) (value : Bool)
  | array (span : Span) (items : List Value)
  | table (span : Span) (entries : List (Key × Value))
  /-- A table that only dotted keys have made, and that others can extend. -/
  | dotted (span : Span) (entries : List (Key × Value))
deriving Repr, Inhabited

/-- Keys and their values, in the order of the text. -/
abbrev Table : Type := List (Key × Value)

def Value.span : Value → Span
  | .text span _ | .integer span _ | .float span _ | .boolean span _ | .array span _
  | .table span _ | .dotted span _ => span

def Table.key? (table : Table) (name : String) : Option Key :=
  (table.find? fun entry => entry.1.name == name).map (·.1)

/-- What is wrong. Ranges within are of other places that have to do with it. -/
inductive Fault where
  | unexpectedEnd
  | unexpected (c : Char)
  | invalidCharacter (c : Char)
  | invalidEscape (c : Char)
  | invalidHexEscape (c : Char)
  | invalidEscapeValue
  | unterminatedText
  | unquotedText
  | multilineKey
  | invalidNumber
  | wanted (what : String)
  | duplicateKey (first : Span)
  | duplicateTable (first : Span)
  | redefinedAsArray
  | extendedValue (first : Span)
  | unexpectedKeys (keys : List Span) (expected : List String)
deriving DecidableEq, Repr

structure Issue where
  fault : Fault
  span : Span
deriving DecidableEq, Repr

namespace Issue

def atByte (offset : Nat) (fault : Fault) : Issue :=
  { fault, span := { start := offset, stop := offset + 1 } }

/-- Something that is missing at an offset. The range is as long as the description of what is found
in its place. -/
def missing (what : String) (offset : Nat) (found : String) : Issue :=
  { fault := .wanted what, span := { start := offset, stop := offset + found.utf8ByteSize } }

def otherType (what : String) (value : Value) : Issue :=
  { fault := .wanted what, span := value.span }

def code : Fault → String
  | .unexpectedEnd => "unexpected-eof"
  | .unexpected _ => "unexpected"
  | .invalidCharacter _ => "invalid-char-in-string"
  | .invalidEscape _ => "invalid-escape"
  | .invalidHexEscape _ => "invalid-hex-escape"
  | .invalidEscapeValue => "invalid-escape-value"
  | .unterminatedText => "unterminated-string"
  | .unquotedText => "unquoted-string"
  | .multilineKey => "multiline-string-key"
  | .invalidNumber => "invalid-number"
  | .wanted _ => "wanted"
  | .duplicateKey _ => "duplicate-key"
  | .duplicateTable _ => "duplicate-table"
  | .redefinedAsArray => "redefine-as-array"
  | .extendedValue _ => "dotted-key-invalid-type"
  | .unexpectedKeys _ _ => "unexpected-keys"

def quotedList (names : List String) : String :=
  "[" ++ String.intercalate ", " (names.map fun name => "\"" ++ name ++ "\"") ++ "]"

/-- The message of a fault, which most leave to their labels. -/
def message : Fault → String
  | .unexpectedEnd => "unexpected end of file"
  | .unexpectedKeys keys expected =>
    "found " ++ Text.decimal keys.length ++ " unexpected keys, expected: " ++ quotedList expected
  | _ => ""

def label (file : Nat) (role : Diagnostic.Label.Role) (span : Span) (message : String) :
    Diagnostic.Label :=
  { coord := { file, start := span.start, stop := span.stop }, message, role }

def labels (file : Nat) (issue : Issue) : List Diagnostic.Label :=
  let primary := label file .primary issue.span
  match issue.fault with
  | .unexpectedEnd => [primary ""]
  | .unexpected c => [primary ("unexpected character '" ++ c.toString ++ "'")]
  | .invalidCharacter c => [primary ("invalid character '" ++ c.toString ++ "' in string")]
  | .invalidEscape c => [primary ("invalid escape character '" ++ c.toString ++ "' in string")]
  | .invalidHexEscape c => [primary ("invalid hex escape '" ++ c.toString ++ "'")]
  | .invalidEscapeValue => [primary "invalid escape value"]
  | .unterminatedText => [primary "eof reached before string terminator"]
  | .unquotedText => [primary "string is not quoted"]
  | .multilineKey => [primary "multiline keys are not allowed"]
  | .invalidNumber => [primary "unable to parse number"]
  | .wanted what => [primary ("expected " ++ what)]
  | .duplicateKey first =>
    [label file .secondary first "first key instance", primary "duplicate key"]
  | .duplicateTable first =>
    [label file .secondary first "first table instance", primary "duplicate table"]
  | .redefinedAsArray => [primary "table redefined as array"]
  | .extendedValue first =>
    [primary "attempted to extend table here", label file .secondary first "non-table"]
  | .unexpectedKeys keys _ => keys.map fun span => label file .secondary span ""

def diagnostic (file : Nat) (issue : Issue) : Diagnostic :=
  { severity := .error
    message := message issue.fault
    code := some (code issue.fault)
    labels := issue.labels file }

end Issue
end DirSchema.Toml
