import DirSchema.Datum.Basic
import DirSchema.Text.Basic
set_option autoImplicit false

namespace DirSchema.Datum

/-- The two lowest hexadecimal digits of a number. -/
def hexByte (n : Nat) : List Char := [Nat.digitChar (n / 16 % 16), Nat.digitChar (n % 16)]

def escapeChar (c : Char) : List Char :=
  match c with
  | '"' => ['\\', '"']
  | '\\' => ['\\', '\\']
  | '\n' => ['\\', 'n']
  | '\r' => ['\\', 'r']
  | '\t' => ['\\', 't']
  | '\x08' => ['\\', 'b']
  | '\x0c' => ['\\', 'f']
  | c => if c.toNat < 0x20 then ['\\', 'u', '0', '0'] ++ hexByte c.toNat else [c]

def quote (s : String) : String := String.ofList (['"'] ++ s.toList.flatMap escapeChar ++ ['"'])

def numberText : Int → String
  | .ofNat n => Text.decimal n
  | .negSucc n => "-" ++ Text.decimal (n + 1)

mutual
/-- JSON text without spaces. -/
def compact : Datum → String
  | .null => "null"
  | .bool true => "true"
  | .bool false => "false"
  | .number value => numberText value
  | .text value => quote value
  | .list items => "[" ++ String.intercalate "," (compactItems items) ++ "]"
  | .record fields => "\x7b" ++ String.intercalate "," (compactFields fields) ++ "\x7d"
def compactItems : List Datum → List String
  | [] => []
  | item :: rest => item.compact :: compactItems rest
def compactFields : List (String × Datum) → List String
  | [] => []
  | (key, value) :: rest => (quote key ++ ":" ++ value.compact) :: compactFields rest
end

/-- Texts between brackets, each on its own line; nothing stands between the brackets of an empty
list. -/
def bracketed (opening closing : String) (indent : String) (texts : List String) : String :=
  if texts.isEmpty then opening ++ closing
  else
    opening ++ "\n" ++ String.intercalate ",\n" (texts.map (indent ++ "  " ++ ·)) ++ "\n" ++
      indent ++ closing

mutual
/-- JSON text over several lines, all but the first of which start with `indent`. -/
def prettyAt (indent : String) : Datum → String
  | .list items => bracketed "[" "]" indent (prettyItems (indent ++ "  ") items)
  | .record fields => bracketed "\x7b" "\x7d" indent (prettyFields (indent ++ "  ") fields)
  | .null => "null"
  | .bool true => "true"
  | .bool false => "false"
  | .number value => numberText value
  | .text value => quote value
def prettyItems (indent : String) : List Datum → List String
  | [] => []
  | item :: rest => item.prettyAt indent :: prettyItems indent rest
def prettyFields (indent : String) : List (String × Datum) → List String
  | [] => []
  | (key, value) :: rest =>
    (quote key ++ ": " ++ value.prettyAt indent) :: prettyFields indent rest
end

/-- JSON text over several lines. -/
def pretty (datum : Datum) : String := datum.prettyAt ""

end DirSchema.Datum
