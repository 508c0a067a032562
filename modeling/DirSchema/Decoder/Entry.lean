import DirSchema.Text.Basic
set_option autoImplicit false

namespace DirSchema.Decoder

def isTerminator (c : Char) : Bool := c == ';' || c == ','

/-- A value without its terminators and the white space before them. -/
def stripTerminators (value : List Char) : List Char :=
  Text.trimEnd (Text.dropEndWhile isTerminator value)

def value? (raw : List Char) : Option String :=
  match stripTerminators raw with
  | [] => none
  | value => some (String.ofList value)

/-- A flag is set if it has no value at all. -/
def flag? (raw : List Char) : Option Bool :=
  let value := String.ofList (stripTerminators raw)
  if value = "" || value = "true" || value = "TRUE" then some true
  else if value = "false" || value = "FALSE" then some false
  else none

structure Entry where
  key : List Char
  value : List Char
deriving DecidableEq, Repr

/-- The entry on a line: what precedes and follows the first equals sign, or else the first white
space. -/
def Entry.ofLine (line : List Char) : Entry :=
  match Text.splitOnce? (· == '=') line with
  | some (key, value) =>
    { key := stripTerminators (Text.trimEnd key), value := Text.trimStart value }
  | none =>
    match Text.splitOnce? Text.isBlank line with
    | some (key, value) => { key := stripTerminators key, value := Text.trimStart value }
    | none => { key := stripTerminators line, value := [] }

/-- The names between the commas of a text. -/
def namesOf (raw : List Char) : List String :=
  ((Text.fields (· == ',') raw).map Text.trim).filterMap fun name =>
    if name = [] then none else some (String.ofList name)

structure NameLine where
  names : List String
  /-- Whether the list goes on: the line ends in a comma or names nothing, and no semicolon ends
  it. -/
  continues : Bool
deriving DecidableEq, Repr

def NameLine.ofText (raw : List Char) : NameLine :=
  let inner := Text.trimEnd (Text.dropEndWhile (· == ';') raw)
  { names := namesOf inner
    continues := !Text.endsWith ';' raw && (inner == [] || Text.endsWith ',' inner) }

end DirSchema.Decoder
