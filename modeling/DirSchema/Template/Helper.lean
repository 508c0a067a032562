import DirSchema.Template.Scope
import DirSchema.Text.Words
set_option autoImplicit false

namespace DirSchema.Template

/-- An argument of a helper: its value, if it has one, and the path it was read from. -/
structure Argument where
  value : Option Datum
  path : Option String := none

namespace Argument

def datum (argument : Argument) : Datum := argument.value.getD .null

end Argument

structure Arguments where
  positional : List Argument := []
  named : List (String × Argument) := []

namespace Arguments

def first (arguments : Arguments) (helper : String) : Except Reason Argument :=
  match arguments.positional with
  | argument :: _ => .ok argument
  | [] => .error (.missingArgument helper 0)

def required (arguments : Arguments) (helper parameter : String) (index : Nat) :
    Except Reason Datum :=
  match (arguments.positional[index]?).bind (·.value) with
  | some value => .ok value
  | none => .error (.missingParameter helper parameter)

/-- An option, which the last one of its name gives. -/
def option? (arguments : Arguments) (name : String) : Option Datum :=
  (arguments.named.reverse.lookup name).map Argument.datum

end Arguments

namespace Helper

/-- Whether a datum counts as true. Zero does not, unless it is said to. -/
def isTruthy (includeZero : Bool) : Datum → Bool
  | .null => false
  | .bool value => value
  | .number value => includeZero || value != 0
  | .text value => !value.isEmpty
  | .list items => !items.isEmpty
  | .record fields => !fields.isEmpty

mutual
def same : Datum → Datum → Bool
  | .null, .null => true
  | .bool a, .bool b => a == b
  | .number a, .number b => a == b
  | .text a, .text b => a == b
  | .list a, .list b => sameItems a b
  | .record a, .record b => sameFields a b
  | _, _ => false
def sameItems : List Datum → List Datum → Bool
  | [], [] => true
  | a :: as, b :: bs => same a b && sameItems as bs
  | _, _ => false
/-- Whether two lists of fields in order of their names are equal. -/
def sameFields : List (String × Datum) → List (String × Datum) → Bool
  | [], [] => true
  | (k, a) :: as, (l, b) :: bs => k == l && same a b && sameFields as bs
  | _, _ => false
end

mutual
def render : Datum → String
  | .null => ""
  | .bool true => "true"
  | .bool false => "false"
  | .number (.ofNat n) => Text.decimal n
  | .number (.negSucc n) => "-" ++ Text.decimal (n + 1)
  | .text value => value
  | .list items => "[" ++ String.intercalate ", " (renderItems items) ++ "]"
  | .record _ => "[object]"
def renderItems : List Datum → List String
  | [] => []
  | item :: rest => render item :: renderItems rest
end

def lastSegment (name : String) : String :=
  String.ofList ((Text.fields (· == '.') name.toList).getLast?.getD [])

def ofText (helper : String) (f : String → String) (arguments : Arguments) :
    Except Reason Datum := do
  match ← arguments.required helper "s" 0 with
  | .text s => return .text (f s)
  | _ => .error (.mistypedParameter helper "s" "str")

def ofPair (helper : String) (f : Datum → Datum → Bool) (arguments : Arguments) :
    Except Reason Datum := do
  let x ← arguments.required helper "x" 0
  let y ← arguments.required helper "y" 1
  return .bool (f x y)

def ofNumbers (helper : String) (f : Int → Int → Bool) (arguments : Arguments) :
    Except Reason Datum := do
  let number (parameter : String) (index : Nat) : Except Reason Int := do
    match ← arguments.required helper parameter index with
    | .number n => return n
    | _ => .error (.mistypedParameter helper parameter "i64")
  let x ← number "x" 0
  let y ← number "y" 1
  return .bool (f x y)

/-- How many items, fields or bytes a datum has. -/
def size : Datum → Nat
  | .text value => value.utf8ByteSize
  | .list items => items.length
  | .record fields => fields.length
  | _ => 0

/-- A member of a list or record. Null counts as none. -/
def lookup (arguments : Arguments) : Except Reason Datum := do
  let collection ← arguments.first "lookup"
  match arguments.positional[1]? with
  | none => .error (.missingArgument "lookup" 1)
  | some index =>
    let found : Option Datum :=
      match collection.datum, index.datum with
      | .list items, .number (.ofNat n) => items[n]?
      | .record fields, .text key => fields.lookup key
      | _, _ => none
    match found with
    | none | some .null => .error (.missingVariable none)
    | some value => return value

def value? (name : String) : Option (Arguments → Except Reason Datum) :=
  match name with
  | "capitalize" => some (ofText name Text.capitalize)
  | "snake_case" => some (ofText name Text.snakeCase)
  | "upper_camel_case" => some (ofText name Text.upperCamelCase)
  | "module_name" => some (ofText name lastSegment)
  | "eq" => some (ofPair name same)
  | "ne" => some (ofPair name fun x y => !same x y)
  | "gt" => some (ofNumbers name fun x y => y < x)
  | "gte" => some (ofNumbers name fun x y => y ≤ x)
  | "lt" => some (ofNumbers name fun x y => x < y)
  | "lte" => some (ofNumbers name fun x y => x ≤ y)
  | "and" => some (ofPair name fun x y => isTruthy false x && isTruthy false y)
  | "or" => some (ofPair name fun x y => isTruthy false x || isTruthy false y)
  | "not" => some fun arguments => do
    return .bool (!isTruthy false (← arguments.required name "x" 0))
  | "len" => some fun arguments => do
    return .number (size (← arguments.required name "x" 0))
  | "lookup" => some lookup
  | _ => none

/-- The helpers that decide what becomes of a block. -/
inductive Control where
  | when (positive : Bool)
  | each
  | within
  | raw
  | log
deriving DecidableEq, Repr

def control? (name : String) : Option Control :=
  match name with
  | "if" => some (.when true)
  | "unless" => some (.when false)
  | "each" => some .each
  | "with" => some .within
  | "raw" => some .raw
  | "log" => some .log
  | _ => none

def exists? (name : String) : Bool := (value? name).isSome || (control? name).isSome

def levels : List String := ["error", "warn", "info", "debug", "trace"]

/-- What a helper of that kind does without a block: it checks its arguments and writes nothing. -/
def Control.check (arguments : Arguments) : Control → Except Reason Unit
  | .when _ => do let _ ← arguments.first "if"
  | .each => do let _ ← arguments.first "each"
  | .within => do
    let argument ← arguments.first "with"
    if isTruthy false argument.datum then return () else .error (.missingVariable argument.path)
  | .raw => .ok ()
  | .log =>
    match arguments.option? "level" with
    | some (.text level) =>
      if levels.contains (String.ofList (level.toList.map Char.toLower)) then .ok ()
      else .error (.invalidLevel level)
    | _ => .ok ()

def call (name : String) (arguments : Arguments) : Except Reason Datum :=
  match value? name, control? name with
  | some helper, _ => helper arguments
  | none, some control => do
    control.check arguments
    return .text ""
  | none, none => .error (.helperNotFound name)

end Helper

mutual
def Expression.evaluate (scopes : Scopes) : Expression → Except Reason Argument
  | .reference reference => do
    return { value := ← scopes.find reference, path := some reference.raw }
  | .literal value => .ok { value := some value }
  | .call name positional named => do
    let positional ← evaluateAll scopes positional
    let named ← evaluateNamed scopes named
    return { value := some (← Helper.call name { positional, named }) }
def evaluateAll (scopes : Scopes) : List Expression → Except Reason (List Argument)
  | [] => .ok []
  | expression :: rest => do
    let argument ← expression.evaluate scopes
    return argument :: (← evaluateAll scopes rest)
def evaluateNamed (scopes : Scopes) :
    List (String × Expression) → Except Reason (List (String × Argument))
  | [] => .ok []
  | (name, expression) :: rest => do
    let argument ← expression.evaluate scopes
    return (name, argument) :: (← evaluateNamed scopes rest)
end

def Call.evaluate (scopes : Scopes) (call : Call) : Except Reason Arguments := do
  return {
    positional := ← evaluateAll scopes call.arguments
    named := ← evaluateNamed scopes call.options }

end DirSchema.Template
