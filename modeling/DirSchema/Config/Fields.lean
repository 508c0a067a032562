import DirSchema.Toml.Basic
set_option autoImplicit false

namespace DirSchema.Config

open DirSchema.Toml (Value Table Issue Key)

/-- A table whose fields are read. -/
structure Fields where
  table : Table
  expected : List String := []
  issues : List Issue := []

abbrev FieldReader : Type → Type := StateM Fields

abbrev ValueReader (α : Type) : Type := Value → Except (List Issue) α

/-- The field with a name, if it is there and has a value that can be read. -/
def optional {α : Type} (name : String) (read : ValueReader α) : FieldReader (Option α) :=
  fun fields =>
  let others := { fields with
    table := fields.table.filter fun entry => entry.1.name != name
    expected := fields.expected ++ [name] }
  match fields.table.find? fun entry => entry.1.name == name with
  | none => (none, others)
  | some (_, value) =>
    match read value with
    | .ok result => (some result, others)
    | .error issues => (none, { others with issues := fields.issues ++ issues })

def insertKey (key : Key) : List Key → List Key
  | [] => [key]
  | other :: rest =>
    if key.name < other.name then key :: other :: rest else other :: insertKey key rest

/-- The issues of a table whose expected fields have been read. -/
def Fields.finish (fields : Fields) : List Issue :=
  let keys := (fields.table.map (·.1)).foldr insertKey []
  match keys with
  | [] => fields.issues
  | first :: _ =>
    fields.issues ++
      [{ fault := .unexpectedKeys (keys.map (·.span)) fields.expected, span := first.span }]

def readFields {α : Type} (read : FieldReader α) (table : Table) : Except (List Issue) α :=
  let (result, fields) := read { table }
  match fields.finish with
  | [] => .ok result
  | issues => .error issues

def readTable {α : Type} (read : FieldReader α) : ValueReader α
  | .table _ entries | .dotted _ entries => readFields read entries
  | value => .error [.otherType "a table" value]

def readBool : ValueReader Bool
  | .boolean _ value => .ok value
  | value => .error [.otherType "a bool" value]

/-- The items of an array, or the issues of all of them. -/
def readItems {α : Type} (read : ValueReader α) : List Value → Except (List Issue) (List α)
  | [] => .ok []
  | item :: rest =>
    match read item, readItems read rest with
    | .ok first, .ok others => .ok (first :: others)
    | .ok _, .error issues => .error issues
    | .error issues, .ok _ => .error issues
    | .error issues, .error others => .error (issues ++ others)

def readArray {α : Type} (read : ValueReader α) : ValueReader (List α)
  | .array _ items => readItems read items
  | value => .error [.otherType "an array" value]

end DirSchema.Config
