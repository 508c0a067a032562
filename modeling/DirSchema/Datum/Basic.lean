set_option autoImplicit false

namespace DirSchema

/-- A datum. The fields of a record keep the order they were given in. -/
inductive Datum where
  | null
  | bool (value : Bool)
  | number (value : Int)
  | text (value : String)
  | list (items : List Datum)
  | record (fields : List (String × Datum))
deriving Repr, Inhabited

namespace Datum

def ofText? : Option String → Datum
  | some value => .text value
  | none => .null

def texts (values : List String) : Datum := .list (values.map .text)

/-- A field at its place among fields in order of their names. -/
def insertSorted (key : String) (value : Datum) : List (String × Datum) → List (String × Datum)
  | [] => [(key, value)]
  | (k, v) :: rest =>
    if k < key then (k, v) :: insertSorted key value rest else (key, value) :: (k, v) :: rest

mutual
/-- The datum with the fields of its records in order of their names, at every level. -/
def sorted : Datum → Datum
  | .list items => .list (sortedItems items)
  | .record fields => .record (sortedFields fields)
  | .null => .null
  | .bool value => .bool value
  | .number value => .number value
  | .text value => .text value
def sortedItems : List Datum → List Datum
  | [] => []
  | item :: rest => item.sorted :: sortedItems rest
/-- Fields in order of their names, their values sorted. -/
def sortedFields : List (String × Datum) → List (String × Datum)
  | [] => []
  | (key, value) :: rest => insertSorted key value.sorted (sortedFields rest)
end

end Datum
end DirSchema
