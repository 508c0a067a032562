import DirSchema.Template.Failure
set_option autoImplicit false

namespace DirSchema.Template

/-- A scope: its value, the data of its loop, and the names that its block has given. -/
structure Scope where
  value : Datum
  loopData : List (String × Datum) := []
  names : List (String × Datum) := []

/-- The scopes of a place in a template, within the whole of the data. -/
structure Scopes where
  root : Datum
  stack : List Scope

namespace Scopes

def ofRoot (root : Datum) : Scopes := { root, stack := [{ value := root }] }

def push (scopes : Scopes) (scope : Scope) : Scopes :=
  { scopes with stack := scope :: scopes.stack }

def index? (text : String) : Option Nat :=
  let digits :=
    match text.toList with
    | '+' :: rest => rest
    | other => other
  if digits.isEmpty || !digits.all Char.isDigit then none
  else some (digits.foldl (fun n c => n * 10 + (c.toNat - '0'.toNat)) 0)

def member? (name : String) : Datum → Except Reason (Option Datum)
  | .list items =>
    match index? name with
    | some index => .ok items[index]?
    | none => .error (.invalidIndex name)
  | .record fields => .ok (fields.lookup name)
  | _ => .ok none

def navigate (value : Option Datum) : List String → Except Reason (Option Datum)
  | [] => .ok value
  | name :: rest =>
    match value with
    | some datum => do navigate (← member? name datum) rest
    | none => .ok none

def namesOf (segments : List Segment) : List String :=
  segments.filterMap fun
    | .name text => some text
    | _ => none

def given? (scopes : Scopes) (name : String) : Option Datum :=
  scopes.stack.findSome? fun scope => scope.names.lookup name

def current (scopes : Scopes) : Datum :=
  match scopes.stack with
  | scope :: _ => scope.value
  | [] => scopes.root

/-- The datum that a path leads to. A name that a block has given wins over a member; a path that
leaves the outermost scope starts at the innermost one. -/
def path (scopes : Scopes) (segments : List Segment) : Except Reason (Option Datum) :=
  let levels := (segments.takeWhile (· == .up)).length
  let below := segments.drop levels
  let names := namesOf segments
  let fromCurrent : Except Reason (Option Datum) :=
    match below with
    | .root :: _ => navigate (some scopes.root) names
    | _ => navigate (some scopes.current) names
  let fromScope : Except Reason (Option Datum) :=
    if levels = 0 then fromCurrent
    else
      match scopes.stack[levels]? with
      | some scope => navigate (some scope.value) names
      | none => navigate (some scopes.current) names
  match below with
  | .name name :: rest =>
    match scopes.given? name with
    | some value => navigate (some value) (namesOf rest)
    | none => fromScope
  | _ => fromScope

def find (scopes : Scopes) (reference : Reference) : Except Reason (Option Datum) :=
  match reference.target with
  | .loopVariable level name =>
    .ok ((scopes.stack[level]?).bind fun scope => scope.loopData.lookup name)
  | .path segments => scopes.path segments

end Scopes
end DirSchema.Template
