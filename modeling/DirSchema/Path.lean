import DirSchema.Text.Basic
set_option autoImplicit false

namespace DirSchema.Path

inductive Component where
  | root
  | current
  | up
  | normal (name : String)
deriving DecidableEq, Repr, Inhabited

namespace Component

/-- The component that a piece of a relative path stands for, none if it leaves no trace. -/
def ofPiece? (piece : List Char) : Option Component :=
  if piece = [] || piece = ['.'] then none
  else if piece = ['.', '.'] then some .up
  else some (.normal (String.ofList piece))

/-- Roots come before `.`, that before `..`, and names last, in order of their characters. -/
def le : Component → Component → Bool
  | .root, _ => true
  | _, .root => false
  | .current, _ => true
  | _, .current => false
  | .up, _ => true
  | _, .up => false
  | .normal a, .normal b => decide (a ≤ b)

end Component

def isAbsolute (path : String) : Bool :=
  match path.toList with
  | '/' :: _ => true
  | _ => false

/-- The components of a path. A leading `.` is kept, so that `./a` and `a` differ. -/
def components (path : String) : List Component :=
  let pieces := Text.fields (· == '/') path.toList
  let head :=
    if isAbsolute path then [.root]
    else if pieces.head? = some ['.'] then [.current] else []
  head ++ pieces.filterMap Component.ofPiece?

/-- Whether two texts are the same path. -/
def same (a b : String) : Bool := components a == components b

/-- Paths are ordered by their components, from the first. -/
def le (a b : String) : Bool := go (components a) (components b)
where
  /-- The order of two lists of components. -/
  go : List Component → List Component → Bool
    | [], _ => true
    | _ :: _, [] => false
    | x :: xs, y :: ys => if x = y then go xs ys else x.le y

/-- A path below a directory; an absolute path stays as it is. -/
def join (directory path : String) : String :=
  if isAbsolute path || directory.isEmpty then path
  else if directory.toList.getLast? = some '/' then directory ++ path
  else directory ++ "/" ++ path

/-- The characters before what leaves no trace at the end of a path. -/
def trimmed (cs : List Char) : List Char := go cs.reverse
where
  /-- The same for the reversed path. -/
  go : List Char → List Char
    | '/' :: rest => go rest
    | '.' :: '/' :: rest => go rest
    | reversed => reversed.reverse

/-- The directory that a path names an entry of, as written. -/
def parent? (path : String) : Option String :=
  match (components path).getLast? with
  | none | some .root => none
  | some _ =>
    match trimmed (Text.dropEndWhile (· != '/') (trimmed path.toList)) with
    | [] => some (if isAbsolute path then "/" else "")
    | directory => some (String.ofList directory)

def fileName? (path : String) : Option String :=
  match (components path).getLast? with
  | some (.normal name) => some name
  | _ => none

/-- What follows the last dot of a file name, if the name has characters before it. -/
def extension? (path : String) : Option String :=
  (fileName? path).bind fun name =>
    match Text.splitOnce? (· == '.') name.toList.reverse with
    | some (_, []) | none => none
    | some (after, _) => some (String.ofList after.reverse)

end DirSchema.Path
