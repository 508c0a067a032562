import DirSchema.Path
set_option autoImplicit false

namespace DirSchema

inductive Node where
  | file (contents : ByteArray)
  | directory

instance : DecidableEq Node
  | .directory, .directory => isTrue rfl
  | .file a, .file b =>
    if same : a.data = b.data then isTrue (congrArg Node.file (ByteArray.ext same))
    else isFalse fun equal => same (by cases equal; rfl)
  | .directory, .file _ | .file _, .directory => isFalse nofun

/-- A place: the names from the root. -/
abbrev Location : Type := List String

/-- A tree. Relative paths start at `base`. -/
structure FileTree where
  base : Location := []
  nodes : List (Location × Node) := []
deriving DecidableEq

/-- Why an operation on a tree fails. -/
inductive FileError where
  | notFound
  | alreadyExists
  | notDirectory
  | isDirectory
  | nameTooLong
  | nulByte
  | notText
deriving DecidableEq, Repr

def FileError.message : FileError → String
  | .notFound => "No such file or directory (os error 2)"
  | .alreadyExists => "File exists (os error 17)"
  | .notDirectory => "Not a directory (os error 20)"
  | .isDirectory => "Is a directory (os error 21)"
  | .nameTooLong => "File name too long (os error 36)"
  | .nulByte => "file name contained an unexpected NUL byte"
  | .notText => "stream did not contain valid UTF-8"

namespace FileTree

/-- What stands at a place. The root is a directory. -/
def get? (tree : FileTree) (location : Location) : Option Node :=
  if location = [] then some .directory else tree.nodes.lookup location

def put (tree : FileTree) (location : Location) (node : Node) : FileTree :=
  { tree with nodes := (location, node) :: tree.nodes.filter (·.1 != location) }

def erase (tree : FileTree) (location : Location) : FileTree :=
  { tree with nodes := tree.nodes.filter (·.1 != location) }

/-- The names of a path, dots included. -/
def stepsOf (path : String) : List String :=
  (Text.fields (· == '/') path.toList).filterMap fun piece =>
    if piece = [] then none else some (String.ofList piece)

/-- The longest name, in bytes. -/
def nameLimit : Nat := 255

/-- The longest path, in bytes. -/
def pathLimit : Nat := 4095

/-- The directory that names lead to from another. -/
def descend (tree : FileTree) (start : Location) : List String → Except FileError Location
  | [] => .ok start
  | name :: rest =>
    if name = "." then tree.descend start rest
    else if name = ".." then tree.descend start.dropLast rest
    else if nameLimit < name.utf8ByteSize then .error .nameTooLong
    else
      match tree.get? (start ++ [name]) with
      | none => .error .notFound
      | some (.file _) => .error .notDirectory
      | some .directory => tree.descend (start ++ [name]) rest

structure Target where
  location : Location
  node : Option Node
  /-- Whether the path ends in a name, and in no dots and no slash. -/
  plain : Bool

/-- The end of a path whose directories all exist. -/
def locate (tree : FileTree) (path : String) : Except FileError Target :=
  if path.isEmpty then .error .notFound
  else if path.toList.contains '\x00' then .error .nulByte
  else if pathLimit < path.utf8ByteSize then .error .nameTooLong
  else
    let start := if Path.isAbsolute path then [] else tree.base
    let steps := stepsOf path
    match steps.getLast? with
    | none => .ok { location := start, node := tree.get? start, plain := false }
    | some last => do
      let directory ← tree.descend start steps.dropLast
      if last = "." then
        return { location := directory, node := tree.get? directory, plain := false }
      else if last = ".." then
        let above := directory.dropLast
        return { location := above, node := tree.get? above, plain := false }
      else if nameLimit < last.utf8ByteSize then .error .nameTooLong
      else
        let location := directory ++ [last]
        return { location, node := tree.get? location, plain := !Text.endsWith '/' path.toList }

/-- What stands at the end of a path. A path that ends in a slash is one of a directory. -/
def find (tree : FileTree) (path : String) : Except FileError (Location × Node) := do
  let target ← tree.locate path
  match target.node with
  | none => .error .notFound
  | some .directory => return (target.location, .directory)
  | some (.file contents) =>
    if target.plain then return (target.location, .file contents) else .error .notDirectory

def pathExists (tree : FileTree) (path : String) : Bool :=
  match tree.find path with
  | .ok _ => true
  | .error _ => false

def isDirectory (tree : FileTree) (path : String) : Bool :=
  match tree.find path with
  | .ok (_, .directory) => true
  | _ => false

/-- The tree with a directory at the end of a path, where nothing may stand. -/
def makeDirectory (tree : FileTree) (path : String) : Except FileError FileTree := do
  let target ← tree.locate path
  match target.node with
  | some _ => .error .alreadyExists
  | none => return tree.put target.location .directory

/-- The tree with a file at the end of a path, where no directory may stand. -/
def writeFile (tree : FileTree) (path : String) (contents : ByteArray) :
    Except FileError FileTree := do
  let target ← tree.locate path
  if !target.plain then .error .isDirectory
  else
    match target.node with
    | some .directory => .error .isDirectory
    | _ => return tree.put target.location (.file contents)

/-- Names in order of their characters. -/
def insertName (name : String) : List String → List String
  | [] => [name]
  | other :: rest =>
    if name < other then name :: other :: rest else other :: insertName name rest

def namesIn (tree : FileTree) (directory : Location) : List String :=
  (tree.nodes.filterMap fun (location, _) =>
    if location.dropLast = directory then location.getLast? else none).foldr insertName []

end FileTree
end DirSchema
