import DirSchema.FileTree.Basic
set_option autoImplicit false

namespace DirSchema

/-- What was being done when an operation failed. -/
inductive FileAction where
  | openFile
  | readFile
  | createFile
  | createDirectory
  | removeFile
deriving DecidableEq, Repr

structure FileFailure where
  action : FileAction
  path : String
  error : FileError
deriving DecidableEq, Repr

def FileAction.message : FileAction → String
  | .openFile => "failed to open file"
  | .readFile => "failed to read from file"
  | .createFile => "failed to create file"
  | .createDirectory => "failed to create directory"
  | .removeFile => "failed to remove file"

def FileFailure.message (failure : FileFailure) : String :=
  failure.action.message ++ " `" ++ failure.path ++ "`: " ++ failure.error.message

namespace FileTree

def readText (tree : FileTree) (path : String) : Except FileFailure String :=
  match tree.find path with
  | .error error => .error { action := .openFile, path, error }
  | .ok (_, .directory) => .error { action := .readFile, path, error := .isDirectory }
  | .ok (_, .file contents) =>
    match String.fromUTF8? contents with
    | some text => .ok text
    | none => .error { action := .readFile, path, error := .notText }

def writeText (tree : FileTree) (path text : String) : Except FileFailure FileTree :=
  match tree.writeFile path text.toUTF8 with
  | .ok tree => .ok tree
  | .error error => .error { action := .createFile, path, error }

/-- The tree with a directory, if it can be made or is there already. -/
def ensureDirectory (tree : FileTree) (path : String) : FileTree × Option FileError :=
  match tree.makeDirectory path with
  | .ok made => (made, none)
  | .error error => (tree, if tree.isDirectory path then none else some error)

/-- The tree with a directory and those above it, as far as they can be made. There are no more of
them than the path has characters, which bounds the recursion. -/
def createAll (path : String) (tree : FileTree) : Nat → FileTree × Option FileError
  | 0 => (tree, some .notFound)
  | fuel + 1 =>
    if path.isEmpty then (tree, none)
    else
      match tree.makeDirectory path, Path.parent? path with
      | .error .notFound, some parent =>
        match createAll parent tree fuel with
        | (tree, none) => tree.ensureDirectory path
        | failed => failed
      | _, _ => tree.ensureDirectory path

def createDirectories (tree : FileTree) (path : String) : FileTree × Option FileFailure :=
  let (tree, error) := createAll path tree (path.length + 1)
  (tree, error.map fun error => { action := .createDirectory, path, error })

def fileNamesIn (tree : FileTree) (directory : String) : List String :=
  match tree.find directory with
  | .ok (location, .directory) =>
    (tree.namesIn location).filter fun name =>
      match tree.get? (location ++ [name]) with
      | some (.file _) => true
      | _ => false
  | _ => []

/-- The files directly in a directory, as paths, in order of their names. -/
def filesIn (tree : FileTree) (directory : String) : List String :=
  (tree.fileNamesIn directory).map (Path.join directory)

/-- The files below a place, with their names from there, in the order of the tree. -/
def filesBelow (tree : FileTree) (location : Location) : List (List String × ByteArray) :=
  tree.nodes.filterMap fun (place, node) =>
    match node with
    | .directory => none
    | .file contents =>
      if location.isPrefixOf place && place != location then
        some (place.drop location.length, contents)
      else none

def removeFile (tree : FileTree) (path : String) : Except FileFailure FileTree :=
  match tree.find path with
  | .error error => .error { action := .removeFile, path, error }
  | .ok (_, .directory) => .error { action := .removeFile, path, error := .isDirectory }
  | .ok (location, .file _) => .ok (tree.erase location)

end FileTree
end DirSchema
