import DirSchema.Config.Validation
import DirSchema.FileTree.Operations
set_option autoImplicit false

namespace DirSchema.Config

/-- The files that are selected from those directly in a directory, or from all below it. -/
def select (included : List (String → Bool)) (excluded : String → Bool) (direct all : List String) :
    List String :=
  let chosen :=
    if included.isEmpty then direct
    else (included.flatMap fun isMatch => (all.filter isMatch).mergeSort Path.le).eraseDups
  chosen.filter fun file => !excluded file

def allFiles (tree : FileTree) (directory : String) : List String :=
  match tree.find directory with
  | .ok (location, .directory) =>
    (tree.filesBelow location).map fun (names, _) => String.intercalate "/" names
  | _ => []

/-- The files that patterns select in a directory, as paths from there. -/
def selectedIn (included excluded : List (String → Bool)) (tree : FileTree) (directory : String) :
    List String :=
  select included (fun file => excluded.any fun isMatch => isMatch file)
    (tree.fileNamesIn directory) (allFiles tree directory)

/-- The files that patterns select in a directory, as paths, or the problem that there are none, and
all that has been reported. -/
def discoverInto (included excluded : List (String → Bool)) (directory : String) (tree : FileTree)
    (reported : List Diagnostic) : Except Problem (List String) × List Diagnostic :=
  let selected := selectedIn included excluded tree directory
  if selected.isEmpty then
    let problem := .noSchemaFiles directory
    (.error problem, reported ++ [problem.diagnostic])
  else (.ok (selected.map (Path.join directory)), reported)

/-- The paths of the schema files, or the problem that there are none, and all that has been
reported. -/
def schemaFilesInto (valid : Valid) (tree : FileTree) (reported : List Diagnostic) :
    Except Problem (List String) × List Diagnostic :=
  discoverInto (valid.included.map Glob.matchesPath) (valid.excluded.map Glob.matchesPath)
    valid.schemaDirectory tree reported

def schemaFiles (valid : Valid) (tree : FileTree) : Except Problem (List String) :=
  (schemaFilesInto valid tree []).1

end DirSchema.Config
