import DirSchema.Diagnostic.Basic
import DirSchema.FileTree.Operations
import DirSchema.Output.Settings
set_option autoImplicit false

namespace DirSchema.Output

/-- The files that an earlier run may have generated in a directory. -/
def oldFiles (tree : FileTree) (directory : String) : List String :=
  (tree.filesIn directory).filter fun path => Path.extension? path == some extension

/-- What became of an old file. -/
inductive Removal where
  | removed (path : String)
  | failed (failure : FileFailure)
deriving DecidableEq, Repr

namespace Removal

def removed? : Removal → Option String
  | .removed path => some path
  | .failed _ => none

/-- What is reported about an old file. -/
def diagnostic? : Removal → Option Diagnostic
  | .removed _ => none
  | .failed failure =>
    some
      { severity := .warning
        message := "failed to remove old output '" ++ failure.path ++ "'"
        code := some Diagnostic.Code.cleanupFailed.name
        notes := [failure.message] }

end Removal

/-- The tree without files, one after another, as far as they can be removed. -/
def removeAll (tree : FileTree) : List String → FileTree × List Removal
  | [] => (tree, [])
  | path :: rest =>
    match tree.removeFile path with
    | .ok tree =>
      let (tree, others) := removeAll tree rest
      (tree, .removed path :: others)
    | .error failure =>
      let (tree, others) := removeAll tree rest
      (tree, .failed failure :: others)

def cleanKinds (settings : Settings) (tree : FileTree) :
    List ArtifactKind → FileTree × List Removal
  | [] => (tree, [])
  | kind :: rest =>
    let (tree, removals) := removeAll tree (oldFiles tree (settings.outputDirectory kind))
    let (tree, others) := cleanKinds settings tree rest
    (tree, removals ++ others)

/-- The tree without old output, and what became of the old files. -/
def cleanUp (settings : Settings) (tree : FileTree) : FileTree × List Removal :=
  cleanKinds settings tree settings.enabledKinds

/-- The tree without old output, and the files that were removed. -/
def removeOldOutput (settings : Settings) (tree : FileTree) : FileTree × List String :=
  let (tree, removals) := cleanUp settings tree
  (tree, removals.filterMap Removal.removed?)

end DirSchema.Output
