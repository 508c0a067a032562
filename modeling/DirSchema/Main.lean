import DirSchema.CommandLine.Footprint
import Std.Time.DateTime
set_option autoImplicit false

namespace DirSchema.Main

open DirSchema.CommandLine

def diskPath (location : Location) : String := "/" ++ String.intercalate "/" location

def readNode (location : Location) : IO (Option Node) := do
  try
    let path ← IO.FS.realPath (diskPath location)
    if ← path.isDir then return some .directory
    else return some (.file (← IO.FS.readBinFile path))
  catch _ => return none

def readPlace (tree : FileTree) (location : Location) : IO FileTree := do
  if location.isEmpty then return tree
  match ← readNode location with
  | some node => return tree.put location node
  | none => return tree

/-- The places that names lead through from another, without their dots. -/
def placesAlong (start : Location) : List String → List Location
  | [] => []
  | name :: rest =>
    let next :=
      if name = "." then start else if name = ".." then start.dropLast else start ++ [name]
    next :: placesAlong next rest

def readPath (tree : FileTree) (path : String) : IO FileTree :=
  let start := if Path.isAbsolute path then [] else tree.base
  (placesAlong start (FileTree.stepsOf path)).foldlM readPlace tree

/-- The tree with all that is below a directory. -/
partial def readBelow (tree : FileTree) (location : Location) : IO FileTree := do
  match tree.get? location with
  | some .directory =>
    let directory ← IO.FS.realPath (diskPath location)
    let mut tree := tree
    for entry in ← directory.readDir do
      let place := location ++ [entry.fileName]
      tree ← readPlace tree place
      tree ← readBelow tree place
    return tree
  | _ => return tree

def readDirectory (tree : FileTree) (path : String) : IO FileTree := do
  let tree ← readPath tree path
  match tree.find path with
  | .ok (location, _) => readBelow tree location
  | .error _ => return tree

def readTree (command : Command) (console : Console) (base : Location) : IO FileTree := do
  let empty : FileTree := { base }
  let directory := currentDirectory empty
  let tree ← readPath empty directory
  let tree ← readPath tree (command.firstFile directory)
  let footprint := command.footprint console tree
  let tree ← footprint.files.foldlM readPath tree
  footprint.directories.foldlM readDirectory tree

/-- Writes a node that the disk does not have yet. Directories come before what they hold. -/
def writeNode (before : FileTree) (entry : Location × Node) : IO Unit := do
  let (location, node) := entry
  if before.get? location = some node then return ()
  match node with
  | .directory => IO.FS.createDirAll (diskPath location)
  | .file contents => IO.FS.writeBinFile (diskPath location) contents

def writeChanges (before after : FileTree) : IO Unit := do
  for (location, node) in before.nodes do
    if node != .directory && (after.get? location).isNone then
      IO.FS.removeFile (diskPath location)
  let byDepth := after.nodes.mergeSort fun a b => a.1.length ≤ b.1.length
  byDepth.forM (writeNode before)

def readEnvironment : IO Environment := do
  let names := (Parameter.color :: Parameter.ofReading).filterMap Parameter.environmentName?
  let values ← names.mapM fun name => return (← IO.getEnv name).map fun value => (name, value)
  return values.filterMap id

/-- A number with at least the given number of digits. -/
def padded (width n : Nat) : String :=
  let digits := Text.decimal n
  String.ofList (List.replicate (width - digits.length) '0') ++ digits

/-- The fraction of a second after a point, without zeros at its end. -/
def fraction (nanoseconds : Nat) : String :=
  let digits := Text.dropEndWhile (· == '0') (padded 9 nanoseconds).toList
  if digits.isEmpty then "" else "." ++ String.ofList digits

def readClock : IO Clock := do
  let now := Std.Time.PlainDateTime.ofWallTime ((← Std.Time.Timestamp.now).toWallTime .zero)
  let date :=
    padded 4 now.year.toNat ++ "-" ++ padded 2 now.month.val.toNat ++ "-" ++
      padded 2 now.day.val.toNat
  let time :=
    padded 2 now.hour.val.toNat ++ ":" ++ padded 2 now.minute.val.toNat ++ ":" ++
      padded 2 now.second.val.toNat
  return {
    human := date ++ " " ++ time
    record := date ++ "T" ++ time ++ fraction now.nanosecond.val.toNat ++ "Z" }

def runOnDisk (words : List String) : IO Finished := do
  let environment ← readEnvironment
  let terminals : Terminals :=
    { out := ← (← IO.getStdout).isTty, err := ← (← IO.getStderr).isTty }
  let clock ← readClock
  let base := FileTree.stepsOf (toString (← IO.currentDir))
  match Invocation.ofWords environment words with
  | .error _ => return CommandLine.run environment terminals clock words { base }
  | .ok invocation =>
    let console := Console.ofInvocation invocation terminals clock
    let before ← readTree invocation.command console base
    let finished := CommandLine.run environment terminals clock words before
    writeChanges before finished.tree
    return finished

end DirSchema.Main

/-- Runs the command that the words of the command line name. -/
def main (words : List String) : IO UInt32 := do
  let finished ← DirSchema.Main.runOnDisk words
  IO.print finished.transcript.out
  IO.eprint finished.transcript.err
  return UInt32.ofNat finished.code
