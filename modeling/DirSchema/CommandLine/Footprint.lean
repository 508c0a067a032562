import DirSchema.CommandLine.Run
set_option autoImplicit false

namespace DirSchema.CommandLine

/-- Paths of files, and of directories with all that is below them. -/
structure Footprint where
  files : List String := []
  directories : List String := []
deriving DecidableEq, Repr

namespace Command

def arguments? : Command → Option Arguments
  | .generate arguments _ | .list arguments _ => some arguments
  | .init _ => none

def firstFile (command : Command) (directory : String) : String :=
  match command with
  | .generate arguments _ | .list arguments _ => arguments.configPath directory
  | .init path => Path.join directory (path.getD Config.defaultPath)

end Command

def artifactDirectories (merged : Config.Merged) : List String :=
  match merged.outputDirectory, merged.package with
  | some root, some package =>
    ArtifactKind.all.map
      ({ outputRoot := root.value, package := package.value } : Output.Settings).outputDirectory
  | _, _ => []

def Command.footprint (command : Command) (console : Console) (tree : FileTree) : Footprint :=
  let directory := currentDirectory tree
  let first := command.firstFile directory
  match command.arguments? with
  | none => { files := [first] }
  | some arguments =>
    match readConfig console arguments tree with
    | (_, _, .error _) => { files := [first] }
    | (_, _, .ok (config, context)) =>
      let merged := Config.merge config (arguments.overridesFrom directory) context
      let paths (given : List (Option Config.Given)) := given.filterMap (·.map (·.value))
      { files :=
          first :: paths [merged.entityTemplate, merged.mapperTemplate, merged.outputDirectory]
        directories := paths [merged.schemaDirectory] ++ artifactDirectories merged }

end DirSchema.CommandLine
