import DirSchema.Model.Basic
import DirSchema.Path
set_option autoImplicit false

namespace DirSchema.Output

/-- Settings of a run. A kind without a template of its own has the builtin one. -/
structure Settings where
  outputRoot : String
  package : String
  entities : Bool := true
  mappers : Bool := true
  entityTemplate : Option String := none
  mapperTemplate : Option String := none
  removeOldOutput : Bool := false
deriving DecidableEq, Repr

def extension : String := "rs"

namespace Settings

def isEnabled (settings : Settings) : ArtifactKind → Bool
  | .entity => settings.entities
  | .mapper => settings.mappers

/-- The kinds that are generated, in their order. -/
def enabledKinds (settings : Settings) : List ArtifactKind :=
  ArtifactKind.all.filter settings.isEnabled

def template? (settings : Settings) : ArtifactKind → Option String
  | .entity => settings.entityTemplate
  | .mapper => settings.mapperTemplate

def segments (package : String) : List String :=
  (Text.fields (· == '.') package.toList).map String.ofList

/-- The directory of artifacts of a kind: a directory for each segment of the package, and one for
the kind in the last of these. -/
def outputDirectory (settings : Settings) (kind : ArtifactKind) : String :=
  Path.join ((segments settings.package).foldl Path.join settings.outputRoot) kind.subpackage

def artifactPath (settings : Settings) (kind : ArtifactKind) (className : String) : String :=
  Path.join (settings.outputDirectory kind) (className ++ "." ++ extension)

end Settings
end DirSchema.Output
