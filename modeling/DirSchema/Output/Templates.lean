import DirSchema.FileTree.Operations
import DirSchema.Output.Builtin
import DirSchema.Output.Settings
set_option autoImplicit false

namespace DirSchema.Output

/-- The source of the template of each kind. -/
structure Templates where
  entity : String
  mapper : String
deriving DecidableEq, Repr

namespace Templates

def get (templates : Templates) : ArtifactKind → String
  | .entity => templates.entity
  | .mapper => templates.mapper

/-- The templates that are used where no others are named. -/
def builtin : Templates := { entity := Builtin.entity, mapper := Builtin.mapper }

def logs (settings : Settings) (kinds : List ArtifactKind) : List String :=
  kinds.filterMap fun kind =>
    (settings.template? kind).map fun path => "loading " ++ kind.name ++ " template from " ++ path

structure LoadError where
  kind : ArtifactKind
  failure : FileFailure
deriving DecidableEq, Repr

def LoadError.message (error : LoadError) : String :=
  "failed to read " ++ error.kind.name ++ " template '" ++ error.failure.path ++ "': " ++
    error.failure.message

def loadKind (tree : FileTree) (settings : Settings) (kind : ArtifactKind) :
    Except LoadError String :=
  match settings.template? kind with
  | none => .ok (builtin.get kind)
  | some path => (tree.readText path).mapError fun failure => { kind, failure }

def load (tree : FileTree) (settings : Settings) : Except LoadError Templates := do
  return {
    entity := ← loadKind tree settings .entity
    mapper := ← loadKind tree settings .mapper }

end Templates
end DirSchema.Output
