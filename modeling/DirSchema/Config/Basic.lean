import DirSchema.Diagnostic.Basic
import DirSchema.Toml.Basic
set_option autoImplicit false

namespace DirSchema

structure Config.Entry where
  value : String
  span : Toml.Span
deriving DecidableEq, Repr, Inhabited

structure Config where
  /-- The directory of schema files. -/
  schemaDirectory : Option Config.Entry := none
  /-- Patterns of the schema files to use, relative to their directory. -/
  included : List Config.Entry := []
  /-- Patterns of the schema files to leave out. -/
  excluded : List Config.Entry := []
  /-- The directory that packages are written to. -/
  outputDirectory : Option Config.Entry := none
  package : Option Config.Entry := none
  entities : Option Bool := none
  mappers : Option Bool := none
  removeOldOutput : Option Bool := none
  entityTemplate : Option Config.Entry := none
  mapperTemplate : Option Config.Entry := none
deriving DecidableEq, Repr, Inhabited

namespace Config

/-- The config file that is used if no other is named. -/
def defaultPath : String := "ldap-codegen.toml"

/-- Settings that take precedence over those of a config file. Their paths are used as they are. -/
structure Overrides where
  schemaDirectory : Option String := none
  included : List String := []
  excluded : List String := []
  outputDirectory : Option String := none
  package : Option String := none
  entities : Option Bool := none
  mappers : Option Bool := none
  removeOldOutput : Option Bool := none
  entityTemplate : Option String := none
  mapperTemplate : Option String := none
deriving DecidableEq, Repr, Inhabited

end Config
end DirSchema
