import DirSchema.Config.Basic
import DirSchema.Config.Problem
import DirSchema.FileTree.Basic
import DirSchema.Output.Settings
set_option autoImplicit false

namespace DirSchema.Config

/-- Settings that a run can use. -/
structure Valid where
  schemaDirectory : String
  /-- Patterns of schema files, in their order. -/
  included : List Glob
  excluded : List Glob
  settings : Output.Settings
deriving Repr

/-- Where a config comes from: the number of its file, if there is one, and the directory that
relative paths start from. -/
structure Context where
  file : Option Nat := none
  baseDirectory : String := ""

/-- A setting, and its place if it was read from a file. -/
structure Given where
  value : String
  place : Option Coord := none
deriving DecidableEq, Repr

namespace Given

def ofEntry (context : Context) (entry : Entry) : Given :=
  { value := entry.value
    place := context.file.map fun file =>
      { file, start := entry.span.start, stop := entry.span.stop } }

def ofPathEntry (context : Context) (entry : Entry) : Given :=
  let given := ofEntry context entry
  { given with value := Path.join context.baseDirectory given.value }

/-- An override, or else the setting of a config. -/
def choose (override : Option String) (entry : Option Entry) (ofEntry : Entry → Given) :
    Option Given :=
  (override.map fun value => { value }).or (entry.map ofEntry)

/-- Overrides if there are any, or else the settings of a config. -/
def chooseAll (overrides : List String) (entries : List Entry) (ofEntry : Entry → Given) :
    List Given :=
  if overrides.isEmpty then entries.map ofEntry else overrides.map fun value => { value }

end Given

/-- A segment of a package: the name of a single directory. -/
def isSegment (cs : List Char) : Bool :=
  !cs.isEmpty && cs.all fun c => c != '/' && c != '\\' && !Text.isBlank c

/-- Packages are segments with dots between them. -/
def isPackage (package : String) : Bool :=
  (Text.fields (· == '.') package.toList).all isSegment

/-- The settings of a run before their validation. -/
structure Merged where
  schemaDirectory : Option Given
  outputDirectory : Option Given
  package : Option Given
  included : List Given
  excluded : List Given
  entities : Bool
  mappers : Bool
  removeOldOutput : Bool
  entityTemplate : Option Given
  mapperTemplate : Option Given

def merge (config : Config) (overrides : Overrides) (context : Context) : Merged :=
  let text := Given.ofEntry context
  let path := Given.ofPathEntry context
  { schemaDirectory := Given.choose overrides.schemaDirectory config.schemaDirectory path
    outputDirectory := Given.choose overrides.outputDirectory config.outputDirectory path
    package := Given.choose overrides.package config.package text
    included := Given.chooseAll overrides.included config.included text
    excluded := Given.chooseAll overrides.excluded config.excluded text
    entities := (overrides.entities.or config.entities).getD true
    mappers := (overrides.mappers.or config.mappers).getD true
    removeOldOutput := (overrides.removeOldOutput.or config.removeOldOutput).getD false
    entityTemplate := Given.choose overrides.entityTemplate config.entityTemplate path
    mapperTemplate := Given.choose overrides.mapperTemplate config.mapperTemplate path }

def missing (key flag : String) (given : Option Given) : List Problem :=
  match given with
  | none => [.missingSetting key flag]
  | some _ => []

def packageProblems (package : Option Given) : List Problem :=
  match package with
  | none => [.missingSetting "output.package" "--package"]
  | some package =>
    if isPackage package.value then [] else [.invalidPackage package.value package.place]

def directoryProblems (tree : FileTree) (directory : Option Given) : List Problem :=
  match directory with
  | none => []
  | some directory =>
    if tree.isDirectory directory.value then []
    else [.missingDirectory directory.value directory.place]

section
variable (compiler : Glob.Compiler)

def patternProblem? (pattern : Given) : Option Problem :=
  match compiler.read pattern.value with
  | .ok _ => none
  | .error fault => some (.invalidPattern pattern.value fault pattern.place)

def pattern? (pattern : Given) : Option Glob := (compiler.read pattern.value).toOption

def setProblem? (patterns : List Given) : Option Problem :=
  (compiler.refusal? (patterns.filterMap (pattern? compiler))).map .invalidSet

namespace Merged

def problems (merged : Merged) (tree : FileTree) : List Problem :=
  missing "schemas.directory" "--schema-dir" merged.schemaDirectory ++
    missing "output.directory" "--output-dir" merged.outputDirectory ++
    packageProblems merged.package ++
    directoryProblems tree merged.schemaDirectory ++
    merged.included.filterMap (patternProblem? compiler) ++
    merged.excluded.filterMap (patternProblem? compiler) ++
    (setProblem? compiler merged.excluded).toList

def valid? (merged : Merged) : Option Valid := do
  return {
    schemaDirectory := (← merged.schemaDirectory).value
    included := merged.included.filterMap (pattern? compiler)
    excluded := merged.excluded.filterMap (pattern? compiler)
    settings := {
      outputRoot := (← merged.outputDirectory).value
      package := (← merged.package).value
      entities := merged.entities
      mappers := merged.mappers
      entityTemplate := merged.entityTemplate.map (·.value)
      mapperTemplate := merged.mapperTemplate.map (·.value)
      removeOldOutput := merged.removeOldOutput } }

end Merged

/-- The settings of a run, if no errors are reported about them, and all that has been reported. -/
def validateInto (config : Config) (overrides : Overrides) (context : Context) (tree : FileTree)
    (reported : List Diagnostic) : Option Valid × List Diagnostic :=
  let merged := merge config overrides context
  let after := reported ++ (merged.problems compiler tree).map Problem.diagnostic
  if Diagnostic.count .error reported < Diagnostic.count .error after then (none, after)
  else (merged.valid? compiler, after)

end

def validate (config : Config) (overrides : Overrides) (context : Context) (tree : FileTree) :
    Except (List Problem) Valid :=
  match (config.validateInto Glob.compiler overrides context tree []).1 with
  | some valid => .ok valid
  | none => .error ((merge config overrides context).problems Glob.compiler tree)

end DirSchema.Config
