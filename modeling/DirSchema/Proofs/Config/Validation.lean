import DirSchema.Config.Validation
set_option autoImplicit false

namespace DirSchema

private theorem Diagnostic.count_append (severity : Severity) (front back : List Diagnostic) :
    count severity (front ++ back) = count severity front + count severity back := by
  rw [count, List.filter_append, List.length_append]
  rfl

private theorem Diagnostic.count_eq_length {severity : Severity} {found : List Diagnostic}
    (all : ∀ diagnostic ∈ found, diagnostic.severity = severity) :
    count severity found = found.length := by
  rw [count, List.filter_eq_self.mpr]
  exact fun diagnostic member => beq_iff_eq.mpr (all diagnostic member)

namespace Config

/-- A package whose segments can be the names of directories. -/
def IsPackageName (package : String) : Prop :=
  ∀ segment ∈ Text.fields (· == '.') package.toList, segment ≠ [] ∧
    ∀ c ∈ segment, c ≠ '/' ∧ c ≠ '\\' ∧ Text.isBlank c = false

theorem isPackage_iff {package : String} : isPackage package = true ↔ IsPackageName package := by
  simp only [isPackage, IsPackageName, List.all_eq_true]
  refine forall₂_congr fun segment _ => ?_
  simp [isSegment, and_assoc]

namespace Problem

def code : Problem → String
  | .missingSetting .. => "missing-setting"
  | .invalidPackage .. => "invalid-package"
  | .missingDirectory .. => "missing-schema-directory"
  | .invalidPattern .. | .invalidSet _ => "invalid-pattern"
  | .noSchemaFiles _ => "empty-schema-list"

def place? : Problem → Option Coord
  | .invalidPackage _ place | .missingDirectory _ place | .invalidPattern _ _ place => place
  | .missingSetting .. | .invalidSet _ | .noSchemaFiles _ => none

/-- A problem is reported as an error, which has a label at its place. -/
structure Reported (problem : Problem) (found : Diagnostic) : Prop where
  severity : found.severity = .error
  code : found.code = some problem.code
  labels : found.labels = problem.place?.toList.map fun coord => { coord }

theorem reported_diagnostic (problem : Problem) : problem.Reported problem.diagnostic := by
  cases problem <;> exact ⟨rfl, rfl, rfl⟩

end Problem

section Rules

variable (compiler : Glob.Compiler) (tree : FileTree) (context : Context)

/-- The place of a text of the config, which has one if the config was read from a file. -/
def placeOf (entry : Entry) : Option Coord :=
  context.file.map fun file => ⟨file, entry.span.start, entry.span.stop⟩

def pathOf (entry : Entry) : String := Path.join context.baseDirectory entry.value

/-- Where a setting comes from. -/
inductive ComesFrom (valueOf : Entry → String) :
    Option String → Option Entry → Option Given → Prop
  | override {value : String} {entry : Option Entry} :
      ComesFrom valueOf (some value) entry (some ⟨value, none⟩)
  | config {entry : Entry} :
      ComesFrom valueOf none (some entry) (some ⟨valueOf entry, placeOf context entry⟩)
  | nowhere : ComesFrom valueOf none none none

/-- Where patterns come from. Overrides take the place of all patterns of the config. -/
inductive AllComeFrom : List String → List Entry → List Given → Prop
  | overrides {values : List String} {entries : List Entry} (some : values ≠ []) :
      AllComeFrom values entries (values.map fun value => ⟨value, none⟩)
  | config {entries : List Entry} :
      AllComeFrom [] entries (entries.map fun entry => ⟨entry.value, placeOf context entry⟩)

/-- A setting that has to be there. -/
inductive Requires (key flag : String) : Option Given → List Problem → Prop
  | given (setting : Given) : Requires key flag (some setting) []
  | missing : Requires key flag none [.missingSetting key flag]

/-- A package, which has to be there and to be valid. -/
inductive ChecksPackage : Option Given → List Problem → Prop
  | missing : ChecksPackage none [.missingSetting "output.package" "--package"]
  | valid {package : String} {place : Option Coord} (named : IsPackageName package) :
      ChecksPackage (some ⟨package, place⟩) []
  | invalid {package : String} {place : Option Coord} (unnamed : ¬ IsPackageName package) :
      ChecksPackage (some ⟨package, place⟩) [.invalidPackage package place]

/-- A schema directory, which has to be one if it is given. -/
inductive ChecksDirectory : Option Given → List Problem → Prop
  | missing : ChecksDirectory none []
  | valid {directory : String} {place : Option Coord}
      (there : tree.isDirectory directory = true) : ChecksDirectory (some ⟨directory, place⟩) []
  | invalid {directory : String} {place : Option Coord}
      (absent : tree.isDirectory directory = false) :
      ChecksDirectory (some ⟨directory, place⟩) [.missingDirectory directory place]

/-- Patterns, the problems of the ones that do not compile, and what the others compile to. -/
inductive Compiles : List Given → List Problem → List Glob → Prop
  | nil : Compiles [] [] []
  | compiled {pattern : String} {place : Option Coord} {glob : Glob} {rest : List Given}
      {problems : List Problem} {globs : List Glob} (read : compiler.read pattern = .ok glob)
      (others : Compiles rest problems globs) :
      Compiles (⟨pattern, place⟩ :: rest) problems (glob :: globs)
  | refused {pattern : String} {place : Option Coord} {fault : Glob.Fault} {rest : List Given}
      {problems : List Problem} {globs : List Glob} (read : compiler.read pattern = .error fault)
      (others : Compiles rest problems globs) :
      Compiles (⟨pattern, place⟩ :: rest) (.invalidPattern pattern fault place :: problems) globs

/-- Compiled patterns, which have to make a set. -/
inductive MakesSet (globs : List Glob) : List Problem → Prop
  | made (accepted : compiler.refusal? globs = none) : MakesSet globs []
  | refused {reason : String} (refused : compiler.refusal? globs = some reason) :
      MakesSet globs [.invalidSet reason]

/-- The problems of a config and overrides, in the order of the checks. -/
inductive Finds (config : Config) (overrides : Overrides) : List Problem → Prop
  | inOrder {schemaDirectory outputDirectory package : Option Given}
      {included excluded : List Given} {includedGlobs excludedGlobs : List Glob}
      {ofSchemas ofOutput ofPackage ofDirectory ofIncluded ofExcluded ofSet : List Problem}
      (schemaSource : ComesFrom context (pathOf context) overrides.schemaDirectory
        config.schemaDirectory schemaDirectory)
      (outputSource : ComesFrom context (pathOf context) overrides.outputDirectory
        config.outputDirectory outputDirectory)
      (packageSource : ComesFrom context Entry.value overrides.package config.package package)
      (includedSource : AllComeFrom context overrides.included config.included included)
      (excludedSource : AllComeFrom context overrides.excluded config.excluded excluded)
      (schemas : Requires "schemas.directory" "--schema-dir" schemaDirectory ofSchemas)
      (output : Requires "output.directory" "--output-dir" outputDirectory ofOutput)
      (packaged : ChecksPackage package ofPackage)
      (directory : ChecksDirectory tree schemaDirectory ofDirectory)
      (includes : Compiles compiler included ofIncluded includedGlobs)
      (excludes : Compiles compiler excluded ofExcluded excludedGlobs)
      (set : MakesSet compiler excludedGlobs ofSet) :
      Finds config overrides (ofSchemas ++ ofOutput ++ ofPackage ++ ofDirectory ++ ofIncluded ++
        ofExcluded ++ ofSet)

def patternsOf (overrides : List String) (entries : List Entry) : List String :=
  if overrides = [] then entries.map Entry.value else overrides

/-- Settings that are the overrides, or else what the config says, or else defaults. -/
structure Uses (config : Config) (overrides : Overrides) (valid : Valid) : Prop where
  schemaDirectory : some valid.schemaDirectory =
    overrides.schemaDirectory.or (config.schemaDirectory.map (pathOf context))
  outputRoot : some valid.settings.outputRoot =
    overrides.outputDirectory.or (config.outputDirectory.map (pathOf context))
  package : some valid.settings.package = overrides.package.or (config.package.map Entry.value)
  included : valid.included.map .ok =
    (patternsOf overrides.included config.included).map compiler.read
  excluded : valid.excluded.map .ok =
    (patternsOf overrides.excluded config.excluded).map compiler.read
  entities : valid.settings.entities = (overrides.entities.or config.entities).getD true
  mappers : valid.settings.mappers = (overrides.mappers.or config.mappers).getD true
  removeOldOutput : valid.settings.removeOldOutput =
    (overrides.removeOldOutput.or config.removeOldOutput).getD false
  entityTemplate : valid.settings.entityTemplate =
    overrides.entityTemplate.or (config.entityTemplate.map (pathOf context))
  mapperTemplate : valid.settings.mapperTemplate =
    overrides.mapperTemplate.or (config.mapperTemplate.map (pathOf context))

end Rules

section Unique

variable {compiler : Glob.Compiler} {tree : FileTree} {context : Context}

private theorem ComesFrom.unique {valueOf : Entry → String} {override : Option String}
    {entry : Option Entry} {given other : Option Given}
    (first : ComesFrom context valueOf override entry given)
    (second : ComesFrom context valueOf override entry other) : given = other := by
  cases first <;> cases second <;> rfl

private theorem AllComeFrom.unique {overrides : List String} {entries : List Entry}
    {given other : List Given} (first : AllComeFrom context overrides entries given)
    (second : AllComeFrom context overrides entries other) : given = other := by
  cases first <;> cases second <;> first | rfl | contradiction

private theorem Requires.unique {key flag : String} {given : Option Given}
    {problems others : List Problem}
    (first : Requires key flag given problems) (second : Requires key flag given others) :
    problems = others := by
  cases first <;> cases second <;> rfl

private theorem ChecksPackage.unique {package : Option Given} {problems others : List Problem}
    (first : ChecksPackage package problems) (second : ChecksPackage package others) :
    problems = others := by
  cases first <;> cases second <;> first | rfl | contradiction

private theorem ChecksDirectory.unique {directory : Option Given} {problems others : List Problem}
    (first : ChecksDirectory tree directory problems)
    (second : ChecksDirectory tree directory others) : problems = others := by
  cases first <;> cases second <;> first | rfl | simp_all

private theorem Compiles.unique {patterns : List Given} {problems others : List Problem}
    {globs otherGlobs : List Glob} (first : Compiles compiler patterns problems globs)
    (second : Compiles compiler patterns others otherGlobs) :
    problems = others ∧ globs = otherGlobs := by
  induction first generalizing others otherGlobs with
  | nil =>
      cases second
      exact ⟨rfl, rfl⟩
  | compiled read _ ih =>
      cases second with
      | compiled again rest =>
          obtain ⟨rfl, rfl⟩ := ih rest
          obtain rfl := Except.ok.inj (read.symm.trans again)
          exact ⟨rfl, rfl⟩
      | refused again => cases read.symm.trans again
  | refused read _ ih =>
      cases second with
      | compiled again => cases read.symm.trans again
      | refused again rest =>
          obtain ⟨rfl, rfl⟩ := ih rest
          obtain rfl := Except.error.inj (read.symm.trans again)
          exact ⟨rfl, rfl⟩

private theorem MakesSet.unique {globs : List Glob} {problems others : List Problem}
    (first : MakesSet compiler globs problems) (second : MakesSet compiler globs others) :
    problems = others := by
  cases first <;> cases second <;> simp_all

theorem Finds.unique {config : Config} {overrides : Overrides} {problems others : List Problem}
    (first : Finds compiler tree context config overrides problems)
    (second : Finds compiler tree context config overrides others) : problems = others := by
  obtain ⟨schemaSource, outputSource, packageSource, includedSource, excludedSource, schemas,
    output, packaged, directory, includes, excludes, set⟩ := first
  obtain ⟨schemaSource', outputSource', packageSource', includedSource', excludedSource', schemas',
    output', packaged', directory', includes', excludes', set'⟩ := second
  cases schemaSource.unique schemaSource'
  cases outputSource.unique outputSource'
  cases packageSource.unique packageSource'
  cases includedSource.unique includedSource'
  cases excludedSource.unique excludedSource'
  obtain ⟨ofIncluded, -⟩ := includes.unique includes'
  obtain ⟨ofExcluded, rfl⟩ := excludes.unique excludes'
  rw [schemas.unique schemas', output.unique output', packaged.unique packaged',
    directory.unique directory', ofIncluded, ofExcluded, set.unique set']

end Unique

section Checks

variable (compiler : Glob.Compiler) (tree : FileTree) (context : Context)

variable {context} in
private theorem comesFrom_choose {valueOf : Entry → String} {ofEntry : Entry → Given}
    (reads : ∀ entry, ofEntry entry = ⟨valueOf entry, placeOf context entry⟩)
    (override : Option String) (entry : Option Entry) :
    ComesFrom context valueOf override entry (Given.choose override entry ofEntry) := by
  cases override with
  | some value => exact .override
  | none =>
      cases entry with
      | none => exact .nowhere
      | some entry =>
          show ComesFrom context valueOf none (some entry) (some (ofEntry entry))
          rw [reads]
          exact .config

private theorem allComeFrom_chooseAll (overrides : List String) (entries : List Entry) :
    AllComeFrom context overrides entries
      (Given.chooseAll overrides entries (Given.ofEntry context)) := by
  cases overrides with
  | nil => exact .config
  | cons value rest => exact .overrides (List.cons_ne_nil value rest)

private theorem requires_missing (key flag : String) (given : Option Given) :
    Requires key flag given (missing key flag given) := by
  cases given with
  | none => exact .missing
  | some setting => exact .given setting

private theorem checksPackage_packageProblems (package : Option Given) :
    ChecksPackage package (packageProblems package) := by
  cases package with
  | none => exact .missing
  | some given =>
      rw [packageProblems]
      split
      · rename_i named
        exact .valid (isPackage_iff.mp named)
      · rename_i unnamed
        exact .invalid fun named => unnamed (isPackage_iff.mpr named)

private theorem checksDirectory_directoryProblems (directory : Option Given) :
    ChecksDirectory tree directory (directoryProblems tree directory) := by
  cases directory with
  | none => exact .missing
  | some given =>
      rw [directoryProblems]
      split
      · rename_i there
        exact .valid there
      · rename_i absent
        exact .invalid (Bool.eq_false_iff.mpr absent)

theorem compiles_filterMap (patterns : List Given) :
    Compiles compiler patterns (patterns.filterMap (patternProblem? compiler))
      (patterns.filterMap (pattern? compiler)) := by
  induction patterns with
  | nil => exact .nil
  | cons pattern rest ih =>
      cases read : compiler.read pattern.value with
      | ok glob =>
          rw [List.filterMap_cons_none (by rw [patternProblem?, read]),
            List.filterMap_cons_some (by rw [pattern?, read]; rfl)]
          exact .compiled read ih
      | error fault =>
          rw [List.filterMap_cons_some (by rw [patternProblem?, read]),
            List.filterMap_cons_none (by rw [pattern?, read]; rfl)]
          exact .refused read ih

variable {compiler} in
/-- Without problems every pattern is compiled. -/
theorem Compiles.map_read {patterns : List Given} {globs : List Glob}
    (compiles : Compiles compiler patterns [] globs) :
    globs.map .ok = patterns.map fun pattern => compiler.read pattern.value := by
  generalize none : ([] : List Problem) = problems at compiles
  induction compiles with
  | nil => rfl
  | compiled read _ ih => rw [List.map_cons, List.map_cons, ih none, read]
  | refused => cases none

private theorem makesSet_setProblem? (patterns : List Given) :
    MakesSet compiler (patterns.filterMap (pattern? compiler))
      (setProblem? compiler patterns).toList := by
  rw [setProblem?]
  cases refusal : compiler.refusal? (patterns.filterMap (pattern? compiler)) with
  | none => exact .made refusal
  | some reason => exact .refused refusal

end Checks

section Merged

variable (compiler : Glob.Compiler) (config : Config) (overrides : Overrides) (context : Context)
  (tree : FileTree)

theorem finds_problems :
    Finds compiler tree context config overrides
      ((merge config overrides context).problems compiler tree) :=
  .inOrder (comesFrom_choose (fun _ => rfl) _ _) (comesFrom_choose (fun _ => rfl) _ _)
    (comesFrom_choose (fun _ => rfl) _ _) (allComeFrom_chooseAll context _ _)
    (allComeFrom_chooseAll context _ _) (requires_missing _ _ _) (requires_missing _ _ _)
    (checksPackage_packageProblems _) (checksDirectory_directoryProblems tree _)
    (compiles_filterMap compiler _) (compiles_filterMap compiler _)
    (makesSet_setProblem? compiler _)

private theorem value_choose (override : Option String) (entry : Option Entry)
    (ofEntry : Entry → Given) :
    (Given.choose override entry ofEntry).map (·.value) =
      override.or (entry.map fun entry => (ofEntry entry).value) := by
  cases override <;> cases entry <;> rfl

private theorem values_chooseAll (values : List String) (entries : List Entry) (context : Context) :
    (Given.chooseAll values entries (Given.ofEntry context)).map (·.value) =
      patternsOf values entries := by
  cases values with
  | nil => exact List.map_map
  | cons value rest => exact (List.map_map).trans (List.map_id _)

private theorem exists_given_of_missing {key flag : String} {given : Option Given}
    (present : missing key flag given = []) : ∃ setting, given = some setting := by
  cases given with
  | none => cases present
  | some setting => exact ⟨setting, rfl⟩

private theorem exists_given_of_packageProblems {package : Option Given}
    (valid : packageProblems package = []) : ∃ setting, package = some setting := by
  cases package with
  | none => cases valid
  | some setting => exact ⟨setting, rfl⟩

private theorem map_ok_filterMap {values : List String} {entries : List Entry}
    (compiled : (Given.chooseAll values entries (Given.ofEntry context)).filterMap
      (patternProblem? compiler) = []) :
    ((Given.chooseAll values entries (Given.ofEntry context)).filterMap
        (pattern? compiler)).map .ok = (patternsOf values entries).map compiler.read := by
  have compiles := compiles_filterMap compiler
    (Given.chooseAll values entries (Given.ofEntry context))
  rw [compiled] at compiles
  rw [compiles.map_read, ← values_chooseAll values entries context, List.map_map]
  rfl

/-- Settings without problems are all there. -/
theorem exists_valid_of_no_problems
    (fine : (merge config overrides context).problems compiler tree = []) :
    ∃ valid, (merge config overrides context).valid? compiler = some valid ∧
      Uses compiler context config overrides valid := by
  simp only [Merged.problems, List.append_eq_nil_iff] at fine
  obtain ⟨⟨⟨⟨⟨⟨schemas, output⟩, packaged⟩, -⟩, includes⟩, excludes⟩, -⟩ := fine
  obtain ⟨schemaDirectory, isSchema⟩ := exists_given_of_missing schemas
  obtain ⟨outputDirectory, isOutput⟩ := exists_given_of_missing output
  obtain ⟨package, isPackage⟩ := exists_given_of_packageProblems packaged
  rw [Merged.valid?, isSchema, isOutput, isPackage]
  refine ⟨_, rfl, ?_⟩
  constructor
  case schemaDirectory =>
    exact (congrArg (Option.map Given.value) isSchema).symm.trans (value_choose _ _ _)
  case outputRoot =>
    exact (congrArg (Option.map Given.value) isOutput).symm.trans (value_choose _ _ _)
  case package =>
    exact (congrArg (Option.map Given.value) isPackage).symm.trans (value_choose _ _ _)
  case included => exact map_ok_filterMap compiler context includes
  case excluded => exact map_ok_filterMap compiler context excludes
  case entities => rfl
  case mappers => rfl
  case removeOldOutput => rfl
  case entityTemplate => exact value_choose _ _ _
  case mapperTemplate => exact value_choose _ _ _

/-- Counting errors tells whether there are problems. -/
theorem validateInto_eq (reported : List Diagnostic) :
    config.validateInto compiler overrides context tree reported =
      (if (merge config overrides context).problems compiler tree = [] then
          (merge config overrides context).valid? compiler
        else none,
        reported ++
          ((merge config overrides context).problems compiler tree).map Problem.diagnostic) := by
  rw [validateInto]
  generalize (merge config overrides context).problems compiler tree = problems
  have errors : ∀ found ∈ problems.map Problem.diagnostic, found.severity = .error := by
    intro found member
    obtain ⟨problem, -, rfl⟩ := List.mem_map.mp member
    exact problem.reported_diagnostic.severity
  rw [Diagnostic.count_append, Diagnostic.count_eq_length errors, List.length_map]
  have more : Diagnostic.count .error reported <
      Diagnostic.count .error reported + problems.length ↔ problems ≠ [] := by
    rw [Nat.lt_add_right_iff_pos, List.length_pos_iff]
  by_cases fine : problems = []
  · rw [if_neg fun less => more.mp less fine, if_pos fine]
  · rw [if_pos (more.mpr fine), if_neg fine]

end Merged

/-- Validation reports every problem as an error, in order and nothing else, and has settings
exactly if there are no problems. -/
theorem validateInto_reports (compiler : Glob.Compiler) (config : Config) (overrides : Overrides)
    (context : Context) (tree : FileTree) (reported : List Diagnostic) :
    ∃ problems,
      (∀ found, Finds compiler tree context config overrides found ↔ found = problems) ∧
      (config.validateInto compiler overrides context tree reported).2 =
        reported ++ problems.map Problem.diagnostic ∧
      (∀ problem ∈ problems, problem.Reported problem.diagnostic) ∧
      ((config.validateInto compiler overrides context tree reported).1 = none ↔ problems ≠ []) ∧
      ∀ valid, (config.validateInto compiler overrides context tree reported).1 = some valid →
        Uses compiler context config overrides valid := by
  rw [validateInto_eq]
  have finds := finds_problems compiler config overrides context tree
  refine ⟨_, fun found => ⟨fun others => others.unique finds, ?_⟩, rfl,
    fun problem _ => problem.reported_diagnostic, ?_⟩
  · rintro rfl
    exact finds
  by_cases fine : (merge config overrides context).problems compiler tree = []
  · obtain ⟨valid, merged, uses⟩ :=
      exists_valid_of_no_problems compiler config overrides context tree fine
    rw [if_pos fine, merged]
    refine ⟨iff_of_false nofun (absurd fine), ?_⟩
    rintro _ ⟨⟩
    exact uses
  · rw [if_neg fine]
    exact ⟨iff_of_true rfl fine, nofun⟩

/-- A config whose directory, package and first pattern are wrong. -/
def faulty : Config :=
  { schemaDirectory := some ⟨"schema", ⟨10, 16⟩⟩
    included := [⟨"[", ⟨30, 31⟩⟩, ⟨"*.dxc", ⟨35, 40⟩⟩]
    package := some ⟨"com..example", ⟨60, 72⟩⟩ }

def equipped : FileTree :=
  { nodes := [(["schemas"], .directory)] }

def mending : Overrides :=
  { schemaDirectory := some "schemas", included := ["*.dxc"], outputDirectory := some "out"
    package := some "com.example" }

/-- The config with a wrong override, after something else was reported. -/
def faultyRun : Option Valid × List Diagnostic :=
  faulty.validateInto Glob.compiler { excluded := ["[a"] } ⟨some 0, "conf"⟩ equipped
    [Problem.diagnostic (.noSchemaFiles "old")]

def mendedRun : Option Valid × List Diagnostic :=
  faulty.validateInto Glob.compiler mending ⟨some 0, "conf"⟩ equipped []

theorem faulty_reported :
    faultyRun.1 = none ∧
      (faultyRun.2.map fun found => (found.code, found.labels.map (·.coord))) =
        [(some "empty-schema-list", []), (some "missing-setting", []),
          (some "invalid-package", [⟨0, 60, 72⟩]), (some "missing-schema-directory", [⟨0, 10, 16⟩]),
          (some "invalid-pattern", [⟨0, 30, 31⟩]), (some "invalid-pattern", [])] ∧
      ∃ valid, mendedRun.1 = some valid ∧
        Uses Glob.compiler ⟨some 0, "conf"⟩ faulty mending valid := by
  obtain ⟨problems, -, pushed, -, rejected, -⟩ :=
    validateInto_reports Glob.compiler faulty { excluded := ["[a"] } ⟨some 0, "conf"⟩ equipped
      [Problem.diagnostic (.noSchemaFiles "old")]
  have found : problems ≠ [] := by
    rintro rfl
    exact absurd (congrArg List.length pushed) (by decide +kernel)
  obtain ⟨-, -, -, -, -, uses⟩ :=
    validateInto_reports Glob.compiler faulty mending ⟨some 0, "conf"⟩ equipped []
  have accepted : mendedRun.1.isSome = true := by decide +kernel
  obtain ⟨valid, isValid⟩ := Option.isSome_iff_exists.mp accepted
  exact ⟨rejected.mpr found, by decide +kernel, valid, isValid, uses valid isValid⟩

end Config
end DirSchema
