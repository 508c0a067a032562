import DirSchema.CommandLine.Listing
import DirSchema.CommandLine.Starter
import DirSchema.CommandLine.Summary
import DirSchema.Config.File
import DirSchema.Config.Selection
set_option autoImplicit false

namespace DirSchema.CommandLine

open DirSchema.Source (Registry)

inductive Failure where
  | config (error : Config.LoadError)
  | invalidConfig
  | noSchemaFiles (directory : String)
  | compile (error : Output.CompileError)
  | schemaFile (error : Decoder.FileUnreadable)
  | pathExists (path : String)
  | notFile (path : String)
  | unwritable (failure : FileFailure)
deriving DecidableEq, Repr

def Failure.message : Failure → String
  | .config error => error.message
  | .invalidConfig => "the configuration is invalid"
  | .noSchemaFiles directory => Config.Problem.nothingSelected directory
  | .compile error => error.message
  | .schemaFile error => error.message
  | .pathExists path =>
    "unable to initialize config file '" ++ path ++ "', the path already exists"
  | .notFile path =>
    "unable to create a config file at '" ++ path ++ "', the path is not a file"
  | .unwritable failure => "unable to write config file: " ++ failure.message

/-- What a run leaves: the tree, what it has written, and the exit code. -/
structure Finished where
  tree : FileTree
  transcript : Transcript
  code : Nat
deriving DecidableEq

def currentDirectory (tree : FileTree) : String := "/" ++ String.intercalate "/" tree.base

namespace Arguments

def configPath (arguments : Arguments) (directory : String) : String :=
  Path.join directory (arguments.config.getD Config.defaultPath)

def overridesFrom (arguments : Arguments) (directory : String) : Config.Overrides :=
  let given := arguments.overrides
  let path (path : Option String) := path.map (Path.join directory)
  { given with
    schemaDirectory := path given.schemaDirectory
    outputDirectory := path given.outputDirectory
    entityTemplate := path given.entityTemplate
    mapperTemplate := path given.mapperTemplate }

end Arguments

/-- The schema files and settings of a run. -/
structure Job where
  files : List String
  settings : Output.Settings
deriving DecidableEq, Repr

structure Prepared where
  registry : Registry
  transcript : Transcript
  result : Except Failure Job

/-- The config of a run, and what its paths start from. The config file may be missing if it was not
named. -/
def readConfig (console : Console) (arguments : Arguments) (tree : FileTree) :
    Registry × Transcript × Except Config.LoadError (Config × Config.Context) :=
  let directory := currentDirectory tree
  let path := arguments.configPath directory
  if arguments.config.isSome || tree.pathExists path then
    let loaded := Config.load tree {} path
    let transcript :=
      console.logAll .info loaded.log ++ console.diagnostics loaded.registry loaded.diagnostics
    (loaded.registry, transcript,
      loaded.result.map fun source =>
        (source.config, { file := some source.file, baseDirectory := source.baseDirectory }))
  else
    let message := "no config found at '" ++ path ++ "', using command line settings"
    ({}, console.log .info message, .ok ({}, { baseDirectory := directory }))

/-- The schema files and settings of a run, if there are any, and what is reported about them. -/
def selectJob (config : Config) (overrides : Config.Overrides) (context : Config.Context)
    (tree : FileTree) : List Diagnostic × Except Failure Job :=
  match config.validateInto Glob.compiler overrides context tree [] with
  | (none, reported) => (reported, .error .invalidConfig)
  | (some valid, reported) =>
    match Config.schemaFilesInto valid tree reported with
    | (.error _, reported) => (reported, .error (.noSchemaFiles valid.schemaDirectory))
    | (.ok files, reported) => (reported, .ok { files, settings := valid.settings })

/-- Prepares a run: reads the config, adds the settings of the command line and selects the schema
files. -/
def prepare (console : Console) (arguments : Arguments) (tree : FileTree) : Prepared :=
  match readConfig console arguments tree with
  | (registry, transcript, .error error) =>
    { registry, transcript, result := .error (.config error) }
  | (registry, transcript, .ok (config, context)) =>
    let (found, result) :=
      selectJob config (arguments.overridesFrom (currentDirectory tree)) context tree
    { registry, transcript := transcript ++ console.diagnostics registry found, result }

def fail (console : Console) (tree : FileTree) (transcript : Transcript) (failure : Failure) :
    Finished :=
  { tree, transcript := transcript ++ console.log .error failure.message, code := 1 }

def skippedMessage (skipped : Output.Skipped) : String :=
  "skipped " ++ skipped.kind.name ++ " '" ++ skipped.className ++ "': " ++ skipped.reason

def writeArtifacts (console : Console) (arguments : Arguments) (verbose : Bool)
    (tree : FileTree) : Finished :=
  let prepared := prepare console arguments tree
  match prepared.result with
  | .error failure => fail console tree prepared.transcript failure
  | .ok job =>
    let compiled := Output.compile job.files job.settings tree prepared.registry
    let transcript :=
      prepared.transcript ++
        (if verbose then settingsTranscript console job.files job.settings else {}) ++
        console.logAll .info compiled.log ++
        console.diagnostics compiled.registry compiled.diagnostics
    match compiled.result with
    | .error error => fail console compiled.tree transcript (.compile error)
    | .ok report =>
      { tree := compiled.tree
        transcript :=
          transcript ++ console.logAll .warn (report.skipped.map skippedMessage) ++
            (Summary.ofReport report compiled.diagnostics).transcript console
        code := 0 }

def modelsOf (schema : Schema) (settings : Output.Settings) : List Model :=
  settings.enabledKinds.flatMap fun kind =>
    schema.objectClasses.map fun owner => Model.ofClass schema owner settings.package kind

def listingTranscript (console : Console) (listing : Listing) : Transcript :=
  match console.format with
  | .human => .concat (listing.lines.map Transcript.outLine)
  | .json => .outLine listing.datum.compact

/-- Prints the object classes of the schema files, or the models of their artifacts. -/
def printClasses (console : Console) (arguments : Arguments) (models : Bool) (tree : FileTree) :
    Finished :=
  let prepared := prepare console arguments tree
  match prepared.result with
  | .error failure => fail console tree prepared.transcript failure
  | .ok job =>
    let parsed := Decoder.decodeFiles tree prepared.registry job.files
    let transcript :=
      prepared.transcript ++ console.logAll .info parsed.log ++
        console.diagnostics parsed.registry parsed.diagnostics
    match parsed.result with
    | .error error => fail console tree transcript (.schemaFile error)
    | .ok schema =>
      let listed : Transcript :=
        if models then .outLine (Datum.list ((modelsOf schema job.settings).map Model.datum)).pretty
        else
          .concat <| schema.objectClasses.map fun owner =>
            listingTranscript console (Listing.ofClass schema owner)
      { tree, transcript := transcript ++ listed, code := 0 }

/-- Writes a config file to start from, where nothing stands yet. -/
def writeStarter (console : Console) (path : Option String) (tree : FileTree) : Finished :=
  let path := Path.join (currentDirectory tree) (path.getD Config.defaultPath)
  if tree.pathExists path then fail console tree {} (.pathExists path)
  else if (Path.fileName? path).isNone then fail console tree {} (.notFile path)
  else
    let transcript := console.log .info ("saving config file to '" ++ path ++ "'")
    match tree.writeText path Starter.text with
    | .error failure => fail console tree transcript (.unwritable failure)
    | .ok tree => { tree, transcript, code := 0 }

def Command.run (command : Command) (console : Console) (tree : FileTree) : Finished :=
  match command with
  | .generate arguments verbose => writeArtifacts console arguments verbose tree
  | .list arguments models => printClasses console arguments models tree
  | .init path => writeStarter console path tree

def usage : String :=
  String.intercalate "\n"
    ["usage: ldap-codegen [-L <level>] [-f human|json] [-c auto|always|never] <command>", "",
      "commands:",
      "  generate   compiles the configured schema files into entity and mapper sources",
      "  list       prints the object classes of the configured schema files",
      "  init       creates a config file to start from"]

def versionLine : String := "ldap-codegen 0.3.0"

def run (environment : Environment) (terminals : Terminals) (clock : Clock) (words : List String)
    (tree : FileTree) : Finished :=
  match Invocation.ofWords environment words with
  | .error .help => { tree, transcript := .outLine usage, code := 0 }
  | .error .version => { tree, transcript := .outLine versionLine, code := 0 }
  | .error .usage => { tree, transcript := .errLine usage, code := 2 }
  | .ok invocation =>
    invocation.command.run (Console.ofInvocation invocation terminals clock) tree

end DirSchema.CommandLine
