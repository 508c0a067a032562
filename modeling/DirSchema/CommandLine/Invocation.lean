import DirSchema.CommandLine.Parameter
import DirSchema.Config.Basic
import DirSchema.Path
import DirSchema.Text.Fold
set_option autoImplicit false

namespace DirSchema.CommandLine

inductive LogLevel where
  | off
  | error
  | warn
  | info
  | debug
  | trace
deriving DecidableEq, Repr

namespace LogLevel

def name : LogLevel → String
  | .off => "OFF"
  | .error => "ERROR"
  | .warn => "WARN"
  | .info => "INFO"
  | .debug => "DEBUG"
  | .trace => "TRACE"

def all : List LogLevel := [.off, .error, .warn, .info, .debug, .trace]

def rank : LogLevel → Nat
  | .off => 0
  | .error => 1
  | .warn => 2
  | .info => 3
  | .debug => 4
  | .trace => 5

/-- The level with a name, in letters of any case. -/
def ofName? (text : String) : Option LogLevel :=
  all.find? fun level => Text.fold level.name == Text.fold text

end LogLevel

/-- For whom the program writes. -/
inductive Format where
  | human
  | json
deriving DecidableEq, Repr

def Format.ofName? : String → Option Format
  | "human" => some .human
  | "json" => some .json
  | _ => none

inductive ColorChoice where
  | auto
  | always
  | never
deriving DecidableEq, Repr

namespace ColorChoice

def ofName? : String → Option ColorChoice
  | "auto" => some .auto
  | "always" => some .always
  | "never" => some .never
  | _ => none

/-- Whether colors are written to a stream, which may be a terminal. -/
def applies (choice : ColorChoice) (terminal : Bool) : Bool :=
  match choice with
  | .auto => terminal
  | .always => true
  | .never => false

end ColorChoice

/-- The settings of commands that read schemas. Paths are as they were given. -/
structure Arguments where
  config : Option String := none
  overrides : Config.Overrides := {}
deriving DecidableEq, Repr

inductive Command where
  /-- Writes the artifacts of the schema files. -/
  | generate (arguments : Arguments) (verbose : Bool)
  /-- Prints the object classes of the schema files. -/
  | list (arguments : Arguments) (models : Bool)
  /-- Writes a config file to start from. -/
  | init (path : Option String)
deriving DecidableEq, Repr

structure Invocation where
  level : LogLevel := .warn
  format : Format := .human
  color : ColorChoice := .auto
  command : Command
deriving DecidableEq, Repr

abbrev Environment : Type := List (String × String)

namespace Found

def values (found : Found) (parameter : Parameter) : List String :=
  (found.given.filter fun entry => entry.1 == parameter).map (·.2)

/-- Whether every parameter that is no list is given at most once. -/
def isDistinct (found : Found) : Bool :=
  found.given.all fun entry => entry.1.isList || (found.values entry.1).length ≤ 1

def has (found : Found) (parameter : Parameter) : Bool := !(found.values parameter).isEmpty

/-- The value of a parameter, or else of its variable. -/
def value? (found : Found) (environment : Environment) (parameter : Parameter) : Option String :=
  (found.values parameter).head?.or
    (parameter.environmentName?.bind fun name => List.lookup name environment)

def items (found : Found) (parameter : Parameter) : List String :=
  (found.values parameter).flatMap fun value =>
    (Text.fields (· == ',') value.toList).map String.ofList

def read {α : Type} (found : Found) (environment : Environment) (parameter : Parameter)
    (ofText? : String → Option α) : Except Refusal (Option α) :=
  match found.value? environment parameter with
  | none => .ok none
  | some text =>
    match ofText? text with
    | some value => .ok (some value)
    | none => .error .usage

end Found

def boolOfName? : String → Option Bool
  | "true" => some true
  | "false" => some false
  | _ => none

def Arguments.ofFound (found : Found) (environment : Environment) : Except Refusal Arguments := do
  let text (parameter : Parameter) : Option String := found.value? environment parameter
  let flag (parameter : Parameter) := found.read environment parameter boolOfName?
  let entities ← flag .entities
  let mappers ← flag .mappers
  let removeOldOutput ← flag .removeOldOutput
  return {
    config := text .config
    overrides := {
      schemaDirectory := text .schemaDirectory
      included := found.items .included
      excluded := found.items .excluded
      outputDirectory := text .outputDirectory
      package := text .package
      entities
      mappers
      removeOldOutput
      entityTemplate := text .entityTemplate
      mapperTemplate := text .mapperTemplate } }

def findDistinct (known : List Parameter) (words : List String) : Except Refusal Found :=
  match find known false none words with
  | .error refusal => .error refusal
  | .ok found => if found.isDistinct then .ok found else .error .usage

/-- Whether there is help about words: the program as a whole, or one of its commands. -/
def isHelpTopic : List String → Bool
  | [] => true
  | [topic] => ["generate", "list", "init", "help"].contains topic
  | _ => false

def Command.ofWords (environment : Environment) (name : String) (words : List String) :
    Except Refusal Command :=
  let reading (extra : Parameter) (make : Arguments → Bool → Command) : Except Refusal Command :=
    match findDistinct (extra :: Parameter.ofReading) words with
    | .error refusal => .error refusal
    | .ok found =>
      if !found.plain.isEmpty then .error .usage
      else
        (Arguments.ofFound found environment).map fun arguments => make arguments (found.has extra)
  match name with
  | "generate" => reading .verbose .generate
  | "list" => reading .models .list
  | "init" =>
    match findDistinct [.help] words with
    | .error refusal => .error refusal
    | .ok found =>
      match found.plain with
      | [] => .ok (.init none)
      | [path] => .ok (.init (some path))
      | _ => .error .usage
  | "help" => .error (if isHelpTopic words then .help else .usage)
  | _ => .error .usage

def Invocation.ofWords (environment : Environment) (words : List String) :
    Except Refusal Invocation := do
  let found ← find Parameter.ofProgram true none words
  match found.command with
  | none => .error .usage
  | some (name, rest) =>
    let command ← Command.ofWords environment name rest
    if !found.isDistinct then .error .usage
    let level ← found.read environment .logLevel LogLevel.ofName?
    let format ← found.read environment .format Format.ofName?
    let color ← found.read environment .color ColorChoice.ofName?
    return {
      level := level.getD .warn
      format := format.getD .human
      color := color.getD .auto
      command }

end DirSchema.CommandLine
