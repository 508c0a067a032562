set_option autoImplicit false

namespace DirSchema.CommandLine

inductive Parameter where
  | help
  | version
  | logLevel
  | format
  | color
  | config
  | schemaDirectory
  | included
  | excluded
  | outputDirectory
  | package
  | entities
  | mappers
  | removeOldOutput
  | entityTemplate
  | mapperTemplate
  | verbose
  | models
deriving DecidableEq, Repr

namespace Parameter

def long : Parameter → String
  | .help => "help"
  | .version => "version"
  | .logLevel => "log-level"
  | .format => "format"
  | .color => "color"
  | .config => "config"
  | .schemaDirectory => "schema-dir"
  | .included => "include"
  | .excluded => "exclude"
  | .outputDirectory => "output-dir"
  | .package => "package"
  | .entities => "entities"
  | .mappers => "mappers"
  | .removeOldOutput => "remove-old-output"
  | .entityTemplate => "entity-template"
  | .mapperTemplate => "mapper-template"
  | .verbose => "verbose"
  | .models => "models"

def short? : Parameter → Option Char
  | .help => some 'h'
  | .version => some 'V'
  | .logLevel => some 'L'
  | .format => some 'f'
  | .color | .config => some 'c'
  | .verbose => some 'v'
  | _ => none

def takesValue : Parameter → Bool
  | .help | .version | .verbose | .models => false
  | _ => true

def isList : Parameter → Bool
  | .included | .excluded => true
  | _ => false

/-- The variable of the environment that stands for a parameter that is not given. -/
def environmentName? : Parameter → Option String
  | .color => some "LDAP_CODEGEN_COLOR"
  | .config => some "LDAP_CODEGEN_CONFIG"
  | .schemaDirectory => some "LDAP_CODEGEN_SCHEMA_DIR"
  | .outputDirectory => some "LDAP_CODEGEN_OUTPUT_DIR"
  | .package => some "LDAP_CODEGEN_PACKAGE"
  | .entities => some "LDAP_CODEGEN_ENTITIES"
  | .mappers => some "LDAP_CODEGEN_MAPPERS"
  | .removeOldOutput => some "LDAP_CODEGEN_REMOVE_OLD_OUTPUT"
  | .entityTemplate => some "LDAP_CODEGEN_ENTITY_TEMPLATE"
  | .mapperTemplate => some "LDAP_CODEGEN_MAPPER_TEMPLATE"
  | _ => none

def ofProgram : List Parameter := [.help, .version, .logLevel, .format, .color]

def ofReading : List Parameter :=
  [.help, .config, .schemaDirectory, .included, .excluded, .outputDirectory, .package, .entities,
    .mappers, .removeOldOutput, .entityTemplate, .mapperTemplate]

end Parameter

inductive Refusal where
  | usage
  | help
  | version
deriving DecidableEq, Repr

/-- What has been found in words. Parameters without a value have an empty one. -/
structure Found where
  given : List (Parameter × String) := []
  plain : List String := []
  /-- The name of a command, and the words after it. -/
  command : Option (String × List String) := none
deriving DecidableEq, Repr

def isDashed (word : String) : Bool :=
  match word.toList with
  | '-' :: _ :: _ => true
  | _ => false

def Refusal.of? : Parameter → Option Refusal
  | .help => some .help
  | .version => some .version
  | _ => none

/-- The parameters of letters after one dash. The last of them may need the next word as its
value. -/
def lettersOf (known : List Parameter) :
    List Char → Except Refusal (List (Parameter × String) × Option Parameter)
  | [] => .ok ([], none)
  | c :: cs =>
    match known.find? fun parameter => parameter.short? == some c with
    | none => .error .usage
    | some parameter =>
      match Refusal.of? parameter, cs with
      | some refusal, _ => .error refusal
      | none, [] =>
        if parameter.takesValue then .ok ([], some parameter) else .ok ([(parameter, "")], none)
      | none, next :: rest =>
        if parameter.takesValue then
          .ok ([(parameter, String.ofList (if next = '=' then rest else next :: rest))], none)
        else
          (lettersOf known (next :: rest)).map fun (given, open?) =>
            ((parameter, "") :: given, open?)

/-- A name and the value after an equals sign. -/
def splitEquals : List Char → List Char × Option (List Char)
  | [] => ([], none)
  | c :: cs =>
    if c = '=' then ([], some cs)
    else
      let (name, value) := splitEquals cs
      (c :: name, value)

/-- The parameter of a word after two dashes, which may need the next word as its value. -/
def nameOf (known : List Parameter) (cs : List Char) :
    Except Refusal (List (Parameter × String) × Option Parameter) :=
  let (name, value) := splitEquals cs
  match known.find? fun parameter => parameter.long == String.ofList name with
  | none => .error .usage
  | some parameter =>
    match value, parameter.takesValue with
    | some value, true => .ok ([(parameter, String.ofList value)], none)
    | some _, false => .error .usage
    | none, true => .ok ([], some parameter)
    | none, false =>
      match Refusal.of? parameter with
      | some refusal => .error refusal
      | none => .ok ([(parameter, "")], none)

/-- Finds known parameters in words, the first of which is the value of `open?` if there is such a
parameter. Where commands are looked for, the first plain word is one. -/
def find (known : List Parameter) (commands : Bool) (open? : Option Parameter) :
    List String → Except Refusal Found
  | [] => if open?.isSome then .error .usage else .ok {}
  | word :: rest =>
    match open? with
    | some parameter =>
      if isDashed word then .error .usage
      else
        (find known commands none rest).map fun found =>
          { found with given := (parameter, word) :: found.given }
    | none =>
      if word = "--" then .ok { plain := rest }
      else if isDashed word then
        let letters :=
          match word.toList with
          | '-' :: '-' :: name => nameOf known name
          | letters => lettersOf known (letters.drop 1)
        match letters with
        | .error refusal => .error refusal
        | .ok (given, open?) =>
          (find known commands open? rest).map fun found =>
            { found with given := given ++ found.given }
      else if commands then .ok { command := some (word, rest) }
      else
        (find known commands none rest).map fun found =>
          { found with plain := word :: found.plain }

end DirSchema.CommandLine
