import DirSchema.Text.Basic
import DirSchema.Text.Words
set_option autoImplicit false

namespace DirSchema.Model

/-- The words of the generated language that a raw identifier may spell. -/
def keywords : List String :=
  ["abstract", "as", "async", "await", "become", "box", "break", "const", "continue", "do", "dyn",
    "else", "enum", "extern", "false", "final", "fn", "for", "gen", "if", "impl", "in", "let",
    "loop", "macro", "match", "mod", "move", "mut", "override", "priv", "pub", "ref", "return",
    "static", "struct", "trait", "true", "try", "type", "typeof", "unsafe", "unsized", "use",
    "virtual", "where", "while", "yield"]

/-- The words that may not even be spelled by a raw identifier. -/
def reservedWords : List String := ["self", "super", "crate", "_"]

def startsWithDigit (s : String) : Bool :=
  match s.toList with
  | c :: _ => c.isDigit
  | [] => false

/-- The field name of an attribute, taken by itself. -/
def fieldNameOf (name : String) : String :=
  let snake := Text.snakeCase name
  if reservedWords.contains snake then snake ++ "_"
  else if keywords.contains snake then "r#" ++ snake
  else if startsWithDigit snake then "_" ++ snake
  else snake

/-- The text without every mark of a raw identifier at its start. -/
def withoutRawMarks : List Char → List Char
  | 'r' :: '#' :: rest => withoutRawMarks rest
  | cs => cs

/-- What a number is appended to: the name without raw marks and without underscores at its end. -/
def numberedBase (name : String) : String :=
  String.ofList (Text.dropEndWhile (· == '_') (withoutRawMarks name.toList))

def numbered (base : String) (n : Nat) : String := base ++ "_" ++ Text.decimal n

/-- The name with the smallest number from two on that is not taken. Among one more numbers than
names are taken there is one. -/
def firstFree (taken : List String) (base : String) : String :=
  let candidates := (List.range (taken.length + 1)).map fun i => numbered base (i + 2)
  (candidates.find? fun name => !taken.contains name).getD base

/-- A field name that is not taken: the name itself, or the first free numbered one. -/
def distinctName (taken : List String) (name : String) : String :=
  if taken.contains name then firstFree taken (numberedBase name) else name

/-- Names made distinct from left to right, given those that are taken already. -/
def distinctNames (taken : List String) : List String → List String
  | [] => []
  | name :: rest =>
    let chosen := distinctName taken name
    chosen :: distinctNames (chosen :: taken) rest

/-- The field in which a subclass embeds its parent. -/
def parentField : String := "parent"

end DirSchema.Model
