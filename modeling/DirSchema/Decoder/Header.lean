import DirSchema.Text.Basic
set_option autoImplicit false

namespace DirSchema.Decoder

/-- The two spellings of a binding's kind. -/
inductive BindingKind where
  | schemaBinding
  | nameBinding
deriving DecidableEq, Repr

inductive BlockKind where
  | attr
  | objectClass
  | binding (kind : BindingKind)
deriving DecidableEq, Repr

namespace BlockKind

def word : BlockKind → String
  | .attr => "attribute"
  | .objectClass => "object-class"
  | .binding .schemaBinding => "schema-binding"
  | .binding .nameBinding => "name-binding"

def all : List BlockKind :=
  [.attr, .objectClass, .binding .schemaBinding, .binding .nameBinding]

def ofWord? (word : List Char) : Option BlockKind :=
  all.find? fun kind => kind.word.toList == word

end BlockKind

/-- How a header goes on after its line. -/
inductive Opening where
  | opened
  | awaitingBrace
  | statement
deriving DecidableEq, Repr

/-- A header: the kind of its block, none for kinds that are not decoded, and how it goes on. -/
structure Header where
  kind : Option BlockKind
  opening : Opening
deriving DecidableEq, Repr

namespace Header

/-- What follows the word `set` and white space. -/
def afterSet? (line : List Char) : Option (List Char) :=
  match Text.afterStart? ['s', 'e', 't'] line with
  | some (c :: rest) => if Text.isBlank c then some (Text.trimStart rest) else none
  | _ => none

/-- How the text after `set` goes on, and the text without an opening brace at its end. -/
def openingOf (rest : List Char) : Opening × List Char :=
  match Text.beforeLast? '\x7b' rest with
  | some inner => (.opened, inner)
  | none => if Text.endsWith ';' rest then (.statement, rest) else (.awaitingBrace, rest)

/-- The header on a line, if there is one; the word for the kind is what it cannot lack. -/
def ofLine? (line : List Char) : Option Header := do
  let (opening, rest) := openingOf (← afterSet? line)
  let word ← Text.firstWord? rest
  return { kind := BlockKind.ofWord? word, opening }

end Header

def isBlockEnd (line : List Char) : Bool := line == ['\x7d'] || line == ['\x7d', ';']

/-- Whether a line opens a nested level of a skipped block. -/
def opensLevel (line : List Char) : Bool := Text.endsWith '\x7b' line

def isBrace (line : List Char) : Bool := line == ['\x7b']

end DirSchema.Decoder
