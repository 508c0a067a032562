import DirSchema.Decoder.Basic
import DirSchema.Proofs.Source.Placement
set_option autoImplicit false

/-!
The canonical form of declarations. Each is a block: its header, one line for each field that is
present, always in the same order, and its end.
-/
namespace DirSchema.Decoder.Canonical

open DirSchema.Source (Line)

/-- A character that neither ends a word of a line nor has a meaning of its own. -/
def isNameChar (c : Char) : Bool :=
  !Text.isBlank c && !(['=', ',', ';', '\x7b', '\x7d', '#'].contains c)

/-- What can be written as a name or as a reference to one. -/
def IsName (name : String) : Prop :=
  name.toList ≠ [] ∧ ∀ c ∈ name.toList, isNameChar c = true

instance (name : String) : Decidable (IsName name) :=
  decidable_of_iff (name.toList ≠ [] ∧ name.toList.all isNameChar = true)
    (by rw [IsName, List.all_eq_true])

/-- What can be written as the value of an entry. -/
def IsValue (value : String) : Prop :=
  value.toList ≠ [] ∧ Text.trim value.toList = value.toList ∧ '\n' ∉ value.toList ∧
    ∀ c ∈ value.toList.getLast?, isTerminator c = false

instance (value : String) : Decidable (IsValue value) :=
  decidable_of_iff
    (value.toList ≠ [] ∧ Text.trim value.toList = value.toList ∧ '\n' ∉ value.toList ∧
      value.toList.getLast?.all (fun c => !isTerminator c) = true)
    (by simp [IsValue, Option.all_eq_true])

def assignment (key value : String) : List Char := key.toList ++ ' ' :: '=' :: ' ' :: value.toList

def listing (key : String) (names : List String) : List Char :=
  key.toList ++ ' ' :: List.intercalate [',', ' '] (names.map String.toList)

/-- The lines of a field that may be absent. -/
def optional (key : String) : Option String → List (List Char)
  | some value => [assignment key value]
  | none => []

def names (key : String) : List String → List (List Char)
  | [] => []
  | first :: rest => [listing key (first :: rest)]

/-- The line that says how many values an attribute has, if that is said. -/
def flag : Option Bool → List (List Char)
  | some true => ["multi-valued".toList]
  | some false => ["single-valued".toList]
  | none => []

/-- An attribute as it is declared. The unspecified syntax is the one that is not written. -/
structure AttributeBlock where
  name : String
  alternateNames : Option String := none
  valueSyntax : ValueSyntax := .unspecified
  multiValued : Option Bool := none
deriving DecidableEq, Repr

namespace AttributeBlock

def body (block : AttributeBlock) : List (List Char) :=
  [assignment "name" block.name] ++ optional "ldap-names" block.alternateNames ++
    (if block.valueSyntax = .unspecified then []
      else [assignment "syntax" block.valueSyntax.name]) ++
    flag block.multiValued

def attr (block : AttributeBlock) (origin : Coord) : Attribute :=
  { name := block.name
    alternateNames := block.alternateNames
    valueSyntax := block.valueSyntax
    multiValued := block.multiValued.getD true
    origin := some origin }

/-- Whether every field can be written. -/
def WellFormed (block : AttributeBlock) : Prop :=
  IsName block.name ∧ ∀ value ∈ block.alternateNames, IsValue value

end AttributeBlock

/-- A class as it is declared, with its lists as they are written. -/
structure ClassBlock where
  name : String
  alternateNames : Option String := none
  subclassOf : Option String := none
  kind : Option String := none
  required : List String := []
  optional : List String := []
deriving DecidableEq, Repr

namespace ClassBlock

def body (block : ClassBlock) : List (List Char) :=
  [assignment "name" block.name] ++ Canonical.optional "ldap-names" block.alternateNames ++
    Canonical.optional "subclass-of" block.subclassOf ++ Canonical.optional "kind" block.kind ++
    names "must-contain" block.required ++ names "may-contain" block.optional

/-- The class that is declared: of a name that is listed twice only the first is kept. -/
def objectClass (block : ClassBlock) (origin : Coord) : ObjectClass :=
  { name := block.name
    alternateNames := block.alternateNames
    subclassOf := block.subclassOf
    kind := block.kind
    requiredNames := block.required.eraseDups
    optionalNames := block.optional.eraseDups
    origin := some origin }

def WellFormed (block : ClassBlock) : Prop :=
  IsName block.name ∧ (∀ value ∈ block.alternateNames, IsValue value) ∧
    (∀ name ∈ block.subclassOf, IsName name) ∧ (∀ value ∈ block.kind, IsValue value) ∧
    (∀ name ∈ block.required, IsName name) ∧ ∀ name ∈ block.optional, IsName name

end ClassBlock

structure BindingBlock where
  kind : BindingKind
  name : Option String := none
  ldapName : String
  allowableParent : String
  namedBy : String
deriving DecidableEq, Repr

namespace BindingBlock

def body (block : BindingBlock) : List (List Char) :=
  optional "name" block.name ++
    [assignment "ldap-name" block.ldapName,
      assignment "allowable-parent" block.allowableParent,
      assignment "named-by" block.namedBy]

/-- The binding that is declared, which has the name of its class if it is given none. -/
def binding (block : BindingBlock) (origin : Coord) : Binding :=
  { bindingName := block.name.getD block.ldapName
    ldapName := block.ldapName
    allowableParent := block.allowableParent
    namedBy := block.namedBy
    origin := some origin }

def WellFormed (block : BindingBlock) : Prop :=
  (∀ name ∈ block.name, IsName name) ∧ IsName block.ldapName ∧ IsName block.allowableParent ∧
    IsName block.namedBy

end BindingBlock

inductive Block where
  | attr (block : AttributeBlock)
  | objectClass (block : ClassBlock)
  | binding (block : BindingBlock)
deriving DecidableEq, Repr

namespace Block

def kind : Block → BlockKind
  | .attr _ => .attr
  | .objectClass _ => .objectClass
  | .binding block => .binding block.kind

def identifier : Block → String
  | .attr block => block.name
  | .objectClass block => block.name
  | .binding block => block.name.getD block.ldapName

def body : Block → List (List Char)
  | .attr block => block.body
  | .objectClass block => block.body
  | .binding block => block.body

def WellFormed : Block → Prop
  | .attr block => block.WellFormed
  | .objectClass block => block.WellFormed
  | .binding block => block.WellFormed

def declaration (origin : Coord) : Block → Declaration
  | .attr block => .attr (block.attr origin)
  | .objectClass block => .objectClass (block.objectClass origin)
  | .binding block => .binding (block.binding origin)

def header (block : Block) : List Char :=
  ['s', 'e', 't'] ++ ' ' :: (block.kind.word.toList ++
    ' ' :: (block.identifier.toList ++ [' ', '=', ' '])) ++ ['\x7b']

def lines (block : Block) : List (List Char) := block.header :: (block.body ++ [['\x7d', ';']])

end Block

/-- The text of declarations, written one below the other. -/
def print (blocks : List Block) : String :=
  String.ofList (Line.written (blocks.flatMap Block.lines))

/-- What the declarations of such a text are if its first header starts at byte `offset`. -/
def declared (file offset : Nat) : List Block → List Declaration
  | [] => []
  | block :: rest =>
    block.declaration
        { file, start := offset, stop := offset + Text.byteLength block.header } ::
      declared file (offset + Text.byteLength (Line.written block.lines)) rest

end DirSchema.Decoder.Canonical
