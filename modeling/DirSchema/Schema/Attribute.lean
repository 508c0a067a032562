import DirSchema.Source.Coord
import DirSchema.Text.Casing
import DirSchema.Text.Fold
set_option autoImplicit false

namespace DirSchema

inductive ValueKind where
  | text
  | bytes
  | object
deriving DecidableEq, Repr, Inhabited

namespace ValueKind

def name : ValueKind → String
  | .text => "text"
  | .bytes => "bytes"
  | .object => "object"

def typeName : ValueKind → String
  | .text => "String"
  | .bytes => "Vec<u8>"
  | .object => "AttributeValue"

end ValueKind

/-- The type of an attribute: one value of a kind, or a sequence of them. -/
structure ValueType where
  kind : ValueKind
  sequence : Bool
deriving DecidableEq, Repr, Inhabited

def ValueType.typeName (type : ValueType) : String :=
  if type.sequence then "Vec<" ++ type.kind.typeName ++ ">" else type.kind.typeName

/-- The syntaxes that a value can be declared with. A value of a syntax that is not known is
`unspecified`, which cannot be declared itself. -/
inductive ValueSyntax where
  | caseExactString
  | caseIgnoreString
  | distinguishedName
  | octetString
  | binary
  | generalizedTime
  | integer
  | boolean
  | jpeg
  | unspecified
deriving DecidableEq, Repr, Inhabited

namespace ValueSyntax

def name : ValueSyntax → String
  | .caseExactString => "caseExactString"
  | .caseIgnoreString => "caseIgnoreString"
  | .distinguishedName => "distinguishedName"
  | .octetString => "octetString"
  | .binary => "binary"
  | .generalizedTime => "generalizedTime"
  | .integer => "integer"
  | .boolean => "boolean"
  | .jpeg => "jpeg"
  | .unspecified => "unspecified"

def declarable : List ValueSyntax :=
  [.caseExactString, .caseIgnoreString, .distinguishedName, .octetString, .binary,
    .generalizedTime, .integer, .boolean, .jpeg]

/-- The syntax with a name, in any ASCII case; octet strings have a second name. -/
def ofName? (text : String) : Option ValueSyntax :=
  if Text.sameName text "octetStringMatch" then some .octetString
  else declarable.find? fun known => Text.sameName text known.name

def kind : ValueSyntax → ValueKind
  | .caseExactString | .caseIgnoreString | .distinguishedName => .text
  | .octetString | .binary => .bytes
  | .generalizedTime | .integer | .boolean | .jpeg | .unspecified => .object

end ValueSyntax

/-- An attribute. One without an origin was not declared in a file. -/
structure Attribute where
  name : String
  alternateNames : Option String := none
  valueSyntax : ValueSyntax := .unspecified
  multiValued : Bool := true
  origin : Option Coord := none
deriving DecidableEq, Repr, Inhabited

namespace Attribute

/-- The attribute that stands in for a name which is referenced and never declared. -/
def synthesized (reference : String) : Attribute :=
  { name := reference
    alternateNames := some reference
    valueSyntax := .caseIgnoreString
    multiValued := false }

def key (attr : Attribute) : String := Text.fold attr.name

def valueType (attr : Attribute) : ValueType :=
  { kind := attr.valueSyntax.kind, sequence := attr.multiValued }

/-- The name with hyphens replaced by underscores and its first character in lower case. -/
def fieldIdentifier (attr : Attribute) : String :=
  match attr.name.toList.map (fun c => if c = '-' then '_' else c) with
  | [] => ""
  | first :: rest => String.ofList (Text.toLowercase first ++ rest)

end Attribute
end DirSchema
