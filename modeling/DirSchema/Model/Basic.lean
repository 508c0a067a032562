import DirSchema.Datum.Basic
import DirSchema.Model.FieldName
import DirSchema.Schema.Basic
set_option autoImplicit false

namespace DirSchema

inductive ArtifactKind where
  | entity
  | mapper
deriving DecidableEq, Repr, Inhabited

namespace ArtifactKind

/-- Both kinds, in the order in which they are generated. -/
def all : List ArtifactKind := [.entity, .mapper]

def name : ArtifactKind → String
  | .entity => "entity"
  | .mapper => "mapper"

def ofName? (text : String) : Option ArtifactKind := all.find? fun kind => kind.name == text

/-- The last segment of the package that artifacts of a kind are placed in. -/
def subpackage : ArtifactKind → String
  | .entity => "types"
  | .mapper => "mappers"

/-- What is appended to a class name to name the artifact. -/
def classSuffix : ArtifactKind → String
  | .entity => ""
  | .mapper => "Mapper"

end ArtifactKind

namespace Model

/-- An attribute as a field of generated code. -/
structure Field where
  name : String
  fieldIdentifier : String
  fieldName : String
  alternateNames : Option String
  valueSyntax : String
  multiValued : Bool
  valueKind : String
  valueType : String
deriving DecidableEq, Repr

/-- A class as generated code sees it. -/
structure ClassView where
  name : String
  alternateNames : Option String
  subclassOf : Option String
  kind : Option String
  required : List Field
  optional : List Field
deriving DecidableEq, Repr

def Field.ofAttribute (attr : Attribute) : Field :=
  { name := attr.name
    fieldIdentifier := attr.fieldIdentifier
    fieldName := fieldNameOf attr.name
    alternateNames := attr.alternateNames
    valueSyntax := attr.valueSyntax.name
    multiValued := attr.multiValued
    valueKind := attr.valueSyntax.kind.name
    valueType := attr.valueType.typeName }

def Field.rename : List Field → List String → List Field
  | field :: fields, name :: names => { field with fieldName := name } :: rename fields names
  | fields, _ => fields

/-- The fields of a class with distinct names, those of required attributes chosen first. A subclass
leaves the name of the parent field free. -/
def ClassView.withDistinctFields (view : ClassView) (hasParent : Bool) : ClassView :=
  let taken := if hasParent then [parentField] else []
  let names := distinctNames taken ((view.required ++ view.optional).map (·.fieldName))
  { view with
    required := Field.rename view.required names
    optional := Field.rename view.optional (names.drop view.required.length) }

end Model

/-- The model of a class for one kind of artifact. -/
structure Model where
  objectClass : Model.ClassView
  childObjectClasses : List String
  rdnAttribute : Option Model.Field
  package : String
  entityPackage : String
  className : String
  parentClassName : Option String
deriving DecidableEq, Repr

namespace Model

def packageOf (package : String) (kind : ArtifactKind) : String := package ++ "." ++ kind.subpackage

def classNameOf (kind : ArtifactKind) (name : String) : String :=
  Text.capitalize name ++ kind.classSuffix

/-- The classes whose entries may be created below those of a class, each once, in the order of
their bindings. -/
def childrenOf (schema : Schema) (name : String) : List String :=
  (schema.bindings.filter fun (_, binding) => Text.sameName binding.allowableParent name).foldl
    (fun children (_, binding) =>
      insertName children (schema.declaredClassName binding.ldapName)) []

/-- The attribute that names entries of a class, if the class is bound to one that is registered. -/
def namingAttribute? (schema : Schema) (name : String) : Option Attribute :=
  (schema.bindingFor? name).bind fun binding => (schema.attribute? binding.namedBy).map (·.attr)

def fieldsOf (links : List Instance) : List Field :=
  links.map fun linked => Field.ofAttribute linked.attr

def ofClass (schema : Schema) (owner : ObjectClass) (package : String) (kind : ArtifactKind) :
    Model :=
  let view : ClassView :=
    { name := owner.name
      alternateNames := owner.alternateNames
      subclassOf := owner.subclassOf
      kind := owner.kind
      required := fieldsOf owner.required
      optional := fieldsOf owner.optional }
  { objectClass := view.withDistinctFields owner.subclassOf.isSome
    childObjectClasses := childrenOf schema owner.name
    rdnAttribute := (namingAttribute? schema owner.name).map Field.ofAttribute
    package := packageOf package kind
    entityPackage := packageOf package .entity
    className := classNameOf kind owner.name
    parentClassName :=
      owner.subclassOf.map fun parent => classNameOf kind (schema.declaredClassName parent) }

def Field.datum (field : Field) : Datum :=
  .record
    [("name", .text field.name), ("fieldIdentifier", .text field.fieldIdentifier),
      ("fieldName", .text field.fieldName), ("alternateNames", .ofText? field.alternateNames),
      ("syntax", .text field.valueSyntax), ("multiValued", .bool field.multiValued),
      ("valueKind", .text field.valueKind), ("valueType", .text field.valueType)]

def ClassView.datum (view : ClassView) : Datum :=
  .record
    [("name", .text view.name), ("alternateNames", .ofText? view.alternateNames),
      ("subclassOf", .ofText? view.subclassOf), ("kind", .ofText? view.kind),
      ("requiredAttributes", .list (view.required.map Field.datum)),
      ("optionalAttributes", .list (view.optional.map Field.datum))]

def datum (model : Model) : Datum :=
  .record
    [("objectClass", model.objectClass.datum),
      ("childObjectClasses", Datum.texts model.childObjectClasses),
      ("rdnAttribute", (model.rdnAttribute.map Field.datum).getD .null),
      ("package", .text model.package), ("entityPackage", .text model.entityPackage),
      ("className", .text model.className), ("parentClassName", .ofText? model.parentClassName)]

end Model
end DirSchema
