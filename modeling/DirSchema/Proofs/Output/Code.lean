import DirSchema.Model.Basic
import DirSchema.Template.Helper
set_option autoImplicit false

namespace DirSchema.Output.Code

structure Declared where
  comment : String
  name : String
  type : String
deriving DecidableEq, Repr

/-- What a field is read from and written to: the entity of the parent, which another mapper takes
care of, or an attribute of the entry. -/
inductive Counterpart where
  | parent (mapper : String)
  | required (attr : String)
  | optional (attr : String)
deriving DecidableEq, Repr

/-- A field that a mapper takes care of. -/
structure Mapped where
  field : String
  counterpart : Counterpart
deriving DecidableEq, Repr

/-- The code of an entity. `siblings` are the entities that it imports. -/
structure Entity where
  package : String
  objectClass : String
  siblings : List String
  name : String
  fields : List Declared
  parentClass : Option String
  childClasses : List String
  namingAttribute : Option String
deriving DecidableEq, Repr

/-- The code of a mapper. It imports an entity, declares one as the type it maps and constructs one;
`siblings` are the mappers that it imports. -/
structure Mapper where
  package : String
  objectClass : String
  imported : String × String
  siblings : List String
  name : String
  mapped : String
  namingAttribute : Option String
  constructed : String
  fromEntry : List Mapped
  toEntry : List Mapped
deriving DecidableEq, Repr

def quoted (text : String) : String := String.join ["\"", text, "\""]

def optional (text : Option String) : String :=
  match text with
  | some text => String.join ["Some(", quoted text, ")"]
  | none => "None"

def optionOf (type : String) : String := String.join ["Option<", type, ">"]

def heading (package objectClass : String) : String :=
  String.join ["// Generated by ldap-codegen into `", package, "` from the `", objectClass,
    "` object class, do not edit.\n"]

def importLine (name : String) : String := String.join ["use super::", name, ";\n"]

def classLine (objectClass : String) : String :=
  String.join ["    const OBJECT_CLASS: &'static str = ", quoted objectClass, ";\n"]

/-- The constant that holds the attribute which names entries. -/
def namingLine (attr : Option String) : String :=
  String.join ["    const RDN_ATTRIBUTE: Option<&'static str> = ", optional attr, ";\n"]

def Declared.text (field : Declared) : String :=
  String.join ["    /// ", field.comment, "\n    pub ", field.name, ": ", field.type, ",\n"]

/-- The line that gives a field its value. -/
def Mapped.initialiser (mapped : Mapped) : String :=
  let value :=
    match mapped.counterpart with
    | .parent mapper => String.join [mapper, "::from_entry(entry)?"]
    | .required attr => String.join ["entry.required(", quoted attr, ")?"]
    | .optional attr => String.join ["entry.optional(", quoted attr, ")?"]
  String.join ["            ", mapped.field, ": ", value, ",\n"]

/-- The line that writes the value of a field. -/
def Mapped.statement (mapped : Mapped) : String :=
  let call :=
    match mapped.counterpart with
    | .parent mapper => String.join [mapper, "::to_entry(&entity.", mapped.field, ", entry)"]
    | .required attr =>
      String.join ["entry.set(", quoted attr, ", &entity.", mapped.field, ")"]
    | .optional attr =>
      String.join ["entry.set_optional(", quoted attr, ", entity.", mapped.field, ".as_ref())"]
  String.join ["        ", call, ";\n"]

def Entity.text (code : Entity) : String :=
  String.join [
    heading code.package code.objectClass,
    "#[allow(unused_imports)]\n",
    "use crate::runtime::\x7bAttributeValue, Entity\x7d;\n",
    String.join (code.siblings.map importLine),
    "\n",
    "/// An entry of the `", code.objectClass, "` object class\n",
    "#[derive(Clone, Debug, PartialEq)]\n",
    "pub struct ", code.name, " \x7b\n",
    String.join (code.fields.map Declared.text),
    "\x7d\n",
    "\n",
    "impl Entity for ", code.name, " \x7b\n",
    classLine code.objectClass,
    "    const PARENT_CLASS: Option<&'static str> = ", optional code.parentClass, ";\n",
    "    const CHILD_CLASSES: &'static [&'static str] = &[",
    String.intercalate ", " (code.childClasses.map quoted), "];\n",
    namingLine code.namingAttribute,
    "\x7d\n"]

def Mapper.text (code : Mapper) : String :=
  String.join [
    heading code.package code.objectClass,
    "use super::super::", code.imported.1, "::", code.imported.2, ";\n",
    "use crate::runtime::\x7bEntry, EntryMapper, MappingError\x7d;\n",
    String.join (code.siblings.map importLine),
    "\n",
    "/// Maps directory entries to and from [`", code.imported.2, "`]\n",
    "pub struct ", code.name, ";\n",
    "\n",
    "impl EntryMapper for ", code.name, " \x7b\n",
    "    type Entity = ", code.mapped, ";\n",
    "\n",
    classLine code.objectClass,
    namingLine code.namingAttribute,
    "\n",
    "    fn from_entry(entry: &Entry) -> Result<Self::Entity, MappingError> \x7b\n",
    "        Ok(", code.constructed, " \x7b\n",
    String.join (code.fromEntry.map Mapped.initialiser),
    "        \x7d)\n",
    "    \x7d\n",
    "\n",
    "    fn to_entry(entity: &Self::Entity, entry: &mut Entry) \x7b\n",
    String.join (code.toEntry.map Mapped.statement),
    "    \x7d\n",
    "\x7d\n"]

def attributeComment (field : Model.Field) : String :=
  String.join ["`", field.name, "`, ", field.valueSyntax]

def Declared.ofRequired (field : Model.Field) : Declared :=
  { comment := attributeComment field, name := field.fieldName, type := field.valueType }

def Declared.ofOptional (field : Model.Field) : Declared :=
  { comment := attributeComment field, name := field.fieldName, type := optionOf field.valueType }

def Declared.ofParent (view : Model.ClassView) (parent : String) : Declared :=
  { comment := String.join ["The attributes inherited from `", view.subclassOf.getD "", "`"]
    name := Model.parentField
    type := parent }

def Entity.ofModel (model : Model) : Entity :=
  { package := model.package
    objectClass := model.objectClass.name
    siblings := model.parentClassName.toList
    name := model.className
    fields := model.parentClassName.toList.map (Declared.ofParent model.objectClass) ++
      (model.objectClass.required.map Declared.ofRequired ++
        model.objectClass.optional.map Declared.ofOptional)
    parentClass := model.parentClassName
    childClasses := model.childObjectClasses
    namingAttribute := model.rdnAttribute.map (·.name) }

/-- The field that another mapper takes care of. -/
def Mapped.ofParent (mapper : String) : Mapped :=
  { field := Model.parentField, counterpart := .parent mapper }

/-- The field that is mapped to an attribute that an entry must have. -/
def Mapped.ofRequired (field : Model.Field) : Mapped :=
  { field := field.fieldName, counterpart := .required field.name }

/-- The field that is mapped to an attribute that an entry may have. -/
def Mapped.ofOptional (field : Model.Field) : Mapped :=
  { field := field.fieldName, counterpart := .optional field.name }

def Mapped.ofModel (model : Model) : List Mapped :=
  model.parentClassName.toList.map Mapped.ofParent ++
    (model.objectClass.required.map Mapped.ofRequired ++
      model.objectClass.optional.map Mapped.ofOptional)

def Mapper.ofModel (model : Model) : Mapper :=
  { package := model.package
    objectClass := model.objectClass.name
    imported := (Template.Helper.lastSegment model.entityPackage,
      Text.capitalize model.objectClass.name)
    siblings := model.parentClassName.toList
    name := model.className
    mapped := Text.capitalize model.objectClass.name
    namingAttribute := model.rdnAttribute.map (·.name)
    constructed := Text.capitalize model.objectClass.name
    fromEntry := Mapped.ofModel model
    toEntry := Mapped.ofModel model }

end DirSchema.Output.Code
