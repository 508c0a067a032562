import DirSchema.Output.Builtin
import DirSchema.Proofs.Template.Section
set_option autoImplicit false

namespace DirSchema.Output.Builtin

open DirSchema.Template (Reference Pattern ofSource? ofSource?_join)
open DirSchema.Template.Pattern

def classReference : Reference := .named ["objectClass", "name"]

def artifactReference : Reference := .named ["className"]

def parentReference : Reference := .named ["parentClassName"]

def requiredReference : Reference := .named ["objectClass", "requiredAttributes"]

def optionalReference : Reference := .named ["objectClass", "optionalAttributes"]

def itemReference : Reference := { raw := "this", target := .path [] }

def quotedValue (reference : Reference) : Section :=
  inOrder [say "\"", .value reference, say "\""]

def optionalValue (condition value : Reference) : Section :=
  choose condition (inOrder [say "Some(", quotedValue value, say ")"]) (say "None")

def headingSection : Section :=
  inOrder [say "// Generated by ldap-codegen into `", .value (.named ["package"]),
    say "` from the `", .value classReference, say "` object class, do not edit.\n"]

def importSection : Section :=
  onlyIf parentReference (inOrder [say "use super::", .value parentReference, say ";\n"])

def classSection : Section :=
  inOrder [say "    const OBJECT_CLASS: &'static str = ", quotedValue classReference, say ";\n"]

/-- The constant that holds the attribute which names entries. -/
def namingSection : Section :=
  inOrder [say "    const RDN_ATTRIBUTE: Option<&'static str> = ",
    optionalValue (.named ["rdnAttribute"]) (.named ["rdnAttribute", "name"]), say ";\n"]

def declarationSection (comment name type : Section) : Section :=
  inOrder [say "    /// ", comment, say "\n    pub ", name, say ": ", type, say ",\n"]

def parentSection : Section :=
  onlyIf parentReference
    (declarationSection
      (inOrder [say "The attributes inherited from `",
        .value (.named ["objectClass", "subclassOf"]), say "`"])
      (say "parent") (.value parentReference))

def attributesSection (attributes : Reference) (type : Section) : Section :=
  forEach attributes
    (declarationSection
      (inOrder [say "`", .value (.named ["name"]), say "`, ", .value (.named ["syntax"])])
      (.value (.named ["fieldName"])) type)

def recordSection : Section :=
  inOrder [parentSection, attributesSection requiredReference (.value (.named ["valueType"])),
    attributesSection optionalReference
      (inOrder [say "Option<", .value (.named ["valueType"]), say ">"])]

def entitySection : Section :=
  inOrder [
    headingSection,
    say "#[allow(unused_imports)]\n",
    say "use crate::runtime::\x7bAttributeValue, Entity\x7d;\n",
    importSection,
    say "\n",
    say "/// An entry of the `", .value classReference, say "` object class\n",
    say "#[derive(Clone, Debug, PartialEq)]\n",
    say "pub struct ", .value artifactReference, say " \x7b\n",
    recordSection,
    say "\x7d\n",
    say "\n",
    say "impl Entity for ", .value artifactReference, say " \x7b\n",
    classSection,
    say "    const PARENT_CLASS: Option<&'static str> = ",
    optionalValue parentReference parentReference, say ";\n",
    say "    const CHILD_CLASSES: &'static [&'static str] = &[",
    separated (.named ["childObjectClasses"]) ", " (quotedValue itemReference), say "];\n",
    namingSection,
    say "\x7d\n"]

def entityName : Section := .call "capitalize" classReference

def initialiserSection (field value : Section) : Section :=
  inOrder [say "            ", field, say ": ", value, say ",\n"]

/-- The lines that give the fields of attributes their values. -/
def initialisersSection (attributes : Reference) (reading : String) : Section :=
  forEach attributes
    (initialiserSection (.value (.named ["fieldName"]))
      (inOrder [say reading, quotedValue (.named ["name"]), say ")?"]))

def statementSection (call : Section) : Section := inOrder [say "        ", call, say ";\n"]

def statementsSection (attributes : Reference) (writing before after : String) : Section :=
  forEach attributes
    (statementSection
      (inOrder [say writing, quotedValue (.named ["name"]), say before,
        .value (.named ["fieldName"]), say after]))

def fromEntrySection : Section :=
  inOrder [
    onlyIf parentReference
      (initialiserSection (say "parent")
        (inOrder [.value parentReference, say "::from_entry(entry)?"])),
    initialisersSection requiredReference "entry.required(",
    initialisersSection optionalReference "entry.optional("]

def toEntrySection : Section :=
  inOrder [
    onlyIf parentReference
      (statementSection
        (inOrder [.value parentReference, say "::to_entry(&entity.", say "parent",
          say ", entry)"])),
    statementsSection requiredReference "entry.set(" ", &entity." ")",
    statementsSection optionalReference "entry.set_optional(" ", entity." ".as_ref())"]

def mapperSection : Section :=
  inOrder [
    headingSection,
    say "use super::super::", .call "module_name" (.named ["entityPackage"]), say "::", entityName,
    say ";\n",
    say "use crate::runtime::\x7bEntry, EntryMapper, MappingError\x7d;\n",
    importSection,
    say "\n",
    say "/// Maps directory entries to and from [`", entityName, say "`]\n",
    say "pub struct ", .value artifactReference, say ";\n",
    say "\n",
    say "impl EntryMapper for ", .value artifactReference, say " \x7b\n",
    say "    type Entity = ", entityName, say ";\n",
    say "\n",
    classSection,
    namingSection,
    say "\n",
    say "    fn from_entry(entry: &Entry) -> Result<Self::Entity, MappingError> \x7b\n",
    say "        Ok(", entityName, say " \x7b\n",
    fromEntrySection,
    say "        \x7d)\n",
    say "    \x7d\n",
    say "\n",
    say "    fn to_entry(entity: &Self::Entity, entry: &mut Entry) \x7b\n",
    toEntrySection,
    say "    \x7d\n",
    say "\x7d\n"]

theorem ofTemplate?_entity :
    (ofSource? entity).bind Pattern.ofTemplate? = some (entitySection .done) := by
  rw [entity, ofSource?_join (by repeat constructor)]
  decide +kernel

theorem ofTemplate?_mapper :
    (ofSource? mapper).bind Pattern.ofTemplate? = some (mapperSection .done) := by
  rw [mapper, ofSource?_join (by repeat constructor)]
  decide +kernel

end DirSchema.Output.Builtin
