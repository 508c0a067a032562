set_option autoImplicit false

namespace DirSchema.Output.Builtin

/-- The template of entities: a record with a field for each attribute, and what is known of its
class. -/
def entity : String :=
  String.join [
    "// Generated by ldap-codegen into `\x7b\x7bpackage\x7d\x7d` from the `\x7b\x7bobjectC",
    "lass.name\x7d\x7d` object class, do not edit.\n",
    "#[allow(unused_imports)]\n",
    "use crate::runtime::\x7bAttributeValue, Entity\x7d;\n",
    "\x7b\x7b#if parentClassName\x7d\x7d\n",
    "use super::\x7b\x7bparentClassName\x7d\x7d;\n",
    "\x7b\x7b/if\x7d\x7d\n",
    "\n",
    "/// An entry of the `\x7b\x7bobjectClass.name\x7d\x7d` object class\n",
    "#[derive(Clone, Debug, PartialEq)]\n",
    "pub struct \x7b\x7bclassName\x7d\x7d \x7b\n",
    "\x7b\x7b#if parentClassName\x7d\x7d\n",
    "    /// The attributes inherited from `\x7b\x7bobjectClass.subclassOf\x7d\x7d`\n",
    "    pub parent: \x7b\x7bparentClassName\x7d\x7d,\n",
    "\x7b\x7b/if\x7d\x7d\n",
    "\x7b\x7b#each objectClass.requiredAttributes\x7d\x7d\n",
    "    /// `\x7b\x7bname\x7d\x7d`, \x7b\x7bsyntax\x7d\x7d\n",
    "    pub \x7b\x7bfieldName\x7d\x7d: \x7b\x7bvalueType\x7d\x7d,\n",
    "\x7b\x7b/each\x7d\x7d\n",
    "\x7b\x7b#each objectClass.optionalAttributes\x7d\x7d\n",
    "    /// `\x7b\x7bname\x7d\x7d`, \x7b\x7bsyntax\x7d\x7d\n",
    "    pub \x7b\x7bfieldName\x7d\x7d: Option<\x7b\x7bvalueType\x7d\x7d>,\n",
    "\x7b\x7b/each\x7d\x7d\n",
    "\x7d\n",
    "\n",
    "impl Entity for \x7b\x7bclassName\x7d\x7d \x7b\n",
    "    const OBJECT_CLASS: &'static str = \"\x7b\x7bobjectClass.name\x7d\x7d\";\n",
    "    const PARENT_CLASS: Option<&'static str> = \x7b\x7b#if parentClassName\x7d\x7dSom",
    "e(\"\x7b\x7bparentClassName\x7d\x7d\")\x7b\x7belse\x7d\x7dNone\x7b\x7b/if\x7d\x7d;\n",
    "    const CHILD_CLASSES: &'static [&'static str] = &[\x7b\x7b#each childObjectClasses",
    "\x7d\x7d\"\x7b\x7bthis\x7d\x7d\"\x7b\x7b#unless @last\x7d\x7d, \x7b\x7b/unless\x7d",
    "\x7d\x7b\x7b/each\x7d\x7d];\n",
    "    const RDN_ATTRIBUTE: Option<&'static str> = \x7b\x7b#if rdnAttribute\x7d\x7dSome(",
    "\"\x7b\x7brdnAttribute.name\x7d\x7d\")\x7b\x7belse\x7d\x7dNone\x7b\x7b/if\x7d\x7d;\n",
    "\x7d\n"]

/-- The template of mappers, which read entities from entries of a directory and write them back. -/
def mapper : String :=
  String.join [
    "// Generated by ldap-codegen into `\x7b\x7bpackage\x7d\x7d` from the `\x7b\x7bobjectC",
    "lass.name\x7d\x7d` object class, do not edit.\n",
    "use super::super::\x7b\x7bmodule_name entityPackage\x7d\x7d::\x7b\x7bcapitalize objec",
    "tClass.name\x7d\x7d;\n",
    "use crate::runtime::\x7bEntry, EntryMapper, MappingError\x7d;\n",
    "\x7b\x7b#if parentClassName\x7d\x7d\n",
    "use super::\x7b\x7bparentClassName\x7d\x7d;\n",
    "\x7b\x7b/if\x7d\x7d\n",
    "\n",
    "/// Maps directory entries to and from [`\x7b\x7bcapitalize objectClass.name\x7d\x7d`]\n",
    "pub struct \x7b\x7bclassName\x7d\x7d;\n",
    "\n",
    "impl EntryMapper for \x7b\x7bclassName\x7d\x7d \x7b\n",
    "    type Entity = \x7b\x7bcapitalize objectClass.name\x7d\x7d;\n",
    "\n",
    "    const OBJECT_CLASS: &'static str = \"\x7b\x7bobjectClass.name\x7d\x7d\";\n",
    "    const RDN_ATTRIBUTE: Option<&'static str> = \x7b\x7b#if rdnAttribute\x7d\x7dSome(",
    "\"\x7b\x7brdnAttribute.name\x7d\x7d\")\x7b\x7belse\x7d\x7dNone\x7b\x7b/if\x7d\x7d;\n",
    "\n",
    "    fn from_entry(entry: &Entry) -> Result<Self::Entity, MappingError> \x7b\n",
    "        Ok(\x7b\x7bcapitalize objectClass.name\x7d\x7d \x7b\n",
    "\x7b\x7b#if parentClassName\x7d\x7d\n",
    "            parent: \x7b\x7bparentClassName\x7d\x7d::from_entry(entry)?,\n",
    "\x7b\x7b/if\x7d\x7d\n",
    "\x7b\x7b#each objectClass.requiredAttributes\x7d\x7d\n",
    "            \x7b\x7bfieldName\x7d\x7d: entry.required(\"\x7b\x7bname\x7d\x7d\")?,\n",
    "\x7b\x7b/each\x7d\x7d\n",
    "\x7b\x7b#each objectClass.optionalAttributes\x7d\x7d\n",
    "            \x7b\x7bfieldName\x7d\x7d: entry.optional(\"\x7b\x7bname\x7d\x7d\")?,\n",
    "\x7b\x7b/each\x7d\x7d\n",
    "        \x7d)\n",
    "    \x7d\n",
    "\n",
    "    fn to_entry(entity: &Self::Entity, entry: &mut Entry) \x7b\n",
    "\x7b\x7b#if parentClassName\x7d\x7d\n",
    "        \x7b\x7bparentClassName\x7d\x7d::to_entry(&entity.parent, entry);\n",
    "\x7b\x7b/if\x7d\x7d\n",
    "\x7b\x7b#each objectClass.requiredAttributes\x7d\x7d\n",
    "        entry.set(\"\x7b\x7bname\x7d\x7d\", &entity.\x7b\x7bfieldName\x7d\x7d);\n",
    "\x7b\x7b/each\x7d\x7d\n",
    "\x7b\x7b#each objectClass.optionalAttributes\x7d\x7d\n",
    "        entry.set_optional(\"\x7b\x7bname\x7d\x7d\", entity.\x7b\x7bfieldName\x7d\x7d",
    ".as_ref());\n",
    "\x7b\x7b/each\x7d\x7d\n",
    "    \x7d\n",
    "\x7d\n"]

end DirSchema.Output.Builtin
