import DirSchema.Diagnostic.Basic
import DirSchema.Schema.Basic
set_option autoImplicit false

namespace DirSchema.Schema

def synthesisWarning (name className : String) (origin : Option Coord) : Diagnostic :=
  { severity := .warning
    message := "attribute '" ++ name ++ "' referenced by object class '" ++ className ++
      "' is not declared"
    code := some Diagnostic.Code.synthesizedAttribute.name
    labels := origin.toList.map fun coord => { coord, message := "object class declared here" }
    notes := ["a single-valued caseIgnoreString attribute was synthesized in its place"] }

/-- The attribute with a name, after it was synthesized if there was none. -/
def lookupOrSynthesize (schema : Schema) (owner : ObjectClass) (name : String) :
    Schema × Instance × List Diagnostic :=
  match schema.attribute? name with
  | some found => (schema, found, [])
  | none =>
    let attr := Attribute.synthesized name
    (schema.addAttribute attr, schema.nextInstance attr,
      [synthesisWarning name owner.name owner.origin])

/-- A way to find the attribute that a class names, which may add to the schema and warn. -/
abbrev Lookup (m : Type → Type) :=
  Schema → ObjectClass → String → m (Schema × Instance × List Diagnostic)

section Loops

variable {m : Type → Type} [Monad m] (lookup : Lookup m)

/-- The attributes with the given names, in their order. -/
def lookupAll (schema : Schema) (owner : ObjectClass) :
    List String → m (Schema × List Instance × List Diagnostic)
  | [] => return (schema, [], [])
  | name :: rest => do
    let (schema, found, warnings) ← lookup schema owner name
    let (schema, others, more) ← lookupAll schema owner rest
    return (schema, found :: others, warnings ++ more)

/-- One class resolved: what it names is linked after what was linked before. -/
def resolveClass (schema : Schema) (owner : ObjectClass) :
    m (Schema × ObjectClass × List Diagnostic) := do
  let (schema, required, warnings) ← lookupAll lookup schema owner owner.requiredNames
  let (schema, optional, more) ← lookupAll lookup schema owner owner.optionalNames
  return (schema,
    { owner with
      required := required.foldl Instance.link owner.required
      optional := optional.foldl Instance.link owner.optional },
    warnings ++ more)

def resolveClasses (schema : Schema) :
    List ObjectClass → m (Schema × List ObjectClass × List Diagnostic)
  | [] => return (schema, [], [])
  | owner :: rest => do
    let (schema, resolved, warnings) ← resolveClass lookup schema owner
    let (schema, others, more) ← resolveClasses schema rest
    return (schema, resolved :: others, warnings ++ more)

def resolveWith (schema : Schema) : m (Schema × List Diagnostic) := do
  let (resolved, objectClasses, warnings) ← resolveClasses lookup schema schema.objectClasses
  return ({ resolved with objectClasses }, warnings)

end Loops

/-- The schema with every class linked, and a warning for each synthesized attribute. -/
def resolve (schema : Schema) : Schema × List Diagnostic :=
  resolveWith (m := Id) lookupOrSynthesize schema

section Plain

variable (schema : Schema) (owner : ObjectClass)

theorem lookupAll_cons (name : String) (rest : List String) :
    lookupAll (m := Id) lookupOrSynthesize schema owner (name :: rest) =
      let looked := schema.lookupOrSynthesize owner name
      let others := lookupAll (m := Id) lookupOrSynthesize looked.1 owner rest
      (others.1, looked.2.1 :: others.2.1, looked.2.2 ++ others.2.2) := rfl

theorem resolveClass_plain :
    resolveClass (m := Id) lookupOrSynthesize schema owner =
      let required := lookupAll (m := Id) lookupOrSynthesize schema owner owner.requiredNames
      let optional := lookupAll (m := Id) lookupOrSynthesize required.1 owner owner.optionalNames
      (optional.1,
        { owner with
          required := required.2.1.foldl Instance.link owner.required
          optional := optional.2.1.foldl Instance.link owner.optional },
        required.2.2 ++ optional.2.2) := rfl

theorem resolveClasses_cons (rest : List ObjectClass) :
    resolveClasses (m := Id) lookupOrSynthesize schema (owner :: rest) =
      let first := resolveClass (m := Id) lookupOrSynthesize schema owner
      let others := resolveClasses (m := Id) lookupOrSynthesize first.1 rest
      (others.1, first.2.1 :: others.2.1, first.2.2 ++ others.2.2) := rfl

theorem resolve_plain :
    schema.resolve =
      let resolved := resolveClasses (m := Id) lookupOrSynthesize schema schema.objectClasses
      ({ resolved.1 with objectClasses := resolved.2.1 }, resolved.2.2) := rfl

end Plain

end DirSchema.Schema
