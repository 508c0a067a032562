import DirSchema.Schema.ObjectClass
set_option autoImplicit false

namespace DirSchema

/-- An association list with another value under a key, which keeps its place if it had one. -/
def insertAt {α : Type} (key : String) (value : α) : List (String × α) → List (String × α)
  | [] => [(key, value)]
  | (k, v) :: rest => if k = key then (key, value) :: rest else (k, v) :: insertAt key value rest

/-- What one file can add to a schema. -/
inductive Declaration where
  | attr (attr : Attribute)
  | objectClass (objectClass : ObjectClass)
  | binding (binding : Binding)
deriving DecidableEq, Repr

/-- The declarations. `serials` counts the registrations of attributes. -/
structure Schema where
  attributes : List (String × Instance) := []
  objectClasses : List ObjectClass := []
  bindings : List (String × Binding) := []
  serials : Nat := 0
deriving DecidableEq, Repr, Inhabited

namespace Schema

/-- The instance that the next registration of an attribute makes. -/
def nextInstance (schema : Schema) (attr : Attribute) : Instance :=
  { serial := schema.serials, attr }

/-- The schema with an attribute, in place of any whose name differs by case only. -/
def addAttribute (schema : Schema) (attr : Attribute) : Schema :=
  { schema with
    attributes := insertAt attr.key (schema.nextInstance attr) schema.attributes
    serials := schema.serials + 1 }

def addObjectClass (schema : Schema) (objectClass : ObjectClass) : Schema :=
  { schema with objectClasses := schema.objectClasses ++ [objectClass] }

/-- The schema with a binding, in place of any for exactly the same class name. -/
def addBinding (schema : Schema) (binding : Binding) : Schema :=
  { schema with bindings := insertAt binding.ldapName binding schema.bindings }

def declare (schema : Schema) : Declaration → Schema
  | .attr attr => schema.addAttribute attr
  | .objectClass objectClass => schema.addObjectClass objectClass
  | .binding binding => schema.addBinding binding

/-- The registered attribute with a name, in any ASCII case. -/
def attribute? (schema : Schema) (name : String) : Option Instance :=
  schema.attributes.lookup (Text.fold name)

/-- The binding for exactly the given class name. -/
def bindingFor? (schema : Schema) (name : String) : Option Binding := schema.bindings.lookup name

/-- The name of the first class that a reference matches in any ASCII case, or the reference. -/
def declaredClassName (schema : Schema) (reference : String) : String :=
  match schema.objectClasses.find? fun c => Text.sameName c.name reference with
  | some c => c.name
  | none => reference

/-- Whether every attribute that a class names is registered. -/
def isResolved (schema : Schema) : Bool :=
  schema.objectClasses.all fun c =>
    (c.requiredNames ++ c.optionalNames).all fun name => (schema.attribute? name).isSome

def isRegistered (schema : Schema) (linked : Instance) : Bool :=
  match schema.attribute? linked.attr.name with
  | some registered => registered.serial == linked.serial
  | none => false

end Schema
end DirSchema
