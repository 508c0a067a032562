import DirSchema.Schema.Attribute
set_option autoImplicit false

namespace DirSchema

/-- A registered attribute. The serial tells apart two registrations of equal attributes. -/
structure Instance where
  serial : Nat
  attr : Attribute
deriving DecidableEq, Repr, Inhabited

namespace Instance

/-- The links with one more, which is dropped if the same registration is linked already. -/
def link (links : List Instance) (added : Instance) : List Instance :=
  if links.any (·.serial == added.serial) then links else links ++ [added]

end Instance

/-- A set of attribute names in the order in which they were first seen. -/
def insertName (names : List String) (name : String) : List String :=
  if names.contains name then names else names ++ [name]

/-- An object class. The parent is kept as it was referenced. -/
structure ObjectClass where
  name : String
  alternateNames : Option String := none
  subclassOf : Option String := none
  kind : Option String := none
  requiredNames : List String := []
  optionalNames : List String := []
  required : List Instance := []
  optional : List Instance := []
  origin : Option Coord := none
deriving DecidableEq, Repr, Inhabited

/-- The linked attributes, required ones first. -/
def ObjectClass.attributes (objectClass : ObjectClass) : List Instance :=
  objectClass.required ++ objectClass.optional

/-- Where entries of an object class may be created, and the attribute that names them. -/
structure Binding where
  bindingName : String
  ldapName : String
  allowableParent : String
  namedBy : String
  origin : Option Coord := none
deriving DecidableEq, Repr, Inhabited

end DirSchema
