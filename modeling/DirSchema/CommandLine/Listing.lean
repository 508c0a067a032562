import DirSchema.Datum.Json
import DirSchema.Model.Basic
set_option autoImplicit false

namespace DirSchema.CommandLine

/-- What is listed about an object class. -/
structure Listing where
  name : String
  parent : Option String
  namingAttribute : Option String
  children : List String
  required : List String
  optional : List String
deriving DecidableEq, Repr

namespace Listing

def ofClass (schema : Schema) (owner : ObjectClass) : Listing :=
  { name := owner.name
    parent := owner.subclassOf.map schema.declaredClassName
    namingAttribute := (Model.namingAttribute? schema owner.name).map (·.name)
    children := Model.childrenOf schema owner.name
    required := owner.required.map (·.attr.name)
    optional := owner.optional.map (·.attr.name) }

def datum (listing : Listing) : Datum :=
  .record
    [("name", .text listing.name), ("parent", .ofText? listing.parent),
      ("namingAttribute", .ofText? listing.namingAttribute), ("children", .texts listing.children),
      ("required", .texts listing.required), ("optional", .texts listing.optional)]

def itemsLine (label : String) (items : List String) : List String :=
  if items.isEmpty then [] else ["  " ++ label ++ ": " ++ String.intercalate ", " items]

def lines (listing : Listing) : List String :=
  [listing.name ++ (listing.parent.map (" : " ++ ·)).getD ""] ++
    (listing.namingAttribute.map ("  named by: " ++ ·)).toList ++
    itemsLine "children" listing.children ++
    itemsLine "must" listing.required ++
    itemsLine "may" listing.optional

end Listing
end DirSchema.CommandLine
