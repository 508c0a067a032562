import DirSchema.Model.Basic
import DirSchema.Proofs.Schema.Relocation
set_option autoImplicit false

namespace DirSchema

variable (move : Coord → Coord)

private theorem Schema.bindingFor?_relocate (schema : Schema) (name : String) :
    (schema.relocate move).bindingFor? name =
      (schema.bindingFor? name).map (Binding.relocate move) := lookup_map _ _ _

theorem Schema.declaredClassName_relocate (schema : Schema) (reference : String) :
    (schema.relocate move).declaredClassName reference = schema.declaredClassName reference := by
  have same : (fun c : ObjectClass => Text.sameName c.name reference) ∘ ObjectClass.relocate move =
      fun c => Text.sameName c.name reference := rfl
  rw [declaredClassName, declaredClassName, relocate, List.find?_map, same]
  cases schema.objectClasses.find? fun c => Text.sameName c.name reference <;> rfl

namespace Model

private theorem fieldsOf_relocate (links : List Instance) :
    fieldsOf (links.map (Instance.relocate move)) = fieldsOf links := by
  rw [fieldsOf, List.map_map]
  rfl

private theorem childrenOf_relocate (schema : Schema) (name : String) :
    childrenOf (schema.relocate move) name = childrenOf schema name := by
  have bindings : (schema.relocate move).bindings =
      schema.bindings.map (Prod.map id (Binding.relocate move)) := rfl
  rw [childrenOf, childrenOf, bindings, List.filter_map, List.foldl_map]
  simp only [Schema.declaredClassName_relocate]
  rfl

private theorem namingAttribute?_relocate (schema : Schema) (name : String) :
    namingAttribute? (schema.relocate move) name =
      (namingAttribute? schema name).map (Attribute.relocate move) := by
  rw [namingAttribute?, namingAttribute?, Schema.bindingFor?_relocate]
  cases schema.bindingFor? name with
  | none => rfl
  | some binding =>
      rw [Option.map_some, Option.bind_some, Option.bind_some, Binding.relocate,
        Schema.attribute?_relocate, Option.map_map, Option.map_map]
      rfl

theorem ofClass_relocate (schema : Schema) (owner : ObjectClass) (package : String)
    (kind : ArtifactKind) :
    ofClass (schema.relocate move) (owner.relocate move) package kind =
      ofClass schema owner package kind := by
  simp only [ofClass, ObjectClass.relocate, fieldsOf_relocate, childrenOf_relocate,
    namingAttribute?_relocate, Option.map_map, Schema.declaredClassName_relocate]
  rfl

end Model
end DirSchema
