import DirSchema.Proofs.Decoder.Strings
import DirSchema.Proofs.Model.Distinct
import DirSchema.Proofs.Model.Reference
import DirSchema.Proofs.Output.Printed
set_option autoImplicit false

namespace DirSchema

namespace Output.Code

def entityOf (schema : Schema) (owner : ObjectClass) (package : String) : Entity :=
  .ofModel (.ofClass schema owner package .entity)

def mapperOf (schema : Schema) (owner : ObjectClass) (package : String) : Mapper :=
  .ofModel (.ofClass schema owner package .mapper)

/-- How the entity and the mapper of a class fit together. -/
structure Fit (schema : Schema) (owner : ObjectClass) (package : String) : Prop where
  /-- The entity declares the parent, if the class has one, and then a field for each attribute. -/
  declared : (entityOf schema owner package).fields.map (·.name) =
    Model.takenNames owner.subclassOf.isSome ++
      ((Model.ofClass schema owner package .entity).objectClass.required ++
        (Model.ofClass schema owner package .entity).objectClass.optional).map (·.fieldName)
  distinct : ((entityOf schema owner package).fields.map (·.name)).Nodup
  /-- The field of an optional attribute may be missing, and the parent's holds its entity. -/
  typed : (entityOf schema owner package).fields.map (·.type) =
    (entityOf schema owner package).siblings ++
      owner.required.map (fun linked => linked.attr.valueType.typeName) ++
      owner.optional.map (fun linked => optionOf linked.attr.valueType.typeName)
  initialised : (mapperOf schema owner package).fromEntry.map (·.field) =
    (entityOf schema owner package).fields.map (·.name)
  /-- What each field is read from. -/
  read : (mapperOf schema owner package).fromEntry.map (·.counterpart) =
    (mapperOf schema owner package).siblings.map Counterpart.parent ++
      owner.required.map (fun linked => Counterpart.required linked.attr.name) ++
      owner.optional.map (fun linked => Counterpart.optional linked.attr.name)
  written : (mapperOf schema owner package).toEntry = (mapperOf schema owner package).fromEntry
  named : (entityOf schema owner package).name =
    (Model.ofClass schema owner package .entity).className
  imported : (mapperOf schema owner package).imported =
    (ArtifactKind.entity.subpackage, (entityOf schema owner package).name)
  mapped : (mapperOf schema owner package).mapped = (entityOf schema owner package).name
  constructed : (mapperOf schema owner package).constructed = (entityOf schema owner package).name
  /-- The parent's entity and mapper are those of the class that the reference matches. -/
  inherited : (mapperOf schema owner package).siblings =
      (entityOf schema owner package).siblings.map (· ++ "Mapper") ∧
    ∀ reference, owner.subclassOf = some reference → ∀ parent,
      schema.objectClasses.find? (fun other => Text.sameName other.name reference) = some parent →
        (entityOf schema owner package).siblings = [(entityOf schema parent package).name] ∧
        (mapperOf schema owner package).siblings = [(mapperOf schema parent package).name]

section
variable (schema : Schema) (owner : ObjectClass) (package : String)

/-- What is told of the fields of a class by other data than their names, is that of the attributes
which the class has. -/
theorem map_fields {α : Type} (f : Model.Field → α)
    (blind : ∀ (field : Model.Field) (name : String), f { field with fieldName := name } = f field)
    (kind : ArtifactKind) :
    (Model.ofClass schema owner package kind).objectClass.required.map f =
        owner.required.map (fun linked => f (.ofAttribute linked.attr)) ∧
      (Model.ofClass schema owner package kind).objectClass.optional.map f =
        owner.optional.map (fun linked => f (.ofAttribute linked.attr)) := by
  have alone (links : List Instance) :
      (Model.fieldsOf links).map f = links.map fun linked => f (.ofAttribute linked.attr) := by
    rw [Model.fieldsOf, List.map_map]
    rfl
  exact ⟨(Model.Field.map_rename f blind _ _).trans (alone _),
    (Model.Field.map_rename f blind _ _).trans (alone _)⟩

private theorem names_declared :
    (entityOf schema owner package).fields.map (·.name) =
      Model.takenNames owner.subclassOf.isSome ++
        ((Model.ofClass schema owner package .entity).objectClass.required ++
          (Model.ofClass schema owner package .entity).objectClass.optional).map (·.fieldName) := by
  have parent : ((Model.ofClass schema owner package .entity).parentClassName.toList.map
      fun _ => Model.parentField) = Model.takenNames owner.subclassOf.isSome := by
    rw [Model.ofClass]
    cases owner.subclassOf <;> rfl
  rw [← parent]
  simp only [entityOf, Entity.ofModel, List.map_append, List.map_map]
  rfl

private theorem types_declared :
    (entityOf schema owner package).fields.map (·.type) =
      (entityOf schema owner package).siblings ++
        owner.required.map (fun linked => linked.attr.valueType.typeName) ++
        owner.optional.map (fun linked => optionOf linked.attr.valueType.typeName) := by
  have required := (map_fields schema owner package (·.valueType) (fun _ _ => rfl) .entity).1
  have optional := (map_fields schema owner package (fun field => optionOf field.valueType)
    (fun _ _ => rfl) .entity).2
  have parent (parents : List String) (view : Model.ClassView) :
      parents.map (fun parent => (Declared.ofParent view parent).type) = parents :=
    List.map_id' parents
  simp only [entityOf, Entity.ofModel, List.map_append, List.map_map]
  rw [List.append_assoc]
  exact congrArg₂ (· ++ ·) (parent _ _) (congrArg₂ (· ++ ·) required optional)

private theorem fields_initialised :
    (mapperOf schema owner package).fromEntry.map (·.field) =
      (entityOf schema owner package).fields.map (·.name) := by
  have parents : ((Model.ofClass schema owner package .mapper).parentClassName.toList.map
        fun _ => Model.parentField) =
      (Model.ofClass schema owner package .entity).parentClassName.toList.map
        fun _ => Model.parentField := by
    rw [Model.ofClass, Model.ofClass]
    cases owner.subclassOf <;> rfl
  simp only [mapperOf, Mapper.ofModel, Mapped.ofModel, entityOf, Entity.ofModel, List.map_append,
    List.map_map]
  exact congrArg₂ (· ++ ·) parents rfl

private theorem counterparts_read :
    (mapperOf schema owner package).fromEntry.map (·.counterpart) =
      (mapperOf schema owner package).siblings.map Counterpart.parent ++
        owner.required.map (fun linked => Counterpart.required linked.attr.name) ++
        owner.optional.map (fun linked => Counterpart.optional linked.attr.name) := by
  have required := (map_fields schema owner package (fun field => Counterpart.required field.name)
    (fun _ _ => rfl) .mapper).1
  have optional := (map_fields schema owner package (fun field => Counterpart.optional field.name)
    (fun _ _ => rfl) .mapper).2
  simp only [mapperOf, Mapper.ofModel, Mapped.ofModel, List.map_append, List.map_map]
  rw [List.append_assoc]
  exact congrArg₂ (· ++ ·) rfl (congrArg₂ (· ++ ·) required optional)

private theorem parents_inherited :
    (mapperOf schema owner package).siblings =
        (entityOf schema owner package).siblings.map (· ++ "Mapper") ∧
      ∀ reference, owner.subclassOf = some reference → ∀ parent,
        schema.objectClasses.find? (fun other => Text.sameName other.name reference) =
            some parent →
          (entityOf schema owner package).siblings = [(entityOf schema parent package).name] ∧
          (mapperOf schema owner package).siblings = [(mapperOf schema parent package).name] := by
  have siblings (kind : ArtifactKind) :
      (Model.ofClass schema owner package kind).parentClassName.toList =
        (owner.subclassOf.map fun reference =>
          Model.classNameOf kind (schema.declaredClassName reference)).toList := rfl
  constructor
  · show Option.toList _ = (Option.toList _).map _
    rw [siblings, siblings]
    cases owner.subclassOf with
    | none => rfl
    | some reference => exact congrArg ([·]) (Model.className_mapper _)
  · intro reference given parent found
    have declared : schema.declaredClassName reference = parent.name := by
      rw [Schema.declaredClassName, found]
    have single (kind : ArtifactKind) :
        (Model.ofClass schema owner package kind).parentClassName.toList =
          [(Model.ofClass schema parent package kind).className] := by
      rw [siblings, given, Option.map_some, Option.toList_some, declared]
      rfl
    exact ⟨single .entity, single .mapper⟩

/-- The entity and the mapper of a class fit together, whatever the class. -/
theorem fit : Fit schema owner package where
  declared := names_declared schema owner package
  distinct := by
    rw [names_declared]
    exact Model.nodup_fieldNames _ _
  typed := types_declared schema owner package
  initialised := fields_initialised schema owner package
  read := counterparts_read schema owner package
  written := rfl
  named := rfl
  imported := congrArg₂ Prod.mk (Model.lastSegment_entityPackage package)
    (Model.className_entity owner.name).symm
  mapped := (Model.className_entity owner.name).symm
  constructed := (Model.className_entity owner.name).symm
  inherited := parents_inherited schema owner package

end

end Output.Code

namespace Output.Builtin

open DirSchema.Output.Code (entityOf mapperOf Fit)

/-- For every class of a schema that was decoded, both builtin templates are rendered, to an entity
and a mapper that fit together. -/
theorem builtin_artifacts_fit (earlier : Decoder.State) (inputs : List Decoder.Input)
    {owner : ObjectClass} (member : owner ∈ (earlier.decode inputs).schema.objectClasses)
    (package : String) :
    Template.renderSource entity
        (Model.ofClass (earlier.decode inputs).schema owner package .entity).datum =
      .ok (entityOf (earlier.decode inputs).schema owner package).text ∧
    Template.renderSource mapper
        (Model.ofClass (earlier.decode inputs).schema owner package .mapper).datum =
      .ok (mapperOf (earlier.decode inputs).schema owner package).text ∧
    Fit (earlier.decode inputs).schema owner package := by
  have named : ∀ other ∈ (earlier.decode inputs).schema.objectClasses, other.name ≠ "" :=
    fun _ among => (Decoder.named_of_mem_objectClasses among).1
  have parents (kind : ArtifactKind) :
      (Model.ofClass (earlier.decode inputs).schema owner package kind).parentClassName ≠ some "" :=
    Model.parentClassName_ne_empty named (Decoder.named_of_mem_objectClasses member).2 package kind
  exact ⟨renderSource_entity (parents .entity), renderSource_mapper (parents .mapper),
    Code.fit _ owner package⟩

/-- A class with a parent, one of whose attributes is called what the parent's field is called. -/
def staffing : List Decoder.Input :=
  [⟨0, "set object-class p = \x7b\nname = person\n\x7d;\nset object-class e = \x7b\n" ++
    "name = employee\nsubclass-of = Person\nmust-contain parent\nmay-contain sn\n\x7d;\n"⟩]

def employee : ObjectClass :=
  { name := "employee"
    subclassOf := some "Person"
    requiredNames := ["parent"]
    optionalNames := ["sn"]
    required := [⟨0, .synthesized "parent"⟩]
    optional := [⟨1, .synthesized "sn"⟩]
    origin := some ⟨0, 40, 62⟩ }

theorem employee_fits :
    employee ∈ (Decoder.State.idle.decode staffing).schema.objectClasses ∧
      (entityOf (Decoder.State.idle.decode staffing).schema employee "app").fields.map (·.name) =
        ["parent", "parent_2", "sn"] ∧
      (mapperOf (Decoder.State.idle.decode staffing).schema employee "app").siblings =
        ["PersonMapper"] ∧
      Template.renderSource entity
          (Model.ofClass (Decoder.State.idle.decode staffing).schema employee "app" .entity).datum =
        .ok (entityOf (Decoder.State.idle.decode staffing).schema employee "app").text ∧
      Fit (Decoder.State.idle.decode staffing).schema employee "app" := by
  have member : employee ∈ (Decoder.State.idle.decode staffing).schema.objectClasses := by
    decide +kernel
  have fits := builtin_artifacts_fit .idle staffing member "app"
  exact ⟨member, by decide +kernel, by decide +kernel, fits.1, fits.2.2⟩

end Output.Builtin
end DirSchema
