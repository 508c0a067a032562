import DirSchema.Proofs.Model.Numbering
import DirSchema.Schema.Resolve
set_option autoImplicit false

namespace DirSchema.Model

theorem mem_takenNames_append_take {hasParent : Bool} {names : List String} {i : Nat}
    {name : String} : name ∈ takenNames hasParent ++ names.take i ↔
      (hasParent = true ∧ name = parentField) ∨ ∃ j < i, names[j]? = some name := by
  rw [List.mem_append, mem_takenNames, List.mem_iff_getElem?]
  refine or_congr_right (exists_congr fun j => ?_)
  rw [List.getElem?_take, Option.ite_none_right_eq_some]

/-- A linked attribute has a field in the place of its link, named in view of the fields before it. -/
theorem exists_field_of_link {owner : ObjectClass} {linked : Instance} {i : Nat}
    (position : owner.attributes[i]? = some linked) (schema : Schema) (package : String)
    (kind : ArtifactKind) :
    ∃ field, (ofClass schema owner package kind).objectClass.fields[i]? = some field ∧
      field.unnamed = (Field.ofAttribute linked.attr).unnamed ∧
      Chosen (takenNames owner.subclassOf.isSome ++
          (ofClass schema owner package kind).objectClass.fieldNames.take i)
        (fieldNameOf linked.attr.name) field.fieldName := by
  have whole := congrArg (·[i]?) (unnamed_fields_ofClass schema owner package kind)
  simp only [List.getElem?_map, position, Option.map_some] at whole
  obtain ⟨field, among, same⟩ := Option.map_eq_some_iff.mp whole
  refine ⟨field, among, same, ?_⟩
  have given : (owner.attributes.map fun linked => fieldNameOf linked.attr.name)[i]? =
      some (fieldNameOf linked.attr.name) := by
    rw [List.getElem?_map, position, Option.map_some]
  have final : (ofClass schema owner package kind).objectClass.fieldNames[i]? =
      some field.fieldName := by
    rw [ClassView.fieldNames, List.getElem?_map, among, Option.map_some]
  rw [fieldNames_ofClass] at final ⊢
  exact chosen_distinctNames given final

/-- The attribute that names entries has two descriptions if the class is linked to it. They differ
in nothing but the field name, and agree on that exactly if neither the parent nor an earlier field
of the class has the name. -/
theorem rdnAttribute_agrees_iff {schema : Schema} {owner : ObjectClass} {linked : Instance} {i : Nat}
    (naming : namingAttribute? schema owner.name = some linked.attr)
    (position : owner.attributes[i]? = some linked) (package : String) (kind : ArtifactKind) :
    ∃ rdn field, (ofClass schema owner package kind).rdnAttribute = some rdn ∧
      (ofClass schema owner package kind).objectClass.fields[i]? = some field ∧
      field.unnamed = rdn.unnamed ∧
      (field.fieldName = rdn.fieldName ↔
        ¬((owner.subclassOf.isSome = true ∧ rdn.fieldName = parentField) ∨
          ∃ j < i, (ofClass schema owner package kind).objectClass.fieldNames[j]? =
            some rdn.fieldName)) := by
  obtain ⟨field, among, same, choice⟩ := exists_field_of_link position schema package kind
  have described : (ofClass schema owner package kind).rdnAttribute =
      some (Field.ofAttribute linked.attr) := by
    rw [ofClass, naming, Option.map_some]
  refine ⟨Field.ofAttribute linked.attr, field, described, among, same, ?_⟩
  rw [← mem_takenNames_append_take, Field.fieldName_ofAttribute]
  exact choice.eq_iff

/-- A class that is linked to the attribute that names its entries. -/
def porter : ObjectClass :=
  { name := "porter"
    required := [⟨0, .synthesized "name-tag"⟩]
    optional := [⟨1, .synthesized "nameTag"⟩] }

def lodge : Schema :=
  { attributes :=
      [("name-tag", ⟨0, .synthesized "name-tag"⟩), ("nametag", ⟨1, .synthesized "nameTag"⟩)]
    objectClasses := [porter]
    bindings := [("porter", ⟨"b", "porter", "office", "Name-Tag", none⟩)]
    serials := 2 }

theorem lodge_agrees :
    namingAttribute? lodge porter.name = some (.synthesized "name-tag") ∧
      porter.attributes[0]? = some ⟨0, .synthesized "name-tag"⟩ ∧
      ∃ rdn field, (ofClass lodge porter "app" .entity).rdnAttribute = some rdn ∧
        (ofClass lodge porter "app" .entity).objectClass.fields[0]? = some field ∧
        field.unnamed = rdn.unnamed ∧ field.fieldName = rdn.fieldName := by
  have naming : namingAttribute? lodge porter.name = some (.synthesized "name-tag") := by
    decide +kernel
  have position : porter.attributes[0]? = some ⟨0, .synthesized "name-tag"⟩ := rfl
  refine ⟨naming, position, ?_⟩
  obtain ⟨rdn, field, described, among, same, agrees⟩ :=
    rdnAttribute_agrees_iff naming position "app" .entity
  refine ⟨rdn, field, described, among, same, agrees.mpr ?_⟩
  rintro (⟨subclass, -⟩ | ⟨j, before, -⟩)
  · cases subclass
  · exact Nat.not_lt_zero j before

/-- Declarations of classes whose entries are named by an attribute that they are linked to, and whose
field is called otherwise: another field has the name, or the field of the parent has it. -/
def workplace : List Declaration :=
  [.objectClass { name := "clerk", optionalNames := ["employee-id", "employeeId"] },
    .objectClass { name := "heir", subclassOf := some "clerk", requiredNames := ["parent"] },
    .binding ⟨"a", "clerk", "office", "employeeId", none⟩,
    .binding ⟨"b", "heir", "office", "parent", none⟩]

def workplaceSchema : Schema := (workplace.foldl Schema.declare {}).resolve.1

/-- The naming attribute of a model and the fields of its class, by attribute and field name. -/
def fieldsByName (schema : Schema) (owner : ObjectClass) :
    Option (String × String) × List (String × String) :=
  let model := ofClass schema owner "app" .entity
  (model.rdnAttribute.map fun field => (field.name, field.fieldName),
    model.objectClass.fields.map fun field => (field.name, field.fieldName))

/-- The field name of a naming attribute is the one that another attribute has, or the parent. -/
theorem workplace_misnamed :
    workplaceSchema.objectClasses.map (fieldsByName workplaceSchema) =
      [(some ("employeeId", "employee_id"),
          [("employee-id", "employee_id"), ("employeeId", "employee_id_2")]),
        (some ("parent", "parent"), [("parent", "parent_2")])] := by
  decide +kernel

end DirSchema.Model
