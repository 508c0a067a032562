import DirSchema.Model.Basic
import DirSchema.Proofs.Text.Casing
import DirSchema.Proofs.Text.Cutting
import DirSchema.Template.Helper
set_option autoImplicit false

namespace DirSchema

namespace Template.Helper

/-- The last segment of a name that ends in a segment without dots. -/
theorem lastSegment_append (name : String) {segment : String} (plain : '.' ∉ segment.toList) :
    lastSegment (name ++ "." ++ segment) = segment := by
  have single : Text.fields (· == '.') segment.toList = [segment.toList] :=
    Text.fields_eq_singleton _ _ fun c member => beq_false_of_ne fun same => plain (same ▸ member)
  have split : (name ++ "." ++ segment).toList = name.toList ++ '.' :: segment.toList := by
    simp
  rw [lastSegment, split, Text.fields_append _ _ _ _ rfl, single, List.getLast?_concat,
    Option.getD_some, String.ofList_toList]

end Template.Helper

namespace Model

theorem className_entity (name : String) : classNameOf .entity name = Text.capitalize name :=
  String.append_empty

theorem className_mapper (name : String) :
    classNameOf .mapper name = classNameOf .entity name ++ "Mapper" := by
  rw [className_entity]
  rfl

theorem lastSegment_entityPackage (package : String) :
    Template.Helper.lastSegment (packageOf package .entity) = ArtifactKind.entity.subpackage :=
  Template.Helper.lastSegment_append package (by decide)

theorem classNameOf_ne_empty (kind : ArtifactKind) {name : String} (named : name ≠ "") :
    classNameOf kind name ≠ "" := by
  intro empty
  have chars := congrArg String.toList empty
  rw [classNameOf, String.toList_append] at chars
  have first := (List.append_eq_nil_iff.mp chars).1
  exact Text.capitalize_ne_empty named (String.toList_eq_nil_iff.mp first)

variable {schema : Schema} {owner : ObjectClass}

/-- A reference is resolved to the name of a class or to itself. -/
theorem declaredClassName_ne_empty (named : ∀ other ∈ schema.objectClasses, other.name ≠ "")
    {reference : String} (nonempty : reference ≠ "") :
    schema.declaredClassName reference ≠ "" := by
  rw [Schema.declaredClassName]
  cases found : schema.objectClasses.find? fun other => Text.sameName other.name reference with
  | none => exact nonempty
  | some other => exact named other (List.mem_of_find?_eq_some found)

theorem parentClassName_ne_empty (named : ∀ other ∈ schema.objectClasses, other.name ≠ "")
    (parentNamed : owner.subclassOf ≠ some "") (package : String) (kind : ArtifactKind) :
    (ofClass schema owner package kind).parentClassName ≠ some "" := by
  intro empty
  obtain ⟨reference, given, same⟩ := Option.map_eq_some_iff.mp empty
  have nonempty : reference ≠ "" := by
    rintro rfl
    exact parentNamed given
  exact classNameOf_ne_empty kind (declaredClassName_ne_empty named nonempty) same

end Model

end DirSchema
