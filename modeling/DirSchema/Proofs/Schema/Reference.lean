import DirSchema.Schema.Basic
set_option autoImplicit false

namespace DirSchema

namespace Text

private theorem sameName_refl (name : String) : sameName name name = true := beq_self_eq_true _

private theorem sameName_comm (a b : String) : sameName a b = sameName b a :=
  BEq.comm

theorem sameName_symm {a b : String} (same : sameName a b = true) : sameName b a = true := by
  rwa [sameName_comm]

private theorem sameName_trans {a b c : String} (first : sameName a b = true)
    (second : sameName b c = true) : sameName a c = true :=
  beq_iff_eq.mpr ((beq_iff_eq.mp first).trans (beq_iff_eq.mp second))

/-- Names that are the same are the same as all others are. -/
theorem sameName_congr {name other : String} (same : sameName other name = true)
    (reference : String) : sameName reference other = sameName reference name ∧
      sameName other reference = sameName name reference := by
  rw [sameName, sameName, sameName, sameName, beq_iff_eq.mp same]
  exact ⟨rfl, rfl⟩

end Text

namespace Schema

def Declares (schema : Schema) (reference : String) : Prop :=
  ∃ declared ∈ schema.objectClasses, Text.sameName declared.name reference = true

section
variable {schema : Schema} {reference other : String}

theorem Declares.of_sameName (declares : schema.Declares reference)
    (same : Text.sameName reference other = true) : schema.Declares other := by
  obtain ⟨declared, member, isMatch⟩ := declares
  exact ⟨declared, member, Text.sameName_trans isMatch same⟩

/-- A reference that matches a class leads to the first one. -/
theorem Declares.exists_first (declares : schema.Declares reference) :
    ∃ declared : ObjectClass,
      schema.objectClasses.find? (fun c => Text.sameName c.name reference) = some declared ∧
      schema.declaredClassName reference = declared.name := by
  obtain ⟨declared, member, isMatch⟩ := declares
  have found : (schema.objectClasses.find? fun c => Text.sameName c.name reference).isSome :=
    List.find?_isSome.mpr ⟨declared, member, isMatch⟩
  obtain ⟨first, isFirst⟩ := Option.isSome_iff_exists.mp found
  exact ⟨first, isFirst, by rw [declaredClassName, isFirst]⟩

theorem declaredClassName_of_not_declares (undeclared : ¬ schema.Declares reference) :
    schema.declaredClassName reference = reference := by
  have none : schema.objectClasses.find? (fun c => Text.sameName c.name reference) = none :=
    List.find?_eq_none.mpr fun declared member isMatch =>
      undeclared ⟨declared, member, isMatch⟩
  rw [declaredClassName, none]

/-- What a reference leads to is the same name. -/
theorem sameName_declaredClassName (schema : Schema) (reference : String) :
    Text.sameName (schema.declaredClassName reference) reference = true := by
  by_cases declares : schema.Declares reference
  · obtain ⟨declared, found, name⟩ := declares.exists_first
    have same := List.find?_some found
    rw [name]
    exact same
  · rw [declaredClassName_of_not_declares declares]
    exact Text.sameName_refl reference

/-- References that are the same name lead to the same class, if there is one. -/
theorem Declares.declaredClassName_congr (declares : schema.Declares reference)
    (same : Text.sameName reference other = true) :
    schema.declaredClassName other = schema.declaredClassName reference := by
  obtain ⟨declared, found, -⟩ := declares.exists_first
  rw [declaredClassName, declaredClassName]
  simp only [← (Text.sameName_congr same _).1, found]

theorem declaredClassName_idem (schema : Schema) (reference : String) :
    schema.declaredClassName (schema.declaredClassName reference) =
      schema.declaredClassName reference := by
  by_cases declares : schema.Declares reference
  · exact declares.declaredClassName_congr
      (Text.sameName_symm (schema.sameName_declaredClassName reference))
  · rw [declaredClassName_of_not_declares declares, declaredClassName_of_not_declares declares]

end
end Schema
end DirSchema
