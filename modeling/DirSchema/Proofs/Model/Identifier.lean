import DirSchema.Proofs.Model.FieldName
import DirSchema.Proofs.Model.Numbering
set_option autoImplicit false

namespace DirSchema.Model

/-- Whether the artifact of a kind has an identifier for a name, if its class is called so. -/
def Spells (kind : ArtifactKind) (name : String) : Prop :=
  '-' ∉ name.toList ∧ (kind = .entity → name ≠ "self" ∧ name ≠ "Self")

instance (kind : ArtifactKind) (name : String) : Decidable (Spells kind name) :=
  instDecidableAnd

theorem capitalize_of_descriptor {name : String} {first : Char} {rest : List Char}
    (chars : name.toList = first :: rest) (alpha : first.isAlpha = true) :
    (Text.capitalize name).toList = first.toUpper :: rest := by
  rw [Text.capitalize, chars, String.toList_ofList,
    Text.toUppercase_of_isAlphanum (Text.isAlphanum_of_isAlpha alpha)]
  rfl

/-- The name of a class is capitalized to a reserved word only if it is that word, in any case. -/
theorem capitalize_eq_self_iff {name : String} (descriptor : Text.isDescriptor name = true) :
    Text.capitalize name = "Self" ↔ name = "self" ∨ name = "Self" := by
  constructor
  · intro same
    obtain ⟨first, rest, chars, alpha, -⟩ := Text.isDescriptor_cases descriptor
    have capital := capitalize_of_descriptor chars alpha
    rw [same] at capital
    obtain ⟨upper, rfl⟩ := List.cons.inj capital
    have letter : first = 's' ∨ first = 'S' := Text.of_toUpper_eq upper.symm
    rcases letter with rfl | rfl
    · exact .inl (String.toList_inj.mp chars)
    · exact .inr (String.toList_inj.mp chars)
  · rintro (rfl | rfl) <;> decide

/-- The characters of an artifact's name: a capital and what follows the first letter of the class. -/
theorem classNameOf_cases {name : String} (descriptor : Text.isDescriptor name = true)
    (kind : ArtifactKind) :
    ∃ first rest, name.toList = first :: rest ∧
      (classNameOf kind name).toList = first.toUpper :: rest ++ kind.classSuffix.toList ∧
      first ≠ '-' ∧ first.toUpper.isUpper = true ∧
      ∀ c ∈ rest, c ≠ '-' → isIdentifierPart c = true := by
  obtain ⟨first, rest, chars, alpha, others⟩ := Text.isDescriptor_cases descriptor
  refine ⟨first, rest, chars, ?_, ?_, ?_, ?_⟩
  · rw [classNameOf, String.toList_append, capitalize_of_descriptor chars alpha]
  · rintro rfl
    exact absurd alpha (by decide)
  · rw [Char.isUpper_toUpper_eq_isAlpha, alpha]
  · intro c member other
    rcases Bool.or_eq_true_iff.mp (others c member) with alphanum | hyphen
    · rw [isIdentifierPart, alphanum, Bool.true_or]
    · exact absurd (beq_iff_eq.mp hyphen) other

/-- Only a hyphen keeps the name of an artifact from having the form of an identifier. -/
theorem isWord_classNameOf {name : String} (descriptor : Text.isDescriptor name = true)
    (kind : ArtifactKind) (plain : '-' ∉ name.toList) :
    isWord (classNameOf kind name).toList = true := by
  obtain ⟨first, rest, chars, whole, -, upper, others⟩ := classNameOf_cases descriptor kind
  have start : isIdentifierStart first.toUpper = true := by
    rw [isIdentifierStart, Char.isAlpha, upper, Bool.true_or, Bool.true_or]
  have suffix : kind.classSuffix.toList.all isIdentifierPart = true := by cases kind <;> decide
  have mark : first.toUpper ≠ '_' := by
    intro same
    rw [same] at upper
    exact absurd upper (by decide)
  rw [whole, List.cons_append, isWord.eq_3 _ _ (fun same _ => mark same), start, Bool.true_and,
    List.all_eq_true]
  intro c member
  rcases List.mem_append.mp member with own | last
  · refine others c own ?_
    rintro rfl
    exact plain (by rw [chars]; exact List.mem_cons_of_mem first own)
  · exact List.all_eq_true.mp suffix c last

/-- Only an entity can be called by a reserved word. -/
theorem classNameOf_mem_reserved {name : String} (descriptor : Text.isDescriptor name = true)
    {kind : ArtifactKind} (member : classNameOf kind name ∈ reserved) :
    kind = .entity ∧ (name = "self" ∨ name = "Self") := by
  have capitals : ∀ word ∈ reserved, (word.toList.headD ' ').isUpper = true → word = "Self" := by
    decide
  obtain ⟨first, rest, -, whole, -, upper, -⟩ := classNameOf_cases descriptor kind
  have self := capitals _ member (by rw [whole]; exact upper)
  cases kind with
  | entity =>
      rw [classNameOf, ArtifactKind.classSuffix, String.append_empty,
        capitalize_eq_self_iff descriptor] at self
      exact ⟨rfl, self⟩
  | mapper =>
      have length := congrArg String.length self
      rw [classNameOf, String.length_append] at length
      have suffix : ArtifactKind.mapper.classSuffix.length = 6 := rfl
      have short : "Self".length = 4 := rfl
      omega

/-- The name of an artifact is an identifier exactly if the class is called so that it can be. -/
theorem isIdentifier_classNameOf_iff {name : String} (descriptor : Text.isDescriptor name = true)
    (kind : ArtifactKind) : isIdentifier (classNameOf kind name) = true ↔ Spells kind name := by
  constructor
  · intro identifier
    constructor
    · obtain ⟨first, rest, chars, whole, letter, -, -⟩ := classNameOf_cases descriptor kind
      have absent := hyphen_not_mem_of_isIdentifier identifier
      rw [whole, List.cons_append, List.mem_cons, List.mem_append, not_or, not_or] at absent
      rw [chars, List.mem_cons, not_or]
      exact ⟨letter.symm, absent.2.1⟩
    · rintro rfl
      rw [← not_or, ← capitalize_eq_self_iff descriptor]
      intro same
      rw [classNameOf, same] at identifier
      exact absurd identifier (by decide)
  · rintro ⟨plain, free⟩
    refine isIdentifier_of_isWord (isWord_classNameOf descriptor kind plain) fun member => ?_
    obtain ⟨entity, spelled⟩ := classNameOf_mem_reserved descriptor member
    exact spelled.elim (free entity).1 (free entity).2

/-- A schema whose classes, references to parents and attributes have descriptors for names. -/
structure Descriptive (schema : Schema) : Prop where
  classes : ∀ owner ∈ schema.objectClasses, Text.isDescriptor owner.name = true ∧
    (∀ reference ∈ owner.subclassOf, Text.isDescriptor reference = true) ∧
    ∀ linked ∈ owner.attributes, Text.isDescriptor linked.attr.name = true
  attributes : ∀ entry ∈ schema.attributes, Text.isDescriptor entry.2.attr.name = true

/-- The fields of a model, the one of the attribute that names entries included. -/
def allFields (model : Model) : List Field :=
  model.objectClass.required ++ model.objectClass.optional ++ model.rdnAttribute.toList

/-- What a model puts where templates expect an identifier. -/
def identifiers (model : Model) : List String :=
  model.className :: Text.capitalize model.objectClass.name ::
    (model.parentClassName.toList ++ model.allFields.map (·.fieldName))

section
variable {schema : Schema} (descriptive : Descriptive schema)
include descriptive

theorem isDescriptor_declaredClassName {reference : String}
    (descriptor : Text.isDescriptor reference = true) :
    Text.isDescriptor (schema.declaredClassName reference) = true := by
  rw [Schema.declaredClassName]
  cases found : schema.objectClasses.find? fun other => Text.sameName other.name reference with
  | none => exact descriptor
  | some other => exact (descriptive.classes other (List.mem_of_find?_eq_some found)).1

variable {owner : ObjectClass} (member : owner ∈ schema.objectClasses) (package : String)
  (kind : ArtifactKind)
include member

theorem isIdentifier_of_mem_allFields :
    ∀ field ∈ (ofClass schema owner package kind).allFields,
      isIdentifier field.fieldName = true := by
  obtain ⟨-, -, linked⟩ := descriptive.classes owner member
  rw [allFields, List.forall_mem_append]
  constructor
  · intro field among
    have chosen : field.fieldName ∈ distinctNames (takenNames owner.subclassOf.isSome)
        (owner.attributes.map fun link => fieldNameOf link.attr.name) := by
      rw [← fieldNames_ofClass schema owner package kind]
      exact List.mem_map.mpr ⟨field, among, rfl⟩
    refine forall_mem_distinctNames (p := fun text => isIdentifier text = true) ?_ ?_ _ _ chosen
    · exact List.forall_mem_map.mpr fun link linking =>
        isIdentifier_of_isDescriptor (linked link linking)
    · exact List.forall_mem_map.mpr fun link linking n =>
        isIdentifier_numbered (isIdentifier_of_isDescriptor (linked link linking)) n
  · intro field among
    obtain ⟨attr, naming, rfl⟩ := Option.map_eq_some_iff.mp (Option.mem_toList.mp among)
    obtain ⟨binding, -, registered⟩ := Option.bind_eq_some_iff.mp naming
    obtain ⟨found, known, rfl⟩ := Option.map_eq_some_iff.mp registered
    obtain ⟨before, after, split, -⟩ := List.lookup_eq_some_iff.mp known
    have descriptor : Text.isDescriptor found.attr.name = true :=
      descriptive.attributes (Text.fold binding.namedBy, found) (by rw [split]; simp)
    rw [Field.fieldName_ofAttribute]
    exact isIdentifier_of_isDescriptor descriptor

/-- All fields of a class have identifiers for names. The class and its parent have them exactly if
what they are called has no hyphen in it and, for an entity, is not a reserved word once it is
capitalized. -/
theorem identifiers_iff :
    (∀ field ∈ (ofClass schema owner package kind).allFields,
      isIdentifier field.fieldName = true) ∧
    ((∀ text ∈ (ofClass schema owner package kind).identifiers, isIdentifier text = true) ↔
      Spells .entity owner.name ∧
        ∀ reference ∈ owner.subclassOf, Spells kind (schema.declaredClassName reference)) := by
  have fields := isIdentifier_of_mem_allFields descriptive member package kind
  refine ⟨fields, ?_⟩
  obtain ⟨named, parents, -⟩ := descriptive.classes owner member
  have own : isIdentifier (ofClass schema owner package kind).className = true ↔
      Spells kind owner.name := isIdentifier_classNameOf_iff named kind
  have entity : isIdentifier
      (Text.capitalize (ofClass schema owner package kind).objectClass.name) = true ↔
      Spells .entity owner.name := by
    rw [← isIdentifier_classNameOf_iff named .entity, classNameOf, ArtifactKind.classSuffix,
      String.append_empty]
    rfl
  have parent : (∀ text ∈ (ofClass schema owner package kind).parentClassName.toList,
        isIdentifier text = true) ↔
      ∀ reference ∈ owner.subclassOf, Spells kind (schema.declaredClassName reference) := by
    have given : (ofClass schema owner package kind).parentClassName =
        owner.subclassOf.map fun reference =>
          classNameOf kind (schema.declaredClassName reference) := rfl
    rw [given]
    cases reference? : owner.subclassOf with
    | none => simp
    | some reference =>
        have descriptor := isDescriptor_declaredClassName descriptive (parents reference reference?)
        simp [isIdentifier_classNameOf_iff descriptor]
  have weaker : Spells .entity owner.name → Spells kind owner.name :=
    fun spells => ⟨spells.1, fun _ => spells.2 rfl⟩
  rw [identifiers, List.forall_mem_cons, List.forall_mem_cons, List.forall_mem_append,
    List.forall_mem_map, own, entity, parent]
  exact ⟨fun all => ⟨all.2.1, all.2.2.1⟩, fun all => ⟨weaker all.1, all.1, all.2, fields⟩⟩

end

/-- A class whose attributes are called as keywords and the field of the parent are. -/
def clerk : ObjectClass :=
  { name := "clerk"
    subclassOf := some "Person"
    required := [⟨0, .synthesized "type"⟩, ⟨1, .synthesized "self"⟩]
    optional := [⟨2, .synthesized "Type"⟩, ⟨3, .synthesized "parent"⟩] }

def office : Schema := { objectClasses := [{ name := "person" }, clerk] }

theorem clerk_identifiers :
    Descriptive office ∧
      (ofClass office clerk "app" .mapper).identifiers =
        ["ClerkMapper", "Clerk", "PersonMapper", "r#type", "self_", "type_2", "parent_2"] ∧
      ∀ text ∈ (ofClass office clerk "app" .mapper).identifiers, isIdentifier text = true := by
  have descriptive : Descriptive office := ⟨by decide +kernel, nofun⟩
  have member : clerk ∈ office.objectClasses := by decide
  refine ⟨descriptive, by decide +kernel, ?_⟩
  exact (identifiers_iff descriptive member "app" .mapper).2.mpr (by decide +kernel)

/-- Classes with names that are descriptors, one of which has a hyphen in it and one of which is
capitalized to a reserved word. -/
def misspelled : Schema := { objectClasses := [{ name := "my-class" }, { name := "self" }] }

theorem misspelled_not_identifiers :
    Descriptive misspelled ∧
      misspelled.objectClasses.map
          (fun owner => (ofClass misspelled owner "app" .entity).className) =
        ["My-class", "Self"] ∧
      ∀ owner ∈ misspelled.objectClasses,
        ∃ text ∈ (ofClass misspelled owner "app" .entity).identifiers,
          isIdentifier text = false :=
  ⟨⟨by decide +kernel, nofun⟩, by decide +kernel, by decide +kernel⟩

end DirSchema.Model
