import DirSchema.Model.Basic
import DirSchema.Proofs.Schema.Recasing
import DirSchema.Proofs.Schema.Reference
set_option autoImplicit false

namespace DirSchema

open List (Forall₂)

namespace Schema

theorem declaredClassName_eq (schema : Schema) (reference : String) :
    schema.declaredClassName reference =
      ((schema.objectClasses.map (·.name)).find? fun name => Text.sameName name reference).getD
        reference := by
  rw [declaredClassName, List.find?_map]
  show _ = ((schema.objectClasses.find? fun declared =>
    Text.sameName declared.name reference).map (·.name)).getD reference
  cases schema.objectClasses.find? fun declared => Text.sameName declared.name reference <;> rfl

/-- A reference that a class matches leads to the same class in any case. -/
theorem RecasesParent.declaredClassName {schema : Schema} {parent other : Option String}
    (recases : schema.RecasesParent parent other) :
    other.map schema.declaredClassName = parent.map schema.declaredClassName := by
  rcases recases with rfl | ⟨reference, rewritten, rfl, rfl, same, declares⟩
  · rfl
  · rw [Option.map_some, Option.map_some,
      Declares.declaredClassName_congr declares (Text.sameName_symm same)]

/-- Schemas in which references lead to the same. -/
structure LeadsAlike (schema other : Schema) : Prop where
  names : other.objectClasses.map (·.name) = schema.objectClasses.map (·.name)
  find : other.attribute? = schema.attribute?
  bindings : Forall₂ RecasesEntry schema.bindings other.bindings

theorem names_resolve (schema : Schema) :
    schema.resolve.1.objectClasses.map (·.name) = schema.objectClasses.map (·.name) := by
  rw [objectClasses_resolve, List.map_map]
  rfl

theorem declaredClassName_resolve (schema : Schema) :
    schema.resolve.1.declaredClassName = schema.declaredClassName := by
  funext reference
  rw [declaredClassName_eq, declaredClassName_eq, names_resolve]

theorem Recases.leadsAlike {schema other : Schema} (recased : schema.Recases other) :
    schema.resolve.1.LeadsAlike other.resolve.1 where
  names := by rw [names_resolve, names_resolve, recased.names]
  find := by
    funext name
    rw [attribute?, attribute?, resolve_eq, resolve_eq]
    exact congrArg (List.lookup (Text.fold name)) recased.grown.1
  bindings := by
    rw [bindings_resolve, bindings_resolve]
    exact recased.bindings

end Schema

namespace Model

section
variable {schema other : Schema} (alike : schema.LeadsAlike other)
include alike

theorem declaredClassName_alike : other.declaredClassName = schema.declaredClassName := by
  funext reference
  rw [Schema.declaredClassName_eq, Schema.declaredClassName_eq, alike.names]

/-- The bindings below a class bind the same classes. -/
theorem filter_bindings_alike (name : String) :
    (other.bindings.filter fun (_, binding) => Text.sameName binding.allowableParent name).map
        (fun (_, binding) => binding.ldapName) =
      (schema.bindings.filter fun (_, binding) => Text.sameName binding.allowableParent name).map
        fun (_, binding) => binding.ldapName := by
  have each := alike.bindings
  revert each
  generalize schema.bindings = entries, other.bindings = others
  intro each
  induction each with
  | nil => rfl
  | @cons entry rewritten _ _ recases _ ih =>
      obtain ⟨key, binding⟩ := entry
      obtain ⟨otherKey, rewritten⟩ := rewritten
      have own : Schema.RecasesBinding binding rewritten := recases.2
      have same := (Text.sameName_congr own.parent name).2
      have child : rewritten.ldapName = binding.ldapName := by rw [own.rest]
      rw [List.filter_cons, List.filter_cons]
      simp only [same]
      split
      · rw [List.map_cons, List.map_cons, ih]
        exact congrArg (· :: _) child
      · exact ih

private theorem childrenOf_alike (name : String) :
    childrenOf other name = childrenOf schema name := by
  have split (schema : Schema) : childrenOf schema name =
      ((schema.bindings.filter fun (_, binding) =>
        Text.sameName binding.allowableParent name).map fun (_, binding) => binding.ldapName).foldl
          (fun children child => insertName children (schema.declaredClassName child)) [] := by
    rw [childrenOf, List.foldl_map]
  rw [split, split, filter_bindings_alike alike, declaredClassName_alike alike]

/-- The binding of a class, which names the same attribute in either case. -/
theorem bindingFor?_alike (name : String) :
    schema.bindingFor? name = none ∧ other.bindingFor? name = none ∨
      ∃ binding rewritten, schema.bindingFor? name = some binding ∧
        other.bindingFor? name = some rewritten ∧ Schema.RecasesBinding binding rewritten := by
  have each := alike.bindings
  rw [Schema.bindingFor?, Schema.bindingFor?]
  revert each
  generalize schema.bindings = entries, other.bindings = others
  intro each
  induction each with
  | nil => exact .inl ⟨rfl, rfl⟩
  | @cons entry rewritten _ _ recases _ ih =>
      obtain ⟨key, binding⟩ := entry
      obtain ⟨otherKey, rewritten⟩ := rewritten
      obtain ⟨same, recases⟩ := recases
      rw [lookup_cons_ite, lookup_cons_ite, show otherKey = key from same]
      split
      · exact .inr ⟨binding, rewritten, rfl, rfl, recases⟩
      · exact ih

private theorem namingAttribute?_alike (name : String) :
    namingAttribute? other name = namingAttribute? schema name := by
  rw [namingAttribute?, namingAttribute?]
  rcases bindingFor?_alike alike name with ⟨absent, alsoAbsent⟩ |
    ⟨binding, rewritten, found, alsoFound, recases⟩
  · rw [absent, alsoAbsent]
    rfl
  · rw [found, alsoFound, Option.bind_some, Option.bind_some, alike.find,
      schema.attribute?_of_sameName recases.attr]

/-- A class that is linked to the same attributes has the same model, but for the reference to its
parent. -/
theorem ofClass_alike {owner another : ObjectClass} (name : another.name = owner.name)
    (alternateNames : another.alternateNames = owner.alternateNames)
    (kindName : another.kind = owner.kind) (required : another.required = owner.required)
    (optional : another.optional = owner.optional)
    (parent : another.subclassOf.map schema.declaredClassName =
      owner.subclassOf.map schema.declaredClassName) (package : String) (kind : ArtifactKind) :
    ofClass other another package kind =
      { ofClass schema owner package kind with
        objectClass :=
          { (ofClass schema owner package kind).objectClass with
            subclassOf := another.subclassOf } } := by
  have hasParent : another.subclassOf.isSome = owner.subclassOf.isSome := by
    have same := congrArg Option.isSome parent
    rwa [Option.isSome_map, Option.isSome_map] at same
  have parentName : (another.subclassOf.map fun reference =>
        classNameOf kind (schema.declaredClassName reference)) =
      owner.subclassOf.map fun reference =>
        classNameOf kind (schema.declaredClassName reference) := by
    have same := congrArg (Option.map (classNameOf kind)) parent
    rwa [Option.map_map, Option.map_map] at same
  simp only [ofClass, ClassView.withDistinctFields, name, alternateNames, kindName, required,
    optional, hasParent, childrenOf_alike alike, namingAttribute?_alike alike,
    declaredClassName_alike alike, parentName]

end

end Model

/-- References are followed without regard to case. Written in another case, they are resolved to
the same registry with the same warnings and every class is linked to the same attributes in the
same order; so the models of every class are equal, but for the reference to the parent. -/
theorem Schema.Recases.same_resolution {schema other : Schema} (recased : schema.Recases other) :
    other.resolve.1.attributes = schema.resolve.1.attributes ∧
      other.resolve.2 = schema.resolve.2 ∧
      Forall₂ (fun owner another =>
          another.required = owner.required ∧ another.optional = owner.optional ∧
          ∀ (package : String) (kind : ArtifactKind),
            Model.ofClass other.resolve.1 another package kind =
              { Model.ofClass schema.resolve.1 owner package kind with
                objectClass :=
                  { (Model.ofClass schema.resolve.1 owner package kind).objectClass with
                    subclassOf := another.subclassOf } })
        schema.resolve.1.objectClasses other.resolve.1.objectClasses := by
  refine ⟨?_, ?_, ?_⟩
  · rw [resolve_eq, resolve_eq]
    exact recased.grown.1
  · rw [resolve_eq, resolve_eq]
    exact recased.grown.2.2
  · rw [objectClasses_resolve schema, objectClasses_resolve other, List.forall₂_map_left_iff,
      List.forall₂_map_right_iff]
    refine recased.classes.imp fun owner another each => ?_
    obtain ⟨required, optional⟩ := recased.linked each
    refine ⟨required, optional, fun package kind => ?_⟩
    have parent : another.subclassOf.map schema.resolve.1.declaredClassName =
        owner.subclassOf.map schema.resolve.1.declaredClassName := by
      rw [declaredClassName_resolve]
      exact each.parent.declaredClassName
    have name : another.name = owner.name := by rw [each.rest]
    have alternateNames : another.alternateNames = owner.alternateNames := by rw [each.rest]
    have kindName : another.kind = owner.kind := by rw [each.rest]
    exact @Model.ofClass_alike _ _ recased.leadsAlike
      ((schema.growAll schema.references).linked owner)
      ((other.growAll other.references).linked another)
      name alternateNames kindName required optional parent package kind

/-- A class below another, with references in the case of what they refer to. -/
def tidy : Schema :=
  Schema.declareEach {}
    [.attr { name := "cn" },
      .objectClass { name := "person", requiredNames := ["cn", "sn"] },
      .objectClass
        { name := "employee", subclassOf := some "person", optionalNames := ["cn", "title"] },
      .binding
        { bindingName := "b", ldapName := "employee", allowableParent := "person",
          namedBy := "cn" }]

/-- The same with references in other cases, one of which is written in two. -/
def untidy : Schema :=
  Schema.declareEach {}
    [.attr { name := "cn" },
      .objectClass { name := "person", requiredNames := ["CN", "sn", "Cn"] },
      .objectClass
        { name := "employee", subclassOf := some "Person", optionalNames := ["CN", "title"] },
      .binding
        { bindingName := "b", ldapName := "employee", allowableParent := "PERSON",
          namedBy := "Cn" }]

theorem untidy_resolved :
    Schema.Recases tidy untidy ∧
      untidy.resolve.2.map (·.message) =
        ["attribute 'sn' referenced by object class 'person' is not declared",
          "attribute 'title' referenced by object class 'employee' is not declared"] ∧
      untidy.resolve.1.attributes = tidy.resolve.1.attributes ∧
      untidy.resolve.2 = tidy.resolve.2 := by
  have recased : Schema.Recases tidy untidy := by
    refine ⟨rfl, rfl, ?_, ?_⟩
    · refine .cons ⟨?_, ?_, .inl rfl, rfl⟩ (.cons ⟨?_, ?_, ?_, rfl⟩ .nil)
      · exact ⟨["cn", "sn", "cn"], ["CN", "sn", "Cn"],
          .cons (.inr (by decide)) (.cons (.inl rfl) (.cons (.inr (by decide)) .nil)),
          by decide, by decide⟩
      · exact ⟨[], [], .nil, rfl, rfl⟩
      · exact ⟨[], [], .nil, rfl, rfl⟩
      · exact ⟨["cn", "title"], ["CN", "title"], .cons (.inr (by decide)) (.cons (.inl rfl) .nil),
          by decide, by decide⟩
      · exact .inr ⟨"person", "Person", rfl, rfl, by decide, by decide⟩
    · exact .cons ⟨rfl, by decide, by decide, rfl⟩ .nil
  obtain ⟨attributes, warnings, -⟩ := recased.same_resolution
  exact ⟨recased, by decide +kernel, attributes, warnings⟩

end DirSchema
