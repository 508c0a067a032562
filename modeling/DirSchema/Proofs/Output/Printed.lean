import DirSchema.Proofs.Output.Builtin
import DirSchema.Proofs.Output.Code
set_option autoImplicit false

namespace DirSchema.Output.Builtin

open DirSchema.Template (Reference Scopes)
open DirSchema.Template.Pattern
open DirSchema.Output.Code (Declared Mapped quoted)

section
variable {scopes : Scopes} {reference : Reference} {text : String}

theorem writes_quotedValue (writes : Writes scopes (.value reference) text) :
    Writes scopes (quotedValue reference) (quoted text) :=
  writes_inOrder (.cons (writes_say _) <| .cons writes <| .cons (writes_say _) .nil)

/-- A value that there may be is written if its condition counts as true. -/
theorem writes_optionalValue {condition value : Reference} {text? : Option String} {datum : Datum}
    (found : scopes.find condition = .ok (some datum))
    (truth : Template.Helper.isTruthy false datum = text?.isSome)
    (each : ∀ text, text? = some text → Writes scopes (.value value) text) :
    Writes scopes (optionalValue condition value) (Code.optional text?) := by
  refine writes_choose found ?_
  rw [Option.getD_some, truth]
  cases text? with
  | none => exact writes_say "None"
  | some text =>
      exact writes_inOrder (.cons (writes_say _) <| .cons (writes_quotedValue (each text rfl)) <|
        .cons (writes_say _) .nil)

variable {comment name type : Section}

theorem writes_declarationSection (declared : Declared)
    (writesComment : Writes scopes comment declared.comment)
    (writesName : Writes scopes name declared.name)
    (writesType : Writes scopes type declared.type) :
    Writes scopes (declarationSection comment name type) declared.text :=
  writes_inOrder (.cons (writes_say _) <| .cons writesComment <| .cons (writes_say _) <|
    .cons writesName <| .cons (writes_say _) <| .cons writesType <| .cons (writes_say _) .nil)

end

section
variable {scopes : Scopes} {field : Model.Field} {type : Section}

structure Inside (scopes : Scopes) (field : Model.Field) : Prop where
  unnamed : scopes.Unnamed
  current : scopes.current = field.datum.sorted

theorem Inside.writes {names : List String} {text : String} (inside : Inside scopes field)
    (leads : Scopes.navigate (some field.datum) names = .ok (some (.text text))) :
    Writes scopes (.value (.named names)) text :=
  writes_named inside.unnamed inside.current leads

theorem Inside.writes_name (inside : Inside scopes field) :
    Writes scopes (.value (.named ["name"])) field.name := inside.writes rfl

theorem Inside.writes_fieldName (inside : Inside scopes field) :
    Writes scopes (.value (.named ["fieldName"])) field.fieldName := inside.writes rfl

theorem Inside.writes_valueType (inside : Inside scopes field) :
    Writes scopes (.value (.named ["valueType"])) field.valueType := inside.writes rfl

private theorem Inside.writes_optionalType (inside : Inside scopes field) :
    Writes scopes (inOrder [say "Option<", .value (.named ["valueType"]), say ">"])
      (Code.optionOf field.valueType) :=
  writes_inOrder (.cons (writes_say _) <| .cons inside.writes_valueType <|
    .cons (writes_say _) .nil)

private theorem Inside.writes_comment (inside : Inside scopes field) :
    Writes scopes
      (inOrder [say "`", .value (.named ["name"]), say "`, ", .value (.named ["syntax"])])
      (Code.attributeComment field) :=
  writes_inOrder (.cons (writes_say _) <| .cons inside.writes_name <| .cons (writes_say _) <|
    .cons (inside.writes rfl) .nil)

end

/-- The texts of fields, in the order parent, required attributes, optional attributes. -/
theorem join_fields {α β γ : Type} {ofParent : α → γ} {ofRequired ofOptional : β → γ}
    {text : γ → String} (parents : List α) (required optional : List β) :
    String.join [String.join (parents.map fun parent => text (ofParent parent)),
        String.join (required.map fun field => text (ofRequired field)),
        String.join (optional.map fun field => text (ofOptional field))] =
      String.join ((parents.map ofParent ++
        (required.map ofRequired ++ optional.map ofOptional)).map text) := by
  simp only [List.map_append, List.map_map, String.join_append, String.join_cons, String.join_nil,
    String.append_empty]
  rfl

section
variable (model : Model)

/-- The scopes in which a builtin template is rendered for a model. -/
def scopesOf : Scopes := .ofRoot model.datum.sorted

theorem unnamed_scopesOf : (scopesOf model).Unnamed := List.forall_mem_singleton.mpr rfl

variable {model}

theorem find_model {names : List String} {found : Datum}
    (leads : Scopes.navigate (some model.datum) names = .ok (some found)) :
    (scopesOf model).find (.named names) = .ok (some found.sorted) :=
  Scopes.find_named (unnamed_scopesOf model) rfl leads

theorem writes_model {names : List String} {text : String}
    (leads : Scopes.navigate (some model.datum) names = .ok (some (.text text))) :
    Writes (scopesOf model) (.value (.named names)) text :=
  writes_named (unnamed_scopesOf model) rfl leads

theorem writes_modelCall {helper : String} {names : List String} {text result : String}
    (leads : Scopes.navigate (some model.datum) names = .ok (some (.text text)))
    (computed : Template.Helper.call helper { positional :=
        [{ value := some (.text text), path := some (Reference.named names).raw }] } =
      .ok (.text result)) :
    Writes (scopesOf model) (.call helper (.named names)) result := by
  have found := find_model leads
  rw [Datum.sorted] at found
  exact writes_call found computed

theorem writes_classReference :
    Writes (scopesOf model) (.value classReference) model.objectClass.name := writes_model rfl

theorem writes_artifactReference :
    Writes (scopesOf model) (.value artifactReference) model.className := writes_model rfl

theorem find_parentReference :
    (scopesOf model).find parentReference = .ok (some (.ofText? model.parentClassName)) := by
  have found : (scopesOf model).find parentReference =
      .ok (some (Datum.ofText? model.parentClassName).sorted) := find_model rfl
  rw [found]
  cases model.parentClassName <;> rfl

theorem writes_parentReference {parent : String} (given : model.parentClassName = some parent) :
    Writes (scopesOf model) (.value parentReference) parent := by
  have found : (scopesOf model).find parentReference =
      .ok (some (.ofText? model.parentClassName)) := find_parentReference
  rw [given] at found
  exact writes_value found

theorem writes_headingSection :
    Writes (scopesOf model) headingSection
      (Code.heading model.package model.objectClass.name) :=
  writes_inOrder (.cons (writes_say _) <| .cons (writes_model rfl) <| .cons (writes_say _) <|
    .cons writes_classReference <| .cons (writes_say _) .nil)

theorem writes_classSection :
    Writes (scopesOf model) classSection (Code.classLine model.objectClass.name) :=
  writes_inOrder (.cons (writes_say _) <| .cons (writes_quotedValue writes_classReference) <|
    .cons (writes_say _) .nil)

theorem writes_namingSection :
    Writes (scopesOf model) namingSection
      (Code.namingLine (model.rdnAttribute.map (·.name))) := by
  have leads : Scopes.navigate (some model.datum) ["rdnAttribute"] =
      .ok (some ((model.rdnAttribute.map Model.Field.datum).getD .null)) := rfl
  have value : Writes (scopesOf model)
      (optionalValue (.named ["rdnAttribute"]) (.named ["rdnAttribute", "name"]))
      (Code.optional (model.rdnAttribute.map (·.name))) := by
    refine writes_optionalValue (find_model leads) ?_ ?_
    · cases model.rdnAttribute <;> rfl
    · intro text given
      obtain ⟨field, known, rfl⟩ := Option.map_eq_some_iff.mp given
      have further : Scopes.navigate (some model.datum) ["rdnAttribute", "name"] =
          Scopes.navigate (some ((model.rdnAttribute.map Model.Field.datum).getD .null))
            ["name"] := rfl
      rw [known] at further
      exact writes_model further
  exact writes_inOrder (.cons (writes_say _) <| .cons value <| .cons (writes_say _) .nil)

private theorem writes_children :
    Writes (scopesOf model)
      (separated (.named ["childObjectClasses"]) ", " (quotedValue itemReference))
      (String.intercalate ", " (model.childObjectClasses.map quoted)) := by
  have leads : Scopes.navigate (some model.datum) ["childObjectClasses"] =
      .ok (some (.texts model.childObjectClasses)) := rfl
  have found := find_model leads
  rw [Datum.texts, Datum.sorted, Datum.sortedItems_eq, List.map_map] at found
  refine writes_separated found fun child _ scope value plain => writes_quotedValue ?_
  have here : ((scopesOf model).push scope).find itemReference = .ok (some scope.value) :=
    Scopes.path_names ((unnamed_scopesOf model).push plain) []
  rw [value] at here
  exact writes_value here

/-- A loop over fields writes what its body writes for each. -/
theorem writes_fields {names : List String} {fields : List Model.Field} {body : Section}
    {text : Model.Field → String}
    (leads : Scopes.navigate (some model.datum) names =
      .ok (some (.list (fields.map Model.Field.datum))))
    (each : ∀ field, ∀ ⦃scopes : Scopes⦄, Inside scopes field → Writes scopes body (text field)) :
    Writes (scopesOf model) (forEach (.named names) body) (String.join (fields.map text)) := by
  have found := find_model leads
  rw [Datum.sorted, Datum.sortedItems_eq, List.map_map] at found
  exact writes_forEach found fun field _ _ value plain =>
    each field ⟨(unnamed_scopesOf model).push plain, value⟩

theorem isTruthy_ofText? {text? : Option String} (nonempty : text? ≠ some "") :
    Template.Helper.isTruthy false (.ofText? text?) = text?.isSome := by
  cases text? with
  | none => rfl
  | some text =>
      have solid : text ≠ "" := fun empty => nonempty (congrArg some empty)
      simp [Datum.ofText?, Template.Helper.isTruthy, solid]

variable (named : model.parentClassName ≠ some "")
include named

/-- What stands under the condition that there is a parent is written for it, if there is one. -/
theorem writes_onlyParent {body : Section} {text : String → String}
    (each : ∀ parent, model.parentClassName = some parent →
      Writes (scopesOf model) body (text parent)) :
    Writes (scopesOf model) (onlyIf parentReference body)
      (String.join (model.parentClassName.toList.map text)) := by
  refine writes_onlyIf find_parentReference ?_ ?_
  · rw [Option.getD_some, isTruthy_ofText? named]
    intro given
    obtain ⟨parent, known⟩ := Option.isSome_iff_exists.mp given
    simpa [known] using each parent known
  · rw [Option.getD_some, isTruthy_ofText? named]
    intro absent
    rw [Option.isNone_iff_eq_none.mp (Option.isSome_eq_false_iff.mp absent)]
    rfl

theorem writes_importSection :
    Writes (scopesOf model) importSection
      (String.join (model.parentClassName.toList.map Code.importLine)) :=
  writes_onlyParent named fun _ known =>
    writes_inOrder (.cons (writes_say _) <| .cons (writes_parentReference known) <|
      .cons (writes_say _) .nil)

private theorem writes_parentSection :
    Writes (scopesOf model) parentSection
      (String.join (model.parentClassName.toList.map fun parent =>
        (Declared.ofParent model.objectClass parent).text)) := by
  refine writes_onlyParent named fun parent known => ?_
  have leads : Scopes.navigate (some model.datum) ["objectClass", "subclassOf"] =
      .ok (some (.ofText? model.objectClass.subclassOf)) := rfl
  have inherited : Writes (scopesOf model) (.value (.named ["objectClass", "subclassOf"]))
      (model.objectClass.subclassOf.getD "") := by
    refine (writes_value (find_model leads)).congr ?_
    cases model.objectClass.subclassOf <;> rfl
  exact writes_declarationSection (Declared.ofParent model.objectClass parent)
    (writes_inOrder (.cons (writes_say _) <| .cons inherited <| .cons (writes_say _) .nil))
    (writes_say _) (writes_parentReference known)

private theorem writes_recordSection :
    Writes (scopesOf model) recordSection
      (String.join ((Code.Entity.ofModel model).fields.map Declared.text)) := by
  have required : Writes (scopesOf model)
      (attributesSection requiredReference (.value (.named ["valueType"])))
      (String.join (model.objectClass.required.map fun field =>
        (Declared.ofRequired field).text)) :=
    writes_fields rfl fun field _ inside =>
      writes_declarationSection (Declared.ofRequired field) inside.writes_comment
        inside.writes_fieldName inside.writes_valueType
  have optional : Writes (scopesOf model)
      (attributesSection optionalReference
        (inOrder [say "Option<", .value (.named ["valueType"]), say ">"]))
      (String.join (model.objectClass.optional.map fun field =>
        (Declared.ofOptional field).text)) :=
    writes_fields rfl fun field _ inside =>
      writes_declarationSection (Declared.ofOptional field) inside.writes_comment
        inside.writes_fieldName inside.writes_optionalType
  exact (writes_inOrder (.cons (writes_parentSection named) <| .cons required <|
    .cons optional .nil)).congr (join_fields ..)

/-- The template of entities writes the code of the entity. -/
theorem writes_entitySection :
    Writes (scopesOf model) entitySection (Code.Entity.ofModel model).text := by
  have parent : Writes (scopesOf model) (optionalValue parentReference parentReference)
      (Code.optional model.parentClassName) :=
    writes_optionalValue find_parentReference (isTruthy_ofText? named)
      fun _ known => writes_parentReference known
  exact writes_inOrder (.cons writes_headingSection <| .cons (writes_say _) <|
    .cons (writes_say _) <| .cons (writes_importSection named) <| .cons (writes_say _) <|
    .cons (writes_say _) <| .cons writes_classReference <| .cons (writes_say _) <|
    .cons (writes_say _) <| .cons (writes_say _) <| .cons writes_artifactReference <|
    .cons (writes_say _) <| .cons (writes_recordSection named) <| .cons (writes_say _) <|
    .cons (writes_say _) <| .cons (writes_say _) <| .cons writes_artifactReference <|
    .cons (writes_say _) <| .cons writes_classSection <| .cons (writes_say _) <| .cons parent <|
    .cons (writes_say _) <| .cons (writes_say _) <| .cons writes_children <|
    .cons (writes_say _) <| .cons writes_namingSection <| .cons (writes_say _) .nil)

private theorem writes_fromEntrySection :
    Writes (scopesOf model) fromEntrySection
      (String.join ((Mapped.ofModel model).map Mapped.initialiser)) := by
  have parent : Writes (scopesOf model) _
      (String.join (model.parentClassName.toList.map fun mapper =>
        (Mapped.ofParent mapper).initialiser)) :=
    writes_onlyParent named fun mapper known =>
      writes_inOrder (.cons (writes_say _) <| .cons (writes_say _) <| .cons (writes_say _) <|
        .cons (writes_inOrder (.cons (writes_parentReference known) <|
          .cons (writes_say _) .nil)) <|
        .cons (writes_say _) .nil)
  have line {scopes : Scopes} {field : Model.Field} (inside : Inside scopes field)
      (reading : String) :
      Writes scopes
        (initialiserSection (.value (.named ["fieldName"]))
          (inOrder [say reading, quotedValue (.named ["name"]), say ")?"]))
        (String.join ["            ", field.fieldName, ": ",
          String.join [reading, quoted field.name, ")?"], ",\n"]) :=
    writes_inOrder (.cons (writes_say _) <| .cons inside.writes_fieldName <|
      .cons (writes_say _) <|
      .cons (writes_inOrder (.cons (writes_say _) <|
        .cons (writes_quotedValue inside.writes_name) <| .cons (writes_say _) .nil)) <|
      .cons (writes_say _) .nil)
  have required : Writes (scopesOf model) (initialisersSection requiredReference "entry.required(")
      (String.join (model.objectClass.required.map fun field =>
        (Mapped.ofRequired field).initialiser)) :=
    writes_fields rfl fun _ _ inside => line inside _
  have optional : Writes (scopesOf model) (initialisersSection optionalReference "entry.optional(")
      (String.join (model.objectClass.optional.map fun field =>
        (Mapped.ofOptional field).initialiser)) :=
    writes_fields rfl fun _ _ inside => line inside _
  exact (writes_inOrder (.cons parent <| .cons required <| .cons optional .nil)).congr
    (join_fields ..)

private theorem writes_toEntrySection :
    Writes (scopesOf model) toEntrySection
      (String.join ((Mapped.ofModel model).map Mapped.statement)) := by
  have parent : Writes (scopesOf model) _
      (String.join (model.parentClassName.toList.map fun mapper =>
        (Mapped.ofParent mapper).statement)) :=
    writes_onlyParent named fun mapper known =>
      writes_inOrder (.cons (writes_say _) <|
        .cons (writes_inOrder (.cons (writes_parentReference known) <| .cons (writes_say _) <|
          .cons (writes_say _) <| .cons (writes_say _) .nil)) <| .cons (writes_say _) .nil)
  have line {scopes : Scopes} {field : Model.Field} (inside : Inside scopes field)
      (writing before after : String) :
      Writes scopes
        (statementSection
          (inOrder [say writing, quotedValue (.named ["name"]), say before,
            .value (.named ["fieldName"]), say after]))
        (String.join ["        ",
          String.join [writing, quoted field.name, before, field.fieldName, after], ";\n"]) :=
    writes_inOrder (.cons (writes_say _) <|
      .cons (writes_inOrder (.cons (writes_say _) <|
        .cons (writes_quotedValue inside.writes_name) <| .cons (writes_say _) <|
        .cons inside.writes_fieldName <| .cons (writes_say _) .nil)) <|
      .cons (writes_say _) .nil)
  have required : Writes (scopesOf model)
      (statementsSection requiredReference "entry.set(" ", &entity." ")")
      (String.join (model.objectClass.required.map fun field =>
        (Mapped.ofRequired field).statement)) :=
    writes_fields rfl fun _ _ inside => line inside _ _ _
  have optional : Writes (scopesOf model)
      (statementsSection optionalReference "entry.set_optional(" ", entity." ".as_ref())")
      (String.join (model.objectClass.optional.map fun field =>
        (Mapped.ofOptional field).statement)) :=
    writes_fields rfl fun _ _ inside => line inside _ _ _
  exact (writes_inOrder (.cons parent <| .cons required <| .cons optional .nil)).congr
    (join_fields ..)

omit named in
private theorem writes_entityName :
    Writes (scopesOf model) entityName (Text.capitalize model.objectClass.name) :=
  writes_modelCall rfl rfl

/-- The template of mappers writes the code of the mapper. -/
theorem writes_mapperSection :
    Writes (scopesOf model) mapperSection (Code.Mapper.ofModel model).text := by
  have module : Writes (scopesOf model) (.call "module_name" (.named ["entityPackage"]))
      (Template.Helper.lastSegment model.entityPackage) := writes_modelCall rfl rfl
  exact writes_inOrder (.cons writes_headingSection <| .cons (writes_say _) <| .cons module <|
    .cons (writes_say _) <| .cons writes_entityName <| .cons (writes_say _) <|
    .cons (writes_say _) <| .cons (writes_importSection named) <| .cons (writes_say _) <|
    .cons (writes_say _) <| .cons writes_entityName <| .cons (writes_say _) <|
    .cons (writes_say _) <| .cons writes_artifactReference <| .cons (writes_say _) <|
    .cons (writes_say _) <| .cons (writes_say _) <| .cons writes_artifactReference <|
    .cons (writes_say _) <| .cons (writes_say _) <| .cons writes_entityName <|
    .cons (writes_say _) <| .cons (writes_say _) <| .cons writes_classSection <|
    .cons writes_namingSection <| .cons (writes_say _) <| .cons (writes_say _) <|
    .cons (writes_say _) <| .cons writes_entityName <| .cons (writes_say _) <|
    .cons (writes_fromEntrySection named) <| .cons (writes_say _) <| .cons (writes_say _) <|
    .cons (writes_say _) <| .cons (writes_say _) <| .cons (writes_toEntrySection named) <|
    .cons (writes_say _) <| .cons (writes_say _) .nil)

/-- The builtin template of entities is rendered to the code of the entity. -/
theorem renderSource_entity :
    Template.renderSource entity model.datum = .ok (Code.Entity.ofModel model).text :=
  Template.renderSource_of_print? ofTemplate?_entity (writes_entitySection named).print?_done

/-- The builtin template of mappers is rendered to the code of the mapper. -/
theorem renderSource_mapper :
    Template.renderSource mapper model.datum = .ok (Code.Mapper.ofModel model).text :=
  Template.renderSource_of_print? ofTemplate?_mapper (writes_mapperSection named).print?_done

end
end DirSchema.Output.Builtin
