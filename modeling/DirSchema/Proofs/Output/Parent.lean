import DirSchema.Proofs.Output.Containment
import DirSchema.Proofs.Schema.Reference
set_option autoImplicit false

namespace DirSchema.Output

open DirSchema.Path

section
variable (schema : Schema) (settings : Settings)

private theorem mem_artifacts {owner : ObjectClass} (among : owner ∈ schema.objectClasses)
    {kind : ArtifactKind} (enabled : settings.isEnabled kind = true) :
    (owner, kind) ∈ artifacts schema settings := by
  have known : kind ∈ ArtifactKind.all := by cases kind <;> decide
  exact List.mem_flatMap.mpr ⟨owner, among,
    List.mem_map.mpr ⟨kind, List.mem_filter.mpr ⟨known, enabled⟩, rfl⟩⟩

/-- Every artifact has an outcome. -/
theorem exists_tells_generate (templates : Templates) (renderer : Renderer) (tree : FileTree)
    {artifact : ObjectClass × ArtifactKind} (member : artifact ∈ artifacts schema settings) :
    ∃ outcome ∈ (generate schema settings templates renderer tree).2,
      Tells schema settings templates renderer artifact outcome := by
  obtain ⟨index, found⟩ := List.mem_iff_getElem?.mp member
  obtain ⟨outcome, told, tells⟩ := exists_outcome
    (tells_generateAll schema settings templates renderer tree (artifacts schema settings)) found
  exact ⟨outcome, List.mem_iff_getElem?.mpr ⟨index, told⟩, tells⟩

/-- The model of a mapper is that of the entity with other names in it. -/
theorem modelOf_mapper (owner : ObjectClass) :
    modelOf schema settings (owner, .mapper) =
      { modelOf schema settings (owner, .entity) with
        package := Model.packageOf settings.package .mapper
        className := (modelOf schema settings (owner, .entity)).className ++ "Mapper"
        parentClassName :=
          (modelOf schema settings (owner, .entity)).parentClassName.map (· ++ "Mapper") } := by
  simp only [modelOf, Model.ofClass, Model.className_mapper, Option.map_map, Function.comp_def]

/-- How the artifact of a class leads to that of another: it has the name of it, which gives the
path of it, the other is generated if the kind is, and both have the directory of the kind above
them if neither name leads elsewhere. -/
structure LeadsTo (kind : ArtifactKind) (owner parent : ObjectClass) : Prop where
  named : (modelOf schema settings (owner, kind)).parentClassName =
    some (modelOf schema settings (parent, kind)).className
  path : (modelOf schema settings (owner, kind)).parentClassName.map (settings.artifactPath kind) =
    some (pathOf settings (parent, kind))
  visited : settings.isEnabled kind = true → ∀ templates renderer tree,
    ∃ outcome ∈ (generate schema settings templates renderer tree).2,
      Tells schema settings templates renderer (parent, kind) outcome
  beside : Plain (owner, kind) → Plain (parent, kind) →
    parent? (pathOf settings (owner, kind)) = some (settings.outputDirectory kind) ∧
      parent? (pathOf settings (parent, kind)) = some (settings.outputDirectory kind)

variable {schema} in
theorem leadsTo_of_declaredClassName (kind : ArtifactKind) {owner parent : ObjectClass}
    (among : parent ∈ schema.objectClasses) {reference : String}
    (given : owner.subclassOf = some reference)
    (name : schema.declaredClassName reference = parent.name) :
    LeadsTo schema settings kind owner parent := by
  have named : (modelOf schema settings (owner, kind)).parentClassName =
      some (modelOf schema settings (parent, kind)).className := by
    simp only [modelOf, Model.ofClass, given, Option.map_some, name]
  refine ⟨named, ?_, fun enabled templates renderer tree => ?_, fun plain parentPlain => ?_⟩
  · rw [named]
    rfl
  · exact exists_tells_generate schema settings templates renderer tree
      (mem_artifacts schema settings among enabled)
  · exact ⟨(settings.artifactPath_parent kind (single_of_plain plain)).1,
      (settings.artifactPath_parent kind (single_of_plain parentPlain)).1⟩

end

/-- The artifact of a class leads to that of the first class that its parent is the same name as.
Mappers differ from entities by their package and by the names of artifacts alone, and what a
reference leads to leads to itself. -/
theorem parent_leadsTo (schema : Schema) (settings : Settings) (kind : ArtifactKind)
    (owner : ObjectClass) {reference : String} (given : owner.subclassOf = some reference)
    (declares : schema.Declares reference) :
    (∃ parent : ObjectClass,
      schema.objectClasses.find? (fun other => Text.sameName other.name reference) = some parent ∧
      LeadsTo schema settings kind owner parent) ∧
    modelOf schema settings (owner, .mapper) =
      { modelOf schema settings (owner, .entity) with
        package := Model.packageOf settings.package .mapper
        className := (modelOf schema settings (owner, .entity)).className ++ "Mapper"
        parentClassName :=
          (modelOf schema settings (owner, .entity)).parentClassName.map (· ++ "Mapper") } ∧
    ∀ other : String,
      schema.declaredClassName (schema.declaredClassName other) = schema.declaredClassName other ∧
        Text.sameName (schema.declaredClassName other) other = true := by
  refine ⟨?_, modelOf_mapper schema settings owner, fun other => ?_⟩
  · obtain ⟨parent, found, name⟩ := declares.exists_first
    have among : parent ∈ schema.objectClasses := List.mem_of_find?_eq_some found
    exact ⟨parent, found, leadsTo_of_declaredClassName settings kind among given name⟩
  · exact ⟨schema.declaredClassName_idem other, schema.sameName_declaredClassName other⟩

/-- Two classes with the same name in other cases, and a class that refers to it in a third case. -/
def household : Schema :=
  { objectClasses := [{ name := "head" }, { name := "Person" }, { name := "person" },
      { name := "heir", subclassOf := some "PERSON" }] }

theorem heir_leadsTo :
    household.Declares "PERSON" ∧
      LeadsTo household { outputRoot := "out", package := "app" } .mapper
        { name := "heir", subclassOf := some "PERSON" } { name := "Person" } := by
  have declares : household.Declares "PERSON" := by
    show ∃ declared ∈ household.objectClasses, Text.sameName declared.name "PERSON" = true
    decide
  obtain ⟨⟨parent, found, leads⟩, -, -⟩ :=
    parent_leadsTo household { outputRoot := "out", package := "app" } .mapper
      { name := "heir", subclassOf := some "PERSON" } rfl declares
  have first : household.objectClasses.find? (fun other => Text.sameName other.name "PERSON") =
      some { name := "Person" } := by
    decide
  obtain rfl : parent = { name := "Person" } := Option.some_inj.mp (found.symm.trans first)
  exact ⟨declares, leads⟩

/-- Two classes, the second of which is a subclass of one whose name leads out of the directory. -/
def inheriting : List Decoder.Input :=
  [⟨0, "set object-class a = \x7b\nname = ../Clerk\n\x7d;\n" ++
    "set object-class b = \x7b\nname = heir\nsubclass-of ../Clerk\n\x7d;\n"⟩]

/-- A parent may be decoded without a word and be generated in another directory than its heir. -/
theorem clerk_elsewhere :
    (Decoder.decode inheriting).diagnostics = [] ∧
      ((Decoder.decode inheriting).schema.objectClasses.map fun owner =>
        (owner.name, owner.subclassOf)) = [("../Clerk", none), ("heir", some "../Clerk")] ∧
      (generate (Decoder.decode inheriting).schema entitiesOnly .builtin naming {}).2 =
        [.written "out/app/types/../Clerk.rs", .written "out/app/types/Heir.rs"] ∧
      (placeFrom [] "out/app/types/../Clerk.rs").dropLast = ["out", "app"] ∧
      (placeFrom [] "out/app/types/Heir.rs").dropLast = ["out", "app", "types"] := by
  decide +kernel

end DirSchema.Output
