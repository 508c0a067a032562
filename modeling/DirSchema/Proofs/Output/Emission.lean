import DirSchema.Proofs.Output.Cleanup
import DirSchema.Proofs.Output.Containment
import DirSchema.Proofs.Output.Refusal
set_option autoImplicit false

namespace DirSchema.Output

open DirSchema.Path FileTree

variable {settings : Settings} {tree made : FileTree} {kind : ArtifactKind}

/-- The segments of a package go down. -/
theorem up_not_mem_segment {package segment : String}
    (member : segment ∈ Settings.segments package) : ".." ∉ names segment.toList := by
  intro up
  obtain ⟨piece, cut, rfl⟩ := List.mem_map.mp member
  rw [String.toList_ofList, names, List.mem_filter, List.mem_filterMap] at up
  obtain ⟨⟨inner, within, same⟩, -⟩ := up
  rw [Option.ite_none_left_eq_some, Option.some.injEq] at same
  have dot : '.' ∈ inner := by
    rw [← String.toList_ofList (l := inner), same.2]
    decide
  have solid := (Text.mem_of_mem_fields cut (Text.mem_of_mem_fields within dot).1).2
  revert solid
  decide

private theorem straight_outputDirectory (root : tree.Straight settings.outputRoot)
    (kind : ArtifactKind) :
    tree.Straight (settings.outputDirectory kind) := by
  have package (segments : List String) (path : String) (straight : tree.Straight path)
      (down : ∀ segment ∈ segments, ".." ∉ names segment.toList) :
      tree.Straight (segments.foldl join path) := by
    induction segments generalizing path with
    | nil => exact straight
    | cons segment rest ih =>
        rw [List.forall_mem_cons] at down
        exact ih _ (straight.join down.1) down.2
  refine (package _ _ root fun segment => up_not_mem_segment).join ?_
  cases kind <;> decide

/-- Once the output root is there, the directories of all kinds are found at their places. -/
theorem ready_of_created (proper : tree.Proper) (rooted : settings.outputRoot ≠ "")
    (created : tree.createDirectories settings.outputRoot = (made, none)) : Ready settings made := by
  have deepens := proper.wellFormed.createDirectories_deepens settings.outputRoot
  obtain ⟨reaches, here⟩ := reaches_of_createDirectories rooted created
  rw [created] at deepens
  refine ⟨deepens.wellFormed, ?_, ?_⟩
  · rw [← deepens.base] at here
    exact straight_outputDirectory (.of_reaches reaches here)
  · intro place name contents file
    have member := mem_nodes_of_get? (by simp) (deepens.file_iff.mp file)
    exact proper.named _ member name (by simp)

section Generated

variable {schema : Schema} {templates : Templates} {renderer : Renderer} {name path : String}
  {artifact : ObjectClass × ArtifactKind}

def nameOf (artifact : ObjectClass × ArtifactKind) : String :=
  Settings.fileName (Model.classNameOf artifact.2 artifact.1.name)

private theorem pathOf_eq (settings : Settings) (artifact : ObjectClass × ArtifactKind) :
    pathOf settings artifact = settings.entryPath artifact.2 (nameOf artifact) := rfl

private theorem isGenerated_nameOf (plain : Plain artifact) (named : artifact.1.name ≠ "") :
    IsGenerated (nameOf artifact) := by
  have isName := Settings.isName_fileName (single_of_plain plain)
  refine ⟨isName.single, ?_⟩
  rw [nameOf, ← (entitiesOnly.outputDirectory_ends artifact.2).extension?_join isName
    (Settings.fileName_ne_up _)]
  exact extension?_artifactPath entitiesOnly artifact.2 (single_of_plain plain)
    (Model.classNameOf_ne_empty artifact.2 named)

private theorem mem_written_of_lastWritten? {jobs : List (ObjectClass × ArtifactKind)}
    {outcomes : List Outcome} (last : lastWritten? (jobs.zip outcomes) path = some artifact) :
    path ∈ outcomes.filterMap Outcome.written? := by
  rw [lastWritten?, Option.map_eq_some_iff] at last
  obtain ⟨⟨first, outcome⟩, found, rfl⟩ := last
  have member := List.mem_reverse.mp (List.mem_of_find?_eq_some found)
  have written : outcome.written? = some path := by simpa using List.find?_some found
  exact List.mem_filterMap.mpr ⟨outcome, (List.of_mem_zip member).2, written⟩

/-- A file is as it was before a run, or at the place of a path that was written. -/
theorem fileAt?_generate (settings : Settings) (templates : Templates) (renderer : Renderer)
    (plain : PlainNames schema) (tree : FileTree) (place : Location) :
    (∃ path ∈ (generate schema settings templates renderer tree).2.filterMap Outcome.written?,
      place = placeFrom tree.base path) ∨
    (generate schema settings templates renderer tree).1.fileAt? place = tree.fileAt? place := by
  rw [generate]
  by_cases own : ∃ artifact ∈ artifacts schema settings,
      place = placeFrom tree.base (pathOf settings artifact)
  · obtain ⟨artifact, member, here⟩ := own
    rw [here]
    have stored := fileAt?_generateAll schema settings templates renderer tree
      (artifacts schema settings) (fun _ => plain_of_mem_artifacts plain)
      (plain_of_mem_artifacts plain member)
    cases last : lastWritten? ((artifacts schema settings).zip
        (generateAll schema settings templates renderer tree (artifacts schema settings)).2)
        (pathOf settings artifact) with
    | some writer => exact .inl ⟨_, mem_written_of_lastWritten? last, rfl⟩
    | none =>
        rw [last] at stored
        exact .inr stored
  · right
    apply fileAt?_generateAll_of_ne
    intro artifact member same
    exact own ⟨artifact, member, same⟩

/-- A path that was written is one of a generated file in the directory of an enabled kind. -/
theorem entry_of_mem_written (plain : PlainNames schema)
    (named : ∀ owner ∈ schema.objectClasses, owner.name ≠ "") (tree : FileTree)
    (written : path ∈
      (generate schema settings templates renderer tree).2.filterMap Outcome.written?) :
    ∃ kind ∈ settings.enabledKinds, ∃ name, IsGenerated name ∧
      path = settings.entryPath kind name ∧
      settings.Holds (generate schema settings templates renderer tree).1 kind name := by
  obtain ⟨artifact, member, contents, -, same, -, reaches, stored⟩ :=
    stored_generate plain tree written
  obtain ⟨among, enabled⟩ := enabled_of_mem_artifacts member
  have generated := isGenerated_nameOf (plain_of_mem_artifacts plain member) (named _ among)
  have ends := settings.outputDirectory_ends artifact.2
  have parent := (ends.join_parent generated.isName.1).2
  rw [pathOf_eq] at same
  rw [same] at reaches stored
  rw [settings.placeFrom_entryPath artifact.2 generated] at stored
  refine ⟨artifact.2, enabled, nameOf artifact, generated, same, generated, ?_, ?_⟩
  · exact (ends.join_ends generated.isName.1).lookable_parent parent reaches.lookable
  · rw [stored]
    rfl

/-- The generated files after a run are those from before it and those that were written. -/
theorem holds_generate (plain : PlainNames schema)
    (named : ∀ owner ∈ schema.objectClasses, owner.name ≠ "") (tree : FileTree)
    (kind : ArtifactKind) (name : String) :
    settings.Holds (generate schema settings templates renderer tree).1 kind name ↔
      settings.Holds tree kind name ∨ IsGenerated name ∧ settings.entryPath kind name ∈
        (generate schema settings templates renderer tree).2.filterMap Outcome.written? := by
  have base : (generate schema settings templates renderer tree).1.base = tree.base :=
    (keeps_generate schema settings templates renderer tree).base
  have file := fileAt?_generate settings templates renderer plain tree
    (settings.entryPlace tree.base kind name)
  constructor
  · intro holds
    rcases file with ⟨path, written, place⟩ | same
    · obtain ⟨other, -, otherName, generated, path, -⟩ :=
        entry_of_mem_written plain named tree written
      rw [path, Settings.placeFrom_entryPath _ _ generated] at place
      obtain ⟨rfl, rfl⟩ := Settings.entryPlace_inj place
      rw [path] at written
      exact .inr ⟨generated, written⟩
    · rw [← base] at same
      exact .inl (holds.congr base.symm same.symm)
  · rintro (holds | ⟨generated, written⟩)
    · rcases file with ⟨path, written, place⟩ | same
      · obtain ⟨other, -, otherName, generated, path, stored⟩ :=
          entry_of_mem_written plain named tree written
        rw [path, Settings.placeFrom_entryPath _ _ generated] at place
        obtain ⟨rfl, rfl⟩ := Settings.entryPlace_inj place
        exact stored
      · exact holds.congr base same
    · obtain ⟨other, -, otherName, otherGenerated, path, stored⟩ :=
        entry_of_mem_written plain named tree written
      obtain ⟨rfl, rfl⟩ := Settings.entryPath_inj generated otherGenerated path
      exact stored

end Generated

end DirSchema.Output
