import DirSchema.Proofs.Output.Alike
set_option autoImplicit false

namespace DirSchema.Output

open DirSchema.Path FileTree
open DirSchema.Source (Registry)

/-- What a run that cleans up leaves of a tree. -/
structure Refreshed (settings : Settings) (before after : FileTree) (report : Report) : Prop where
  current : ∀ kind ∈ settings.enabledKinds, ∀ name, settings.Holds after kind name ↔
    IsGenerated name ∧ settings.entryPath kind name ∈ report.written
  written : ∀ path ∈ report.written, ∃ kind ∈ settings.enabledKinds, ∃ name,
    IsGenerated name ∧ path = settings.entryPath kind name
  /-- The removed files are those that were there, of one kind after the other and each once, in the
  order of their names. -/
  removed : ∃ names : ArtifactKind → List String,
    report.removed = (settings.enabledKinds.flatMap fun kind =>
      (names kind).map (settings.entryPath kind)) ∧
    ∀ kind ∈ settings.enabledKinds, (names kind).Pairwise (· < ·) ∧
      ∀ name, name ∈ names kind ↔ settings.Holds before kind name
  once : report.removed.Nodup
  kept : ∀ place node, before.get? place = some node →
    (∀ kind ∈ settings.enabledKinds, ∀ name, settings.Holds before kind name →
      place ≠ settings.entryPlace before.base kind name) →
    after.get? place = some node
  files : ∀ place contents, after.get? place = some (.file contents) →
    before.get? place = some (.file contents) ∨
      ∃ kind ∈ settings.enabledKinds, ∃ name, settings.Holds after kind name ∧
        place = settings.entryPlace after.base kind name
  directories : ∀ place, after.get? place = some .directory →
    before.get? place = some .directory ∨
      (before.get? place = none ∧ (place ∈ chainFrom before.base settings.outputRoot ∨
        ∃ kind ∈ settings.enabledKinds,
          place ∈ chainFrom before.base (settings.outputDirectory kind)))

section Emit

variable {settings : Settings} {schema : Schema} {templates : Templates} {renderer : Renderer}
  {tree made after : FileTree} {kind : ArtifactKind} {name : String} {place : Location}

theorem nodup_enabledKinds (settings : Settings) : settings.enabledKinds.Nodup :=
  List.Nodup.filter _ (by decide)

/-- Generated files of all kinds have different paths. -/
theorem nodup_entryPaths {kinds : List ArtifactKind} (nodup : kinds.Nodup)
    (names : ArtifactKind → List String)
    (listed : ∀ kind ∈ kinds, (names kind).Nodup ∧ ∀ name ∈ names kind, IsGenerated name) :
    (kinds.flatMap fun kind => (names kind).map (settings.entryPath kind)).Nodup := by
  rw [List.nodup_flatMap]
  constructor
  · intro kind member
    refine (listed kind member).1.map_on ?_
    intro first here second there same
    exact (Settings.entryPath_inj ((listed kind member).2 first here)
      ((listed kind member).2 second there) same).2
  · refine nodup.imp_of_mem ?_
    intro first second here there apart path
    simp only [List.mem_map]
    rintro ⟨name, member, rfl⟩ ⟨otherName, otherMember, same⟩
    exact apart (Settings.entryPath_inj ((listed second there).2 otherName otherMember)
      ((listed first here).2 name member) same).1.symm

section Run

variable {kinds : List ArtifactKind} (plain : PlainNames schema)
  (named : ∀ owner ∈ schema.objectClasses, owner.name ≠ "")
include plain named

/-- A file that stands before a run is replaced, or left as it was. -/
theorem file_of_generate {contents : ByteArray} (file : tree.get? place = some (.file contents)) :
    ∃ others, (generate schema settings templates renderer tree).1.get? place =
        some (.file others) ∧
      (others = contents ∨ ∃ kind ∈ settings.enabledKinds, ∃ name,
        settings.Holds tree kind name ∧ place = settings.entryPlace tree.base kind name) := by
  have base : (generate schema settings templates renderer tree).1.base = tree.base :=
    (keeps_generate schema settings templates renderer tree).base
  rw [← fileAt?_eq_some] at file
  rcases fileAt?_generate settings templates renderer plain tree place with
    ⟨path, written, here⟩ | same
  · obtain ⟨kind, enabled, name, generated, text, holds⟩ :=
      entry_of_mem_written plain named tree written
    rw [text, Settings.placeFrom_entryPath _ _ generated] at here
    obtain ⟨others, stored⟩ := Option.isSome_iff_exists.mp holds.file
    rw [base, ← here] at stored
    refine ⟨others, fileAt?_eq_some.mp stored, .inr ⟨kind, enabled, name, ?_, here⟩⟩
    exact ⟨generated, holds.lookable, by rw [← here, file]; rfl⟩
  · rw [file] at same
    exact ⟨contents, fileAt?_eq_some.mp same, .inl rfl⟩

/-- What is not a generated file of an enabled kind stays as it was. -/
theorem kept_generate {made : FileTree} {node : Node} (enabled : kinds ⊆ settings.enabledKinds)
    (clears : Clears made tree (Stale settings made kinds)) (found : made.get? place = some node)
    (apart : ∀ kind ∈ settings.enabledKinds, ∀ name, settings.Holds made kind name →
      place ≠ settings.entryPlace made.base kind name) :
    (generate schema settings templates renderer tree).1.get? place = some node := by
  have spared : ¬ Stale settings made kinds place := by
    rintro ⟨kind, member, name, holds, -, here⟩
    exact apart kind (enabled member) name holds here
  rw [← clears.kept spared] at found
  cases node with
  | directory => exact (keeps_generate schema settings templates renderer tree).directory found
  | file contents =>
      obtain ⟨others, stored, rfl | ⟨kind, member, name, holds, here⟩⟩ :=
        file_of_generate plain named found
      · exact stored
      · rw [clears.base] at here
        exact absurd here (apart kind member name ((holds_of_clears clears).mp holds).1)

theorem refreshed_generate (ready : Ready settings made)
    (clears : Clears made tree (Stale settings made settings.enabledKinds))
    (later : Ready settings tree)
    (all : ∀ kind ∈ settings.enabledKinds, ∀ name, settings.Holds made kind name →
      Lookable (settings.entryPath kind name))
    (distinct : (made.nodes.map Prod.fst).Nodup) {report : Report}
    (written : report.written =
      (generate schema settings templates renderer tree).2.filterMap Outcome.written?)
    (removed : report.removed = settings.enabledKinds.flatMap fun kind =>
      (oldNames settings made kind).map (settings.entryPath kind)) :
    Refreshed settings made (generate schema settings templates renderer tree).1 report := by
  have keeps := keeps_generate schema settings templates renderer tree
  have listed (kind : ArtifactKind) : (oldNames settings made kind).Pairwise (· < ·) ∧
      ∀ name, name ∈ oldNames settings made kind ↔ settings.Holds made kind name :=
    ⟨pairwise_oldNames distinct kind, fun name => mem_oldNames_iff ready⟩
  refine ⟨?_, ?_, ⟨oldNames settings made, removed, fun kind _ => listed kind⟩, ?_, ?_, ?_, ?_⟩
  · intro kind enabled name
    rw [written, holds_generate plain named tree kind name, or_iff_right]
    intro holds
    obtain ⟨held, spared⟩ := (holds_of_clears clears).mp holds
    exact spared enabled (all kind enabled name held)
  · intro path member
    rw [written] at member
    obtain ⟨kind, enabled, name, generated, text, -⟩ :=
      entry_of_mem_written plain named tree member
    exact ⟨kind, enabled, name, generated, text⟩
  · rw [removed]
    refine nodup_entryPaths (nodup_enabledKinds settings) _ fun kind _ => ⟨?_, ?_⟩
    · exact (listed kind).1.nodup
    · exact fun name member => (((listed kind).2 name).mp member).generated
  · intro place node found apart
    exact kept_generate plain named (List.Subset.refl _) clears found apart
  · intro place contents found
    rw [← fileAt?_eq_some] at found
    rcases fileAt?_generate settings templates renderer plain tree place with
      ⟨path, member, here⟩ | same
    · obtain ⟨kind, enabled, name, generated, text, holds⟩ :=
        entry_of_mem_written plain named tree member
      rw [text, Settings.placeFrom_entryPath _ _ generated, ← keeps.base] at here
      exact .inr ⟨kind, enabled, name, holds, here⟩
    · rw [same, fileAt?_eq_some] at found
      exact .inl (clears.of_some found).2
  · intro place found
    have walked := found
    rw [generate, directory_generateAll_iff later fun _ => plain_of_mem_artifacts plain] at walked
    rcases walked with earlier | ⟨artifact, member, -, passed⟩
    · exact .inl (clears.of_some earlier).2
    · have inside := walkOf_subset _ _ passed
      have spared : ¬ Stale settings made settings.enabledKinds place :=
        fun stale => not_mem_chain_of_stale clears later stale artifact.2 inside
      have same := clears.kept spared
      rw [clears.base] at inside
      cases standing : made.get? place with
      | none => exact .inr ⟨rfl, .inr ⟨artifact.2, (enabled_of_mem_artifacts member).2, inside⟩⟩
      | some node =>
          cases node with
          | directory => exact .inl rfl
          | file contents =>
              rw [standing] at same
              obtain ⟨others, stored, -⟩ := file_of_generate plain named same
              rw [found] at stored
              cases stored

end Run

end Emit

section Compile

variable {renderer : Renderer} {paths : List String} {settings : Settings}
  {tree made after : FileTree} {registry : Registry} {report : Report}

/-- Making the output root adds to what a run makes. -/
theorem Refreshed.of_deepens
    (deepens : Deepens tree made (chainFrom tree.base settings.outputRoot))
    (refreshed : Refreshed settings made after report) :
    Refreshed settings tree after report := by
  obtain ⟨current, written, ⟨names, removed, listed⟩, once, kept, files, directories⟩ := refreshed
  rw [deepens.base] at kept directories
  have holds (kind : ArtifactKind) (name : String) :
      settings.Holds made kind name ↔ settings.Holds tree kind name :=
    Settings.holds_of_extends deepens.toExtends
  refine ⟨current, written, ⟨names, removed, ?_⟩, once, ?_, ?_, ?_⟩
  · intro kind enabled
    exact ⟨(listed kind enabled).1, fun name =>
      ((listed kind enabled).2 name).trans (holds kind name)⟩
  · intro place node found apart
    exact kept place node (deepens.kept found) fun kind enabled name held =>
      apart kind enabled name ((holds kind name).mp held)
  · intro place contents found
    exact (files place contents found).imp_left deepens.file_iff.mp
  · intro place found
    have vacant (inside : made.get? place = none ∨ made.get? place = some .directory) :
        tree.get? place = some .directory ∨ tree.get? place = none := by
      cases standing : tree.get? place with
      | none => exact .inr rfl
      | some node =>
          rw [deepens.kept standing] at inside
          left
          rcases inside with nothing | directory
          · cases nothing
          · exact directory
    rcases directories place found with earlier | ⟨nothing, inside⟩
    · rcases deepens.within earlier with there | inside
      · exact .inl there
      · exact (vacant (.inr earlier)).imp_right fun nothing => ⟨nothing, .inl inside⟩
    · exact (vacant (.inl nothing)).imp_right fun nothing => ⟨nothing, inside⟩

theorem cleaned_of_removing (removing : settings.removeOldOutput = true) (tree : FileTree) :
    cleaned settings tree = cleanKinds settings tree settings.enabledKinds := if_pos removing

/-- If nothing is reported about cleanup, no file could not be removed. -/
theorem removed_of_diagnostics {emitted : Emitted} {diagnostics : List Diagnostic}
    (fine : ∀ diagnostic ∈ diagnostics ++ emitted.diagnostics,
      diagnostic.code ≠ some Diagnostic.Code.cleanupFailed.name) :
    ∀ removal ∈ emitted.removals, removal.diagnostic? = none := by
  intro removal member
  cases removal with
  | removed path => rfl
  | failed failure =>
      have reported : ∃ diagnostic ∈ emitted.diagnostics,
          diagnostic.code = some Diagnostic.Code.cleanupFailed.name :=
        ⟨_, List.mem_append_left _ (List.mem_filterMap.mpr ⟨.failed failure, member, rfl⟩), rfl⟩
      obtain ⟨diagnostic, among, code⟩ := reported
      exact absurd code (fine diagnostic (List.mem_append_right _ among))

theorem removed_of_removals (kinds : List ArtifactKind) (names : ArtifactKind → List String) :
    (kinds.flatMap fun kind =>
        (names kind).map fun name => Removal.removed (settings.entryPath kind name)).filterMap
      Removal.removed? = kinds.flatMap fun kind => (names kind).map (settings.entryPath kind) := by
  rw [List.filterMap_flatMap]
  refine List.flatMap_congr fun kind _ => ?_
  rw [List.filterMap_map, ← List.filterMap_eq_map]
  rfl

/-- A run that succeeds and cleans up leaves the generated files that it reports as written and no
others, if no class has a name with a separator and no file could not be removed. -/
theorem compile_refreshes (renderer : Renderer) (paths : List String) (settings : Settings)
    (tree : FileTree) (registry : Registry) (report : Report) (proper : tree.Proper)
    (removing : settings.removeOldOutput = true)
    (plain : ∀ schema, (Decoder.decodeFiles tree registry paths).result = .ok schema →
      PlainNames schema)
    (success : (compileWith renderer paths settings tree registry).result = .ok report)
    (fine : ∀ diagnostic ∈ (compileWith renderer paths settings tree registry).diagnostics,
      diagnostic.code ≠ some Diagnostic.Code.cleanupFailed.name) :
    Refreshed settings tree (compileWith renderer paths settings tree registry).tree report := by
  obtain ⟨templates, schema, made, startable, loaded, decoded, created, emits, rfl⟩ :=
    exists_emits success
  have deepens := proper.wellFormed.createDirectories_deepens settings.outputRoot
  have distinct := distinct_createDirectories proper.distinct settings.outputRoot
  rw [created] at deepens distinct
  have ready := ready_of_created proper startable.outputRoot created
  have swept := cleaned_cleanKinds ready settings.enabledKinds
  rw [← cleaned_of_removing removing made] at swept
  rw [emits.diagnostics] at fine
  obtain ⟨removals, lookable⟩ :=
    swept.removed distinct (nodup_enabledKinds settings) (removed_of_diagnostics fine)
  rw [emits.tree]
  refine Refreshed.of_deepens deepens (refreshed_generate (plain schema decoded)
    (Decoder.name_ne_empty_of_decodeFiles decoded) ready swept.clears swept.ready lookable
    distinct rfl ?_)
  show (cleaned settings made).2.filterMap Removal.removed? = _
  rw [removals, removed_of_removals]

theorem plainNames_of_names {result : Except Decoder.FileUnreadable Schema} {names : List String}
    (decoded : result.map (·.objectClasses.map (·.name)) = .ok names)
    (single : ∀ name ∈ names, '/' ∉ name.toList) :
    ∀ schema, result = .ok schema → PlainNames schema := by
  rintro schema rfl owner member
  rw [Except.map, Except.ok.injEq] at decoded
  apply single
  rw [← decoded]
  exact List.mem_map_of_mem member

/-- Entities of a package, after those of earlier runs were removed. -/
def refreshing : Settings := { entitiesOnly with removeOldOutput := true }

/-- A tree with a schema file, two old artifacts, and other things beside and below them. -/
def outdated : FileTree where
  nodes :=
    [(["a.dxc"], .file "set object-class c = \x7b\nname = person\n\x7d;\n".toUTF8),
      (["out"], .directory), (["out", "app"], .directory), (["out", "app", "types"], .directory),
      (["out", "app", "types", "Person.rs"], .file "old".toUTF8),
      (["out", "app", "types", "Gone.rs"], .file "old".toUTF8),
      (["out", "app", "types", "notes.txt"], .file "kept".toUTF8),
      (["out", "app", "types", "deep.rs"], .directory),
      (["out", "app", "types", "deep.rs", "Old.rs"], .file "kept".toUTF8)]

theorem outdated_refreshed :
    Refreshed refreshing outdated (compileWith naming ["a.dxc"] refreshing outdated {}).tree
      { removed := ["out/app/types/Gone.rs", "out/app/types/Person.rs"]
        written := ["out/app/types/Person.rs"] } := by
  have names : (Decoder.decodeFiles outdated {} ["a.dxc"]).result.map
      (·.objectClasses.map (·.name)) = .ok ["person"] := by rfl
  exact compile_refreshes naming ["a.dxc"] refreshing outdated {} _ (by decide +kernel) rfl
    (plainNames_of_names names (by decide)) (by rfl) (by decide +kernel)

end Compile
end DirSchema.Output
