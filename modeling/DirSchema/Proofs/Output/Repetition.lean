import DirSchema.Proofs.Model.Relocation
import DirSchema.Proofs.Output.Refresh
set_option autoImplicit false

namespace DirSchema

structure FileTree.Same (tree other : FileTree) : Prop where
  base : other.base = tree.base
  node : ∀ place, other.get? place = tree.get? place

namespace Output

open DirSchema.Path FileTree
open DirSchema.Source (Registry)

section Relocate

variable (move : Coord → Coord) (schema : Schema) (settings : Settings) (templates : Templates)
  (renderer : Renderer)

private theorem generateOne_relocate (tree : FileTree) (artifact : ObjectClass × ArtifactKind) :
    generateOne (schema.relocate move) settings templates renderer tree
        (artifact.1.relocate move, artifact.2) =
      generateOne schema settings templates renderer tree artifact := by
  have model : modelOf (schema.relocate move) settings (artifact.1.relocate move, artifact.2) =
      modelOf schema settings artifact := Model.ofClass_relocate move schema _ _ _
  have path : pathOf settings (artifact.1.relocate move, artifact.2) = pathOf settings artifact := rfl
  rw [generateOne_eq, generateOne_eq, rendering, rendering, model, path]

private theorem generateAll_relocate (tree : FileTree) (jobs : List (ObjectClass × ArtifactKind)) :
    generateAll (schema.relocate move) settings templates renderer tree
        (jobs.map fun artifact => (artifact.1.relocate move, artifact.2)) =
      generateAll schema settings templates renderer tree jobs := by
  induction jobs generalizing tree with
  | nil => rfl
  | cons artifact rest ih =>
      rw [List.map_cons, generateAll_cons, generateAll_cons, generateOne_relocate, ih]

/-- What is generated does not depend on where things were declared. -/
theorem generate_relocate (tree : FileTree) :
    generate (schema.relocate move) settings templates renderer tree =
      generate schema settings templates renderer tree := by
  have jobs : artifacts (schema.relocate move) settings =
      (artifacts schema settings).map fun artifact => (artifact.1.relocate move, artifact.2) := by
    rw [artifacts, artifacts, Schema.relocate, List.flatMap_map, List.map_flatMap]
    simp only [List.map_map]
    rfl
  rw [generate, generate, jobs, generateAll_relocate]

end Relocate

section Emit

variable {settings : Settings} {schema : Schema} {templates : Templates} {renderer : Renderer}
  {tree made after other : FileTree} {kinds : List ArtifactKind} {place : Location}

def cleanedKinds (settings : Settings) : List ArtifactKind :=
  if settings.removeOldOutput then settings.enabledKinds else []

private theorem cleanedKinds_subset (settings : Settings) :
    cleanedKinds settings ⊆ settings.enabledKinds := by
  rw [cleanedKinds]
  split
  · exact List.Subset.refl _
  · exact List.nil_subset _

theorem cleaned_eq (settings : Settings) (tree : FileTree) :
    cleaned settings tree = cleanKinds settings tree (cleanedKinds settings) := by
  rw [cleaned, cleanedKinds]
  split <;> rfl

private theorem directory_iff_of_clears {gone : Location → Prop} (clears : Clears tree after gone) :
    after.get? place = some .directory ↔ tree.get? place = some .directory :=
  ⟨fun found => (clears.of_some found).2, clears.keeps.directory⟩

private theorem get?_eq_of_file (file : other.fileAt? place = tree.fileAt? place)
    (directory : other.get? place = some .directory ↔ tree.get? place = some .directory) :
    other.get? place = tree.get? place := by
  rw [fileAt?, fileAt?] at file
  cases found : tree.get? place with
  | none =>
      cases otherFound : other.get? place with
      | none => rfl
      | some node => cases node <;> simp_all
  | some node =>
      cases otherFound : other.get? place with
      | none => cases node <;> simp_all
      | some otherNode => cases node <;> cases otherNode <;> simp_all

theorem keeps_emit (ready : Ready settings tree) :
    Keeps tree (emit schema settings templates renderer tree).tree := by
  have swept := cleaned_cleanKinds ready (cleanedKinds settings)
  rw [← cleaned_eq] at swept
  exact swept.clears.keeps.trans (keeps_generate schema settings templates renderer _)

section Run

variable (plain : PlainNames schema) (named : ∀ owner ∈ schema.objectClasses, owner.name ≠ "")
include plain

private theorem directory_generate_iff (ready : Ready settings tree) (place : Location) :
    (generate schema settings templates renderer tree).1.get? place = some .directory ↔
      tree.get? place = some .directory ∨ ∃ artifact ∈ artifacts schema settings,
        (∃ contents, rendering schema settings templates renderer artifact = .ok contents) ∧
          place ∈ (walkOf tree (settings.outputDirectory artifact.2)).1 :=
  directory_generateAll_iff ready (fun _ => plain_of_mem_artifacts plain) place

include named

/-- What cleanup removes after a run is what the run has written. -/
theorem written_of_stale (clears : Clears made tree (Stale settings made kinds))
    (stale : Stale settings (generate schema settings templates renderer tree).1 kinds place) :
    ∃ path ∈ (generate schema settings templates renderer tree).2.filterMap Outcome.written?,
      place = placeFrom tree.base path := by
  have base := (keeps_generate schema settings templates renderer tree).base
  obtain ⟨kind, member, name, holds, lookable, here⟩ := stale
  rw [base] at here
  rcases (holds_generate plain named tree kind name).mp holds with earlier | ⟨generated, written⟩
  · exact absurd lookable (((holds_of_clears clears).mp earlier).2 member)
  · exact ⟨_, written, by rw [here, Settings.placeFrom_entryPath _ _ generated]⟩

/-- A run with the same outcomes on what another one has left, without what it has written, leaves
the same files. -/
theorem fileAt?_generate_again (cleared : Clears made tree (Stale settings made kinds))
    (clears : Clears (generate schema settings templates renderer tree).1 after
      (Stale settings (generate schema settings templates renderer tree).1 kinds))
    (outcomes : (generate schema settings templates renderer after).2 =
      (generate schema settings templates renderer tree).2) (place : Location) :
    (generate schema settings templates renderer after).1.fileAt? place =
      (generate schema settings templates renderer tree).1.fileAt? place := by
  have keeps := keeps_generate schema settings templates renderer tree
  have keepsAgain := keeps_generate schema settings templates renderer after
  have base := clears.base.trans keeps.base
  by_cases written : ∃ path ∈
      (generate schema settings templates renderer tree).2.filterMap Outcome.written?,
      place = placeFrom tree.base path
  · obtain ⟨path, member, here⟩ := written
    obtain ⟨artifact, -, contents, last, -, rendered, -, stored⟩ :=
      stored_generate plain tree member
    rw [← outcomes] at member last
    obtain ⟨again, -, others, lastAgain, -, renderedAgain, -, storedAgain⟩ :=
      stored_generate plain after member
    rw [last, Option.some.injEq] at lastAgain
    subst lastAgain
    rw [rendered, Except.ok.injEq] at renderedAgain
    subst renderedAgain
    rw [keeps.base, ← here] at stored
    rw [keepsAgain.base, base, ← here] at storedAgain
    rw [stored, storedAgain]
  · have spared : ¬ Stale settings (generate schema settings templates renderer tree).1 kinds
        place := fun stale => written (written_of_stale plain named cleared stale)
    rcases fileAt?_generate settings templates renderer plain after place with
      ⟨path, member, here⟩ | same
    · rw [outcomes] at member
      rw [base] at here
      exact absurd ⟨path, member, here⟩ written
    · rw [same, fileAt?, fileAt?, clears.kept spared]

/-- A run on what another one has left, without what cleanup removes of it, does the same. -/
theorem generate_again (ready : Ready settings tree) (later : Ready settings after)
    (cleared : Clears made tree (Stale settings made kinds))
    (clears : Clears (generate schema settings templates renderer tree).1 after
      (Stale settings (generate schema settings templates renderer tree).1 kinds)) :
    (generate schema settings templates renderer after).2 =
        (generate schema settings templates renderer tree).2 ∧
      (generate schema settings templates renderer tree).1.Same
        (generate schema settings templates renderer after).1 := by
  have plainAll : ∀ artifact ∈ artifacts schema settings, Plain artifact :=
    fun _ => plain_of_mem_artifacts plain
  have alike : Alike settings after tree :=
    ((alike_generateAll ready plainAll).trans (alike_of_clears later clears)).symm
  have outcomes : (generate schema settings templates renderer after).2 =
      (generate schema settings templates renderer tree).2 :=
    alike.outcomes_eq later ready plainAll
  refine ⟨outcomes, ?_, fun place => get?_eq_of_file ?_ ?_⟩
  · exact (keeps_generate schema settings templates renderer after).base.trans clears.base
  · exact fileAt?_generate_again plain named cleared clears outcomes place
  · rw [directory_generate_iff plain later, directory_iff_of_clears clears,
      directory_generate_iff plain ready]
    simp only [alike.walkOf_eq, or_assoc, or_self]

variable (templates) (renderer) in
/-- Emitting once more has the same outcomes and leaves the tree as it was. -/
theorem emit_again (ready : Ready settings tree) :
    (emit schema settings templates renderer
          (emit schema settings templates renderer tree).tree).outcomes =
        (emit schema settings templates renderer tree).outcomes ∧
      (emit schema settings templates renderer tree).tree.Same
        (emit schema settings templates renderer
          (emit schema settings templates renderer tree).tree).tree := by
  have first := cleaned_cleanKinds ready (cleanedKinds settings)
  rw [← cleaned_eq] at first
  have middle : Ready settings
      (generate schema settings templates renderer (cleaned settings tree).1).1 :=
    ready_generateAll first.ready fun _ => plain_of_mem_artifacts plain
  have second := cleaned_cleanKinds middle (cleanedKinds settings)
  rw [← cleaned_eq] at second
  exact generate_again plain named first.ready second.ready first.clears second.clears

private theorem kept_emit {node : Node} (ready : Ready settings tree)
    (found : tree.get? place = some node)
    (apart : ∀ kind ∈ settings.enabledKinds, ∀ name, settings.Holds tree kind name →
      place ≠ settings.entryPlace tree.base kind name) :
    (emit schema settings templates renderer tree).tree.get? place = some node := by
  have swept := cleaned_cleanKinds ready (cleanedKinds settings)
  rw [← cleaned_eq] at swept
  exact kept_generate plain named (cleanedKinds_subset settings) swept.clears found apart

end Run

theorem emit_relocate (move : Coord → Coord) (schema : Schema) (settings : Settings)
    (templates : Templates) (renderer : Renderer) (tree : FileTree) :
    emit (schema.relocate move) settings templates renderer tree =
      emit schema settings templates renderer tree := by
  simp only [emit, generate_relocate]

end Emit

section Read

variable {paths : List String} {settings : Settings} {tree after : FileTree} {kind : ArtifactKind}

private theorem Templates.loadKind_again {source : String}
    (kept : ∀ path text, settings.template? kind = some path → tree.readText path = .ok text →
      after.readText path = .ok text)
    (loaded : loadKind tree settings kind = .ok source) :
    loadKind after settings kind = .ok source := by
  rw [loadKind] at loaded ⊢
  cases named : settings.template? kind with
  | none =>
      rw [named] at loaded
      exact loaded
  | some path =>
      rw [named] at loaded
      dsimp only at loaded ⊢
      cases read : tree.readText path with
      | error failure =>
          rw [read] at loaded
          cases loaded
      | ok text =>
          rw [read] at loaded
          rw [kept path text named read]
          exact loaded

theorem Templates.load_again {templates : Templates}
    (kept : ∀ kind path text, settings.template? kind = some path →
      tree.readText path = .ok text → after.readText path = .ok text)
    (loaded : load tree settings = .ok templates) : load after settings = .ok templates := by
  rw [load] at loaded ⊢
  cases entity : loadKind tree settings .entity with
  | error error =>
      rw [entity] at loaded
      cases loaded
  | ok first =>
      cases mapper : loadKind tree settings .mapper with
      | error error =>
          rw [entity, mapper] at loaded
          cases loaded
      | ok second =>
          rw [entity, mapper] at loaded
          rw [loadKind_again (kept .entity) entity, loadKind_again (kept .mapper) mapper]
          exact loaded

private theorem reads_again {texts : List String}
    (kept : ∀ path ∈ paths, ∀ text, tree.readText path = .ok text → after.readText path = .ok text)
    (reads : Decoder.Reads tree paths texts) : Decoder.Reads after paths texts := by
  induction reads with
  | nil => exact .nil
  | cons read _ ih =>
      rw [List.forall_mem_cons] at kept
      exact .cons (kept.1 _ read) (ih kept.2)

/-- The same files are decoded to the same schema, but for where things stand. -/
theorem decodeFiles_again {registry : Registry} {schema : Schema} (again : Registry)
    (kept : ∀ path ∈ paths, ∀ text, tree.readText path = .ok text → after.readText path = .ok text)
    (decoded : (Decoder.decodeFiles tree registry paths).result = .ok schema) :
    ∃ other, (Decoder.decodeFiles after again paths).result = .ok other ∧
      other.relocate (fun _ => default) = schema.relocate fun _ => default := by
  obtain ⟨texts, lines, reads, same, rfl⟩ := Decoder.exists_decodeLines decoded
  obtain ⟨linesAgain, sameAgain, decodedAgain⟩ :=
    Decoder.decodeFiles_eq again (reads_again kept reads)
  have moved := Decoder.decodeLines_of_texts linesAgain lines (sameAgain.trans same.symm) default
  exact ⟨_, decodedAgain, congrArg Decoder.Decoded.schema moved⟩

end Read

section Compile

variable {renderer : Renderer} {paths : List String} {settings : Settings} {tree made : FileTree}

def sources (paths : List String) (settings : Settings) : List String :=
  paths ++ ArtifactKind.all.filterMap settings.template?

/-- Whether no file that a run reads is a generated file of an enabled kind. -/
def SourcesApart (paths : List String) (settings : Settings) (tree : FileTree) : Prop :=
  ∀ path ∈ sources paths settings, ∀ kind ∈ settings.enabledKinds, ∀ name,
    settings.Holds tree kind name →
      placeFrom tree.base path ≠ settings.entryPlace tree.base kind name

/-- A run that succeeds, does what another one did, and leaves the tree as that one left it. -/
structure Repeats (first second : Compiled) : Prop where
  reports : ∃ report again, first.result = .ok report ∧ second.result = .ok again ∧
    again.written = report.written ∧ again.skipped = report.skipped
  tree : first.tree.Same second.tree

theorem mem_sources_of_template? {kind : ArtifactKind} {path : String}
    (named : settings.template? kind = some path) : path ∈ sources paths settings := by
  refine List.mem_append_right _ (List.mem_filterMap.mpr ⟨kind, ?_, named⟩)
  cases kind <;> decide

/-- What a run has read can be read again when it is over. -/
theorem readText_again {schema : Schema} {templates : Templates} {path text : String}
    (plain : PlainNames schema) (named : ∀ owner ∈ schema.objectClasses, owner.name ≠ "")
    (ready : Ready settings made) (grown : Extends tree made)
    (apart : SourcesApart paths settings tree) (member : path ∈ sources paths settings)
    (read : tree.readText path = .ok text) :
    (emit schema settings templates renderer made).tree.readText path = .ok text := by
  refine (grown.keeps.trans (keeps_emit ready)).readText ?_ read
  intro contents file
  apply kept_emit plain named ready (grown.kept file)
  intro kind enabled name holds
  rw [grown.base]
  exact apart path member kind enabled name ((Settings.holds_of_extends grown).mp holds)

/-- A run that succeeded can be repeated: it writes and skips the same, for the same reasons, and
leaves the tree as it was, if no class has a name with a separator and none of the files that it
reads is one that it may remove or write. -/
theorem compile_idempotent (renderer : Renderer) (paths : List String) (settings : Settings)
    (tree : FileTree) (registry again : Registry) (report : Report) (proper : tree.Proper)
    (plain : ∀ schema, (Decoder.decodeFiles tree registry paths).result = .ok schema →
      PlainNames schema)
    (apart : SourcesApart paths settings tree)
    (success : (compileWith renderer paths settings tree registry).result = .ok report) :
    Repeats (compileWith renderer paths settings tree registry)
      (compileWith renderer paths settings
        (compileWith renderer paths settings tree registry).tree again) := by
  obtain ⟨templates, schema, made, startable, loaded, decoded, created, emits, rfl⟩ :=
    exists_emits success
  have plain := plain schema decoded
  have named := Decoder.name_ne_empty_of_decodeFiles decoded
  have ready := ready_of_created proper startable.outputRoot created
  have grown := FileTree.createDirectories_extends tree settings.outputRoot
  obtain ⟨reaches, here⟩ := reaches_of_createDirectories startable.outputRoot created
  rw [created] at grown
  have keeps : Keeps made (emit schema settings templates renderer made).tree := keeps_emit ready
  have kept : ∀ path ∈ sources paths settings, ∀ text, tree.readText path = .ok text →
      (emit schema settings templates renderer made).tree.readText path = .ok text :=
    fun path member text => readText_again plain named ready grown apart member
  -- The second run reads the same and finds the output root.
  have checked := ((startable_iff registry).mp startable).1
  have loadedAgain := Templates.load_again
    (fun kind path text named => kept path (mem_sources_of_template? named) text) loaded
  obtain ⟨other, decodedAgain, moved⟩ := decodeFiles_again again
    (fun path member => kept path (List.mem_append_left _ member)) decoded
  have createdAgain := createDirectories_of_reaches startable.outputRoot (keeps.reaches reaches)
    (by rw [keeps.base, grown.base]; exact keeps.directory here)
  have emitsAgain := emits_of_created renderer checked loadedAgain decodedAgain createdAgain
  rw [← emit_relocate (fun _ => default) other, moved, emit_relocate] at emitsAgain
  obtain ⟨outcomes, unchanged⟩ := emit_again templates renderer plain named ready
  rw [emits.tree]
  refine ⟨⟨_, _, emits.result, emitsAgain.result, ?_, ?_⟩, ?_⟩
  · exact congrArg (List.filterMap Outcome.written?) outcomes
  · exact congrArg (List.filterMap Outcome.skipped?) outcomes
  · rw [emits.tree, emitsAgain.tree]
    exact unchanged

/-- A tree with a schema file that declares a class twice, an old artifact, and a directory where
the artifact of another class would stand. -/
def crowded : FileTree where
  nodes :=
    [(["a.dxc"], .file ("set object-class p = \x7b\nname = person\n\x7d;\n" ++
        "set object-class e = \x7b\nname = employee\n\x7d;\n" ++
        "set object-class q = \x7b\nname = person\n\x7d;\n").toUTF8),
      (["out"], .directory), (["out", "app"], .directory), (["out", "app", "types"], .directory),
      (["out", "app", "types", "Gone.rs"], .file "old".toUTF8),
      (["out", "app", "types", "Employee.rs"], .directory)]

def crowdedReport : Report where
  removed := ["out/app/types/Gone.rs"]
  written := ["out/app/types/Person.rs", "out/app/types/Person.rs"]
  skipped :=
    [{ kind := .entity
       className := "Employee"
       reason := "failed to create file `out/app/types/Employee.rs`: Is a directory (os error 21)" }]

theorem crowded_repeated :
    (compileWith naming ["a.dxc"] refreshing crowded {}).result = .ok crowdedReport ∧
      Repeats (compileWith naming ["a.dxc"] refreshing crowded {})
        (compileWith naming ["a.dxc"] refreshing
          (compileWith naming ["a.dxc"] refreshing crowded {}).tree {}) := by
  have success : (compileWith naming ["a.dxc"] refreshing crowded {}).result =
      .ok crowdedReport := by decide +kernel
  have names : (Decoder.decodeFiles crowded {} ["a.dxc"]).result.map
      (·.objectClasses.map (·.name)) = .ok ["person", "employee", "person"] := by decide +kernel
  -- The schema file does not stand in a directory of artifacts.
  have apart : SourcesApart ["a.dxc"] refreshing crowded := by
    intro path member kind _ name _ same
    rw [List.mem_singleton.mp member, Settings.entryPlace_eq] at same
    have lengths := congrArg List.length same
    rw [List.length_append, show (placeFrom crowded.base "a.dxc").length = 1 from rfl] at lengths
    simp at lengths
  exact ⟨success, compile_idempotent naming ["a.dxc"] refreshing crowded {} {} _ (by decide +kernel)
    (plainNames_of_names names (by decide)) apart success⟩

end Compile

end Output
end DirSchema
