import DirSchema.Config.Validation
import DirSchema.Output.Cleanup
import DirSchema.Proofs.Decoder.Strings
import DirSchema.Proofs.Model.Reference
import DirSchema.Proofs.Output.Isolation
set_option autoImplicit false

namespace DirSchema.Output

open DirSchema.Path FileTree

section Extension

variable {className : String}

/-- The last dot of the name of a file is the one in front of its extension. -/
theorem splitOnce?_fileName (className : String) :
    Text.splitOnce? (· == '.') (Settings.fileName className).toList.reverse =
      some (extension.toList.reverse, className.toList.reverse) := by
  have text : (Settings.fileName className).toList.reverse =
      extension.toList.reverse ++ '.' :: className.toList.reverse := by
    rw [Settings.fileName, String.toList_append, String.toList_append, List.reverse_append,
      List.reverse_append]
    rfl
  have absent : ∀ c ∈ extension.toList.reverse, (c == '.') = false := by simp [extension]
  rw [text]
  exact Text.splitOnce?_append _ _ _ _ absent rfl

theorem components_artifactPath (settings : Settings) (kind : ArtifactKind)
    (single : '/' ∉ className.toList) :
    components (settings.artifactPath kind className) =
      components (settings.outputDirectory kind) ++ [.normal (Settings.fileName className)] := by
  have nonempty : settings.outputDirectory kind ≠ "" := by
    intro empty
    have ends := (settings.outputDirectory_ends kind).isEmpty_eq
    rw [empty] at ends
    cases ends
  rw [Settings.artifactPath_eq single]
  exact components_entry nonempty (Settings.isName_fileName single)
    (Settings.fileName_ne_up className)

/-- A class with a name gives a file with the extension that cleanup looks for. -/
theorem extension?_artifactPath (settings : Settings) (kind : ArtifactKind)
    (single : '/' ∉ className.toList) (named : className ≠ "") :
    extension? (settings.artifactPath kind className) = some extension := by
  have found : fileName? (settings.artifactPath kind className) =
      some (Settings.fileName className) := by
    rw [fileName?, components_artifactPath settings kind single, List.getLast?_concat]
  have before : className.toList.reverse ≠ [] := by
    intro none
    exact named (String.toList_eq_nil_iff.mp (List.reverse_eq_nil_iff.mp none))
  obtain ⟨last, rest, split⟩ := List.exists_cons_of_ne_nil before
  rw [extension?, found, Option.bind_some, splitOnce?_fileName, split]
  simp only [List.reverse_reverse, String.ofList_toList]

end Extension

section Run

variable (schema : Schema) (settings : Settings) (templates : Templates) (renderer : Renderer)

/-- A run changes no file but those at the paths of its artifacts. -/
theorem fileAt?_generateAll_of_ne (tree : FileTree) (jobs : List (ObjectClass × ArtifactKind))
    {place : Location}
    (apart : ∀ artifact ∈ jobs, place ≠ placeFrom tree.base (pathOf settings artifact)) :
    (generateAll schema settings templates renderer tree jobs).1.fileAt? place =
      tree.fileAt? place := by
  induction jobs generalizing tree with
  | nil => rfl
  | cons artifact rest ih =>
      rw [List.forall_mem_cons] at apart
      have base := (keeps_generateOne schema settings templates renderer tree artifact).base
      have later := ih (generateOne schema settings templates renderer tree artifact).1
        (by rw [base]; exact apart.2)
      rw [generateAll_cons]
      dsimp only
      rw [later]
      rcases tree_generateOne schema settings templates renderer tree artifact with
        same | ⟨contents, written⟩
      · rw [same]
      · rw [written]
        exact fileAt?_writeArtifact fun _ => apart.1

end Run

/-- How the artifacts of a run keep to the directories of their kinds: each has the path of an entry
of its directory, files elsewhere are as before, and cleanup finds the ones that were written. -/
structure Contained (settings : Settings) (jobs : List (ObjectClass × ArtifactKind))
    (tree : FileTree) (run : FileTree × List Outcome) : Prop where
  entry : ∀ artifact ∈ jobs, ∃ name : String, IsName name.toList ∧ name ≠ ".." ∧
    pathOf settings artifact = settings.outputDirectory artifact.2 ++ "/" ++ name ∧
    components (pathOf settings artifact) =
      components (settings.outputDirectory artifact.2) ++ [.normal name]
  untouched : ∀ place, (∀ kind ∈ settings.enabledKinds, ∀ name,
      place ≠ placeFrom tree.base (settings.outputDirectory kind) ++ [name]) →
    run.1.fileAt? place = tree.fileAt? place
  listed : ∀ path ∈ (Report.ofOutcomes [] run.2).written, ∃ kind ∈ settings.enabledKinds,
    path ∈ oldFiles run.1 (settings.outputDirectory kind)

section Contained

variable {schema : Schema} {settings : Settings} {templates : Templates} {renderer : Renderer}
  {artifact : ObjectClass × ArtifactKind} {tree : FileTree} {path : String}

theorem placeFrom_pathOf (plain : Plain artifact) (base : Location) :
    placeFrom base (pathOf settings artifact) =
      placeFrom base (settings.outputDirectory artifact.2) ++
        [Settings.fileName (Model.classNameOf artifact.2 artifact.1.name)] := by
  rw [pathOf, Settings.placeFrom_artifactPath base (single_of_plain plain),
    Settings.placeFrom_outputDirectory, List.append_assoc]
  rfl

/-- A file of an artifact that is reached is one that cleanup lists. -/
theorem mem_oldFiles {contents : ByteArray} (plain : Plain artifact)
    (named : artifact.1.name ≠ "") (reaches : tree.Reaches (pathOf settings artifact))
    (file : tree.fileAt? (placeFrom tree.base (pathOf settings artifact)) = some contents) :
    pathOf settings artifact ∈ oldFiles tree (settings.outputDirectory artifact.2) := by
  have single := single_of_plain plain
  have ends := settings.outputDirectory_ends artifact.2
  have below := settings.artifactPath_ends artifact.2 single
  have parent := (settings.artifactPath_parent artifact.2 single).2
  have chain := reaches.above
  rw [pathOf, Settings.aboveFrom_artifactPath tree.base settings artifact.2 single] at chain
  have directory : tree.Reaches (settings.outputDirectory artifact.2) :=
    ⟨below.lookable_parent parent reaches.lookable, fun passed member =>
      chain passed (aboveFrom_subset_chainFrom _ _ member)⟩
  have here : tree.get? (placeFrom tree.base (settings.outputDirectory artifact.2)) =
      some .directory := by
    apply chain
    rw [Settings.placeFrom_outputDirectory, Settings.chainFrom_outputDirectory]
    simp
  rw [placeFrom_pathOf plain] at file
  refine List.mem_filter.mpr ⟨mem_filesIn_of_file ends directory here file, ?_⟩
  rw [pathOf, extension?_artifactPath settings artifact.2 single
    (Model.classNameOf_ne_empty artifact.2 named)]
  exact beq_self_eq_true _

theorem contained_generate (plain : PlainNames schema)
    (named : ∀ owner ∈ schema.objectClasses, owner.name ≠ "") (tree : FileTree) :
    Contained settings (artifacts schema settings) tree
      (generate schema settings templates renderer tree) where
  entry := by
    intro artifact member
    have single := single_of_plain (plain_of_mem_artifacts plain member)
    exact ⟨_, Settings.isName_fileName single, Settings.fileName_ne_up _,
      Settings.artifactPath_eq single, components_artifactPath settings artifact.2 single⟩
  untouched := by
    intro place elsewhere
    apply fileAt?_generateAll_of_ne
    intro artifact member
    rw [placeFrom_pathOf (plain_of_mem_artifacts plain member)]
    exact elsewhere artifact.2 (enabled_of_mem_artifacts member).2 _
  listed := by
    intro path written
    obtain ⟨artifact, member, contents, -, rfl, -, reaches, stored⟩ :=
      stored_generate plain tree written
    obtain ⟨among, enabled⟩ := enabled_of_mem_artifacts member
    exact ⟨artifact.2, enabled,
      mem_oldFiles (plain_of_mem_artifacts plain member) (named artifact.1 among) reaches stored⟩

end Contained

/-- The artifacts of a schema that was decoded keep to their directories, if no class in it has a
name with a separator. -/
theorem decode_generate_contained (earlier : Decoder.State) (inputs : List Decoder.Input)
    (settings : Settings) (templates : Templates) (renderer : Renderer) (tree : FileTree)
    (plain : PlainNames (earlier.decode inputs).schema) :
    Contained settings (artifacts (earlier.decode inputs).schema settings) tree
      (generate (earlier.decode inputs).schema settings templates renderer tree) :=
  contained_generate plain (fun _ member => (Decoder.named_of_mem_objectClasses member).1) tree

def declaring (name : String) : List Decoder.Input :=
  [⟨0, "set object-class c = \x7b\nname = " ++ name ++ "\n\x7d;\n"⟩]

def entitiesOnly : Settings := { outputRoot := "out", package := "app", mappers := false }

/-- The run for the declaration of a class, in an empty tree. -/
def generated (name : String) : FileTree × List Outcome :=
  generate (Decoder.decode (declaring name)).schema entitiesOnly .builtin naming {}

theorem person_contained :
    (generated "person").2 = [.written "out/app/types/Person.rs"] ∧
      Contained entitiesOnly
        (artifacts (Decoder.decode (declaring "person")).schema entitiesOnly) {}
        (generated "person") := by
  have plain : PlainNames (Decoder.State.idle.decode (declaring "person")).schema := by
    show ∀ owner ∈ (Decoder.State.idle.decode (declaring "person")).schema.objectClasses,
      '/' ∉ owner.name.toList
    decide +kernel
  exact ⟨by decide +kernel, decode_generate_contained .idle _ _ _ _ {} plain⟩

/-- A class whose name leads out of the directory of its kind is decoded without a word, and it is
generated where the name leads to. Cleanup does not find the file there. -/
theorem evil_escapes :
    Config.isPackage entitiesOnly.package = true ∧
      (Decoder.decode (declaring "../Evil")).diagnostics = [] ∧
      (generated "../Evil").2 = [.written "out/app/types/../Evil.rs"] ∧
      ((generated "../Evil").1.fileAt? ["out", "app", "Evil.rs"]).isSome = true ∧
      oldFiles (generated "../Evil").1 (entitiesOnly.outputDirectory .entity) = [] := by
  decide +kernel

end DirSchema.Output
