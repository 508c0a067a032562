import DirSchema.Proofs.Config.Validation
import DirSchema.Proofs.Output.Emission
import DirSchema.Proofs.Path.Components
set_option autoImplicit false

namespace DirSchema

namespace Text

/-- What is cut at a separator is the text again when it is put together. -/
theorem intercalate_fields (separator : Char) (cs : List Char) :
    List.intercalate [separator] (fields (· == separator) cs) = cs := by
  induction cs with
  | nil => rfl
  | cons c cs ih =>
      obtain ⟨first, rest, cut⟩ := List.exists_cons_of_ne_nil (fields_ne_nil (· == separator) cs)
      rw [fields, cut]
      rw [cut] at ih
      by_cases separates : (c == separator) = true
      · rw [if_pos separates, List.intercalate_cons_cons, ih, beq_iff_eq.mp separates]
        rfl
      · rw [if_neg separates]
        cases rest with
        | nil => rw [← ih]; simp [List.intercalate]
        | cons second rest =>
            rw [← ih, List.intercalate_cons_cons]
            simp [List.intercalate_cons_cons]

/-- A text with its first character in upper case, if that is a lower case letter of ASCII. -/
def raised : List Char → List Char
  | [] => []
  | c :: cs => c.toUpper :: cs

private theorem toList_capitalize {text : String} (ascii : ∀ c ∈ text.toList, c.toNat < 0x80) :
    (capitalize text).toList = raised text.toList := by
  rw [capitalize]
  cases chars : text.toList with
  | nil => rfl
  | cons first rest =>
      rw [chars, List.forall_mem_cons] at ascii
      rw [String.toList_ofList, toUppercase, if_pos ascii.1]
      rfl

end Text

namespace FileTree

open DirSchema.Path

variable {tree after : FileTree} {path : String}

/-- A file that is removed stood at the place of its path. -/
theorem eq_erase_of_removeFile (success : tree.removeFile path = .ok after) :
    after = tree.erase (placeFrom tree.base path) := by
  rw [removeFile, find] at success
  cases located : tree.locate path with
  | error error =>
      rw [located] at success
      cases success
  | ok target =>
      obtain ⟨-, location, -⟩ := reaches_of_locate located
      rw [located] at success
      rcases target with ⟨_, _ | _ | _, _ | _⟩ <;> cases success
      exact congrArg tree.erase location

def Named (tree : FileTree) : Prop :=
  ∀ entry ∈ tree.nodes, ∀ name ∈ entry.1, IsName name.toList ∧ name ≠ ".."

private theorem Named.of_mem_fileNamesIn {name : String} (named : tree.Named)
    (member : name ∈ tree.fileNamesIn path) : IsName name.toList ∧ name ≠ ".." := by
  obtain ⟨place, contents, file⟩ := exists_file_of_mem_fileNamesIn member
  exact named _ (mem_nodes_of_get? (by simp) file) _ (by simp)

end FileTree

namespace Output

open DirSchema.Path FileTree

namespace Settings

variable {settings first second : Settings} {kind other : ArtifactKind} {a b : String}

/-- The names that lead from the output root to the directory of a kind. -/
def trail (settings : Settings) (kind : ArtifactKind) : List String :=
  segments settings.package ++ [kind.subpackage]

theorem outputDirectory_eq (settings : Settings) (kind : ArtifactKind) :
    settings.outputDirectory kind = (settings.trail kind).foldl join settings.outputRoot := by
  rw [trail, List.foldl_append]
  rfl

theorem trail_down (valid : Config.IsPackageName settings.package) (kind : ArtifactKind) :
    ∀ step ∈ settings.trail kind, IsName step.toList ∧ step ≠ ".." := by
  intro step member
  rcases List.mem_append.mp member with segment | last
  · obtain ⟨piece, cut, rfl⟩ := List.mem_map.mp segment
    obtain ⟨nonempty, plain⟩ := valid piece cut
    have dotless : '.' ∉ piece := fun dot => by
      have solid := (Text.mem_of_mem_fields cut dot).2
      revert solid
      decide
    refine ⟨⟨?_, ?_, ?_⟩, ?_⟩
    · rwa [String.toList_ofList]
    · rw [String.toList_ofList]
      exact fun slash => (plain '/' slash).1 rfl
    · rw [String.toList_ofList]
      rintro rfl
      exact dotless (by decide)
    · intro up
      rw [← String.toList_inj, String.toList_ofList] at up
      exact dotless (by rw [up]; decide)
  · rw [List.mem_singleton.mp last]
    exact ⟨isName_subpackage kind, by cases kind <;> decide⟩

private theorem segments_injective : Function.Injective segments := by
  intro package other same
  have fields := List.map_injective_iff.mpr (fun _ _ => String.ofList_injective) same
  rw [← String.toList_inj, ← Text.intercalate_fields '.' package.toList, fields,
    Text.intercalate_fields]

theorem trail_inj (same : first.trail kind = second.trail other) :
    first.package = second.package ∧ kind = other := by
  obtain ⟨packages, ends⟩ := List.append_inj' same rfl
  refine ⟨segments_injective packages, ?_⟩
  revert ends
  cases kind <;> cases other <;> decide

end Settings

/-- A name of ASCII that can be a part of the name of a file. -/
structure IsClassName (name : String) : Prop where
  nonempty : name ≠ ""
  single : '/' ∉ name.toList
  ascii : ∀ c ∈ name.toList, c.toNat < 0x80

/-- The file name of an artifact tells its class up to the case of the first letter. -/
theorem fileName_eq_iff {kind : ArtifactKind} {a b : String} (named : IsClassName a)
    (otherNamed : IsClassName b) :
    Settings.fileName (Model.classNameOf kind a) = Settings.fileName (Model.classNameOf kind b) ↔
      Text.raised a.toList = Text.raised b.toList := by
  rw [← Text.toList_capitalize named.ascii, ← Text.toList_capitalize otherNamed.ascii,
    String.toList_inj]
  simp only [Settings.fileName, Model.classNameOf, String.append_left_inj]

section Cleanup

variable {tree : FileTree} {place : Location}

/-- A tree with fewer files, but the same at a place. -/
structure Leaves (before after : FileTree) (place : Location) : Prop where
  base : after.base = before.base
  sublist : after.nodes.Sublist before.nodes
  kept : after.get? place = before.get? place

private theorem leaves_removeAll {paths : List String}
    (apart : ∀ path ∈ paths, place ≠ placeFrom tree.base path) :
    Leaves tree (removeAll tree paths).1 place ∧
      ∀ path ∈ (removeAll tree paths).2.filterMap Removal.removed?, path ∈ paths := by
  induction paths generalizing tree with
  | nil => exact ⟨⟨rfl, .refl _, rfl⟩, nofun⟩
  | cons path rest ih =>
      rw [List.forall_mem_cons] at apart
      rw [removeAll_cons]
      cases removed : tree.removeFile path with
      | error failure =>
          obtain ⟨leaves, listed⟩ := ih apart.2
          exact ⟨leaves, fun other member => List.mem_cons_of_mem _ (listed other member)⟩
      | ok after =>
          obtain rfl := eq_erase_of_removeFile removed
          obtain ⟨⟨base, sublist, kept⟩, listed⟩ := @ih (tree.erase _) apart.2
          refine ⟨⟨base, sublist.trans List.filter_sublist, ?_⟩, ?_⟩
          · exact kept.trans (get?_erase_of_ne apart.1)
          · exact List.forall_mem_cons.mpr ⟨List.mem_cons_self, fun other member =>
              List.mem_cons_of_mem _ (listed other member)⟩

/-- Old files are entries of the directories of the kinds that are cleaned up. -/
theorem leaves_cleanKinds {settings : Settings} (named : tree.Named) (kinds : List ArtifactKind)
    (apart : ∀ kind ∈ kinds, ∀ name,
      place ≠ placeFrom tree.base (settings.outputDirectory kind) ++ [name]) :
    Leaves tree (cleanKinds settings tree kinds).1 place ∧
      ∀ path ∈ (cleanKinds settings tree kinds).2.filterMap Removal.removed?, ∃ kind ∈ kinds,
        ∃ name, (IsName name.toList ∧ name ≠ "..") ∧
          path = join (settings.outputDirectory kind) name := by
  induction kinds generalizing tree with
  | nil => exact ⟨⟨rfl, .refl _, rfl⟩, nofun⟩
  | cons kind rest ih =>
      rw [List.forall_mem_cons] at apart
      have old : ∀ path ∈ oldFiles tree (settings.outputDirectory kind), ∃ name,
          (IsName name.toList ∧ name ≠ "..") ∧
            path = join (settings.outputDirectory kind) name := by
        intro path member
        obtain ⟨name, among, rfl⟩ := List.mem_map.mp (List.mem_filter.mp member).1
        exact ⟨name, named.of_mem_fileNamesIn among, rfl⟩
      have first : ∀ path ∈ oldFiles tree (settings.outputDirectory kind),
          place ≠ placeFrom tree.base path := by
        intro path member
        obtain ⟨name, ⟨isName, inner⟩, rfl⟩ := old path member
        rw [placeFrom_join_name isName inner]
        exact apart.1 name
      obtain ⟨here, listed⟩ := leaves_removeAll first
      rw [cleanKinds_cons]
      generalize removeAll tree (oldFiles tree (settings.outputDirectory kind)) = result
        at here listed
      obtain ⟨rested, others⟩ := @ih result.1
        (fun entry member => named entry (here.sublist.subset member))
        (by rw [here.base]; exact apart.2)
      refine ⟨⟨rested.base.trans here.base, rested.sublist.trans here.sublist,
        rested.kept.trans here.kept⟩, ?_⟩
      intro path member
      rw [List.filterMap_append, List.mem_append] at member
      rcases member with now | later
      · obtain ⟨name, entry, same⟩ := old path (listed path now)
        exact ⟨kind, List.mem_cons_self, name, entry, same⟩
      · obtain ⟨other, among, name, entry, same⟩ := others path later
        exact ⟨other, List.mem_cons_of_mem _ among, name, entry, same⟩

end Cleanup

def Settings.classPath (settings : Settings) (kind : ArtifactKind) (name : String) : String :=
  settings.artifactPath kind (Model.classNameOf kind name)

/-- What keeps the artifacts of one package apart from those of another with the same root. -/
structure Separate (first second : Settings) : Prop where
  /-- Each segment of the package is a component below the root, and so is the kind. -/
  components : ∀ kind, components (first.outputDirectory kind) =
    components first.outputRoot ++
      (Settings.segments first.package ++ [kind.subpackage]).map .normal
  /-- Wherever the root is, the directory is that far below it. -/
  below : ∀ base kind, placeFrom base (first.outputDirectory kind) =
    placeFrom base first.outputRoot ++ (Settings.segments first.package ++ [kind.subpackage])
  /-- Paths tell the package, the kind and the class up to the case of its first letter. -/
  paths : ∀ {kind other a b}, IsClassName a → IsClassName b →
    (same (first.classPath kind a) (second.classPath other b) = true ↔
      first.package = second.package ∧ kind = other ∧
        Text.raised a.toList = Text.raised b.toList)
  places : ∀ {kind other a b} base, IsClassName a → IsClassName b →
    (placeFrom base (first.classPath kind a) = placeFrom base (second.classPath other b) ↔
      first.package = second.package ∧ kind = other ∧
        Text.raised a.toList = Text.raised b.toList)
  /-- An artifact that a run changes is one of its package, of a kind that is enabled and of one of
  its classes. -/
  overwrites : ∀ {kind b} (schema : Schema) (templates : Templates) (renderer : Renderer)
    (tree : FileTree), IsClassName b → (∀ owner ∈ schema.objectClasses, IsClassName owner.name) →
    (generate schema first templates renderer tree).1.fileAt?
        (placeFrom tree.base (second.classPath kind b)) ≠
      tree.fileAt? (placeFrom tree.base (second.classPath kind b)) →
    first.package = second.package ∧ kind ∈ first.enabledKinds ∧
      ∃ owner ∈ schema.objectClasses, Text.raised owner.name.toList = Text.raised b.toList
  /-- Cleanup leaves the artifacts of other packages and of kinds that are not enabled. -/
  cleans : ∀ {kind b} (tree : FileTree), tree.Named → IsClassName b →
    ¬ (first.package = second.package ∧ kind ∈ first.enabledKinds) →
    (∀ removed ∈ (removeOldOutput first tree).2, same removed (second.classPath kind b) = false) ∧
      (removeOldOutput first tree).1.get? (placeFrom tree.base (second.classPath kind b)) =
        tree.get? (placeFrom tree.base (second.classPath kind b))

section Paths

theorem normal_injective : Function.Injective Component.normal := fun _ _ => Component.normal.inj

variable {settings first second : Settings} {kind other : ArtifactKind} {a b : String}

theorem placeFrom_trail (valid : Config.IsPackageName settings.package) (base : Location)
    (kind : ArtifactKind) : placeFrom base (settings.outputDirectory kind) =
      placeFrom base settings.outputRoot ++ settings.trail kind := by
  rw [settings.outputDirectory_eq, placeFrom_foldl_join (Settings.trail_down valid kind)]

theorem components_trail (valid : Config.IsPackageName settings.package) (kind : ArtifactKind) :
    components (settings.outputDirectory kind) =
      components settings.outputRoot ++ (settings.trail kind).map .normal := by
  rw [settings.outputDirectory_eq, components_foldl_join (Settings.trail_down valid kind)]

def fileTrail (settings : Settings) (kind : ArtifactKind) (name : String) : List String :=
  settings.trail kind ++ [Settings.fileName (Model.classNameOf kind name)]

theorem components_fileTrail (valid : Config.IsPackageName settings.package)
    (named : IsClassName a) :
    components (settings.classPath kind a) =
      components settings.outputRoot ++ (fileTrail settings kind a).map .normal := by
  rw [Settings.classPath, components_artifactPath settings kind (single_classNameOf kind named.single),
    components_trail valid, List.append_assoc, fileTrail, List.map_append]
  rfl

theorem placeFrom_fileTrail (valid : Config.IsPackageName settings.package)
    (named : IsClassName a) (base : Location) :
    placeFrom base (settings.classPath kind a) =
      placeFrom base settings.outputRoot ++ fileTrail settings kind a := by
  have single := single_classNameOf kind named.single
  have ends := settings.artifactPath_ends kind single
  have parent := (settings.artifactPath_parent kind single).2
  rw [Settings.classPath, ends.placeFrom_below parent (Settings.entry_fileName _),
    placeFrom_trail valid, String.ofList_toList, List.append_assoc, fileTrail]

theorem fileTrail_eq_iff (named : IsClassName a) (otherNamed : IsClassName b) :
    fileTrail first kind a = fileTrail second other b ↔
      first.package = second.package ∧ kind = other ∧
        Text.raised a.toList = Text.raised b.toList := by
  constructor
  · intro same
    obtain ⟨trails, files⟩ := List.append_inj' same rfl
    obtain ⟨packages, rfl⟩ := Settings.trail_inj trails
    exact ⟨packages, rfl, (fileName_eq_iff named otherNamed).mp (List.cons.inj files).1⟩
  · rintro ⟨packages, rfl, letters⟩
    rw [fileTrail, fileTrail, Settings.trail, Settings.trail, packages,
      (fileName_eq_iff named otherNamed).mpr letters]

variable (root : first.outputRoot = second.outputRoot)
  (valid : Config.IsPackageName first.package) (otherValid : Config.IsPackageName second.package)
include root valid otherValid

theorem placeFrom_classPath_eq_iff (base : Location) (named : IsClassName a)
    (otherNamed : IsClassName b) :
    placeFrom base (first.classPath kind a) = placeFrom base (second.classPath other b) ↔
      first.package = second.package ∧ kind = other ∧
        Text.raised a.toList = Text.raised b.toList := by
  rw [placeFrom_fileTrail valid named, placeFrom_fileTrail otherValid otherNamed, root,
    List.append_cancel_left_eq, fileTrail_eq_iff named otherNamed]

theorem same_classPath_iff (named : IsClassName a) (otherNamed : IsClassName b) :
    same (first.classPath kind a) (second.classPath other b) = true ↔
      first.package = second.package ∧ kind = other ∧
        Text.raised a.toList = Text.raised b.toList := by
  rw [same, beq_iff_eq, components_fileTrail valid named,
    components_fileTrail otherValid otherNamed, root, List.append_cancel_left_eq,
    (List.map_injective_iff.mpr normal_injective).eq_iff, fileTrail_eq_iff named otherNamed]

/-- A run that changes an artifact generates it. -/
theorem owner_of_changed {schema : Schema} {templates : Templates} {renderer : Renderer}
    {tree : FileTree} (named : IsClassName b)
    (classes : ∀ owner ∈ schema.objectClasses, IsClassName owner.name)
    (changed : (generate schema first templates renderer tree).1.fileAt?
        (placeFrom tree.base (second.classPath kind b)) ≠
      tree.fileAt? (placeFrom tree.base (second.classPath kind b))) :
    first.package = second.package ∧ kind ∈ first.enabledKinds ∧
      ∃ owner ∈ schema.objectClasses, Text.raised owner.name.toList = Text.raised b.toList := by
  contrapose! changed
  apply fileAt?_generateAll_of_ne
  rintro ⟨owner, enabled⟩ member same
  obtain ⟨among, isEnabled⟩ := enabled_of_mem_artifacts member
  obtain ⟨packages, rfl, letters⟩ :=
    (placeFrom_classPath_eq_iff root valid otherValid tree.base (classes owner among) named).mp
      same.symm
  exact changed packages isEnabled owner among letters

omit root valid otherValid in
/-- An entry of a directory that is cleaned up is no artifact of another package. -/
theorem entry_ne_fileTrail (spared : ¬ (first.package = second.package ∧ kind ∈ first.enabledKinds))
    {cleaned : ArtifactKind} (enabled : cleaned ∈ first.enabledKinds) (name : String) :
    first.trail cleaned ++ [name] ≠ fileTrail second kind b := by
  intro same
  obtain ⟨packages, rfl⟩ := Settings.trail_inj (List.append_inj' same rfl).1
  exact spared ⟨packages, enabled⟩

theorem cleaned_apart {tree : FileTree} (treeNamed : tree.Named) (named : IsClassName b)
    (spared : ¬ (first.package = second.package ∧ kind ∈ first.enabledKinds)) :
    (∀ removed ∈ (removeOldOutput first tree).2, same removed (second.classPath kind b) = false) ∧
      (removeOldOutput first tree).1.get? (placeFrom tree.base (second.classPath kind b)) =
        tree.get? (placeFrom tree.base (second.classPath kind b)) := by
  have apart : ∀ cleaned ∈ first.enabledKinds, ∀ name,
      placeFrom tree.base (second.classPath kind b) ≠
        placeFrom tree.base (first.outputDirectory cleaned) ++ [name] := by
    intro cleaned enabled name same
    rw [placeFrom_fileTrail otherValid named, placeFrom_trail valid, root, List.append_assoc,
      List.append_cancel_left_eq] at same
    exact entry_ne_fileTrail spared enabled name same.symm
  obtain ⟨leaves, listed⟩ := leaves_cleanKinds treeNamed first.enabledKinds apart
  refine ⟨?_, leaves.kept⟩
  intro removed member
  obtain ⟨cleaned, enabled, name, ⟨isName, inner⟩, rfl⟩ := listed removed member
  rw [same, beq_eq_false_iff_ne, components_join_name isName inner, components_trail valid,
    components_fileTrail otherValid named, root, List.append_assoc, Ne,
    List.append_cancel_left_eq, ← List.map_singleton, ← List.map_append,
    (List.map_injective_iff.mpr normal_injective).eq_iff]
  exact entry_ne_fileTrail spared enabled name

end Paths

/-- Two packages that pass validation are separate. -/
theorem separate_of_valid {first second : Settings} (root : first.outputRoot = second.outputRoot)
    (valid : Config.isPackage first.package = true)
    (otherValid : Config.isPackage second.package = true) : Separate first second := by
  rw [Config.isPackage_iff] at valid otherValid
  exact
    { components := components_trail valid
      below := placeFrom_trail valid
      paths := same_classPath_iff root valid otherValid
      places := placeFrom_classPath_eq_iff root valid otherValid
      overwrites := fun _ _ _ _ => owner_of_changed root valid otherValid
      cleans := fun _ => cleaned_apart root valid otherValid }

/-- The package whose directory is the one of the entities of the package above. -/
def insideEntities : Settings := { entitiesOnly with package := "app.types" }

/-- One package may lie in the directory of another. -/
theorem nested_separate :
    entitiesOnly.outputDirectory .entity = insideEntities.packageDirectory ∧
      Separate entitiesOnly insideEntities :=
  ⟨rfl, separate_of_valid rfl (by decide) (by decide)⟩

end Output
end DirSchema
