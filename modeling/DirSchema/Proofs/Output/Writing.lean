import DirSchema.Proofs.Output.Artifacts
set_option autoImplicit false

namespace DirSchema.Output

open DirSchema.Path FileTree

variable {settings : Settings} {kind : ArtifactKind} {className : String}
  {tree before middle after : FileTree} {place : Location} {path : String}

/-- The tree in which the directories above a path were made, as far as they can be. -/
def prepared (tree : FileTree) (path : String) : FileTree :=
  (tree.createDirectories ((parent? path).getD "")).1

theorem prepared_extends (tree : FileTree) (path : String) : Extends tree (prepared tree path) :=
  createDirectories_extends tree _

theorem writeArtifact_eq (tree : FileTree) (path contents : String) :
    writeArtifact tree path contents =
      match (tree.createDirectories ((parent? path).getD "")).2 with
      | some failure => (prepared tree path, some failure)
      | none =>
        match (prepared tree path).writeText path contents with
        | .error failure => (prepared tree path, some failure)
        | .ok written => (written, none) := by
  delta writeArtifact prepared
  generalize tree.createDirectories ((parent? path).getD "") = created
  obtain ⟨middle, failure⟩ := created
  cases failure with
  | some failure => rfl
  | none => cases stored : middle.writeText path contents <;> simp only [stored]

/-- An artifact is written to the place of its path, after the directories above it were made. -/
theorem writeArtifact_cases (tree : FileTree) (path contents : String) :
    ((tree.createDirectories ((parent? path).getD "")).2 = none ∧
      (prepared tree path).Reaches path ∧
      (prepared tree path).get? (placeFrom tree.base path) ≠ some .directory ∧
      writeArtifact tree path contents =
        ((prepared tree path).put (placeFrom tree.base path) (.file contents.toUTF8), none)) ∨
    ((∃ failure, writeArtifact tree path contents = (prepared tree path, some failure)) ∧
      ((tree.createDirectories ((parent? path).getD "")).2 = none →
        ∀ written, (prepared tree path).writeText path contents ≠ .ok written)) := by
  have base := (prepared_extends tree path).base
  rw [writeArtifact_eq]
  generalize prepared tree path = middle at base ⊢
  generalize (tree.createDirectories ((parent? path).getD "")).2 = failure
  cases failure with
  | some failure => exact .inr ⟨⟨failure, rfl⟩, nofun⟩
  | none =>
      cases stored : middle.writeText path contents with
      | error failure => exact .inr ⟨⟨failure, rfl⟩, fun _ _ => nofun⟩
      | ok written =>
          obtain ⟨reaches, vacant, result⟩ := writeText_eq_ok stored
          rw [base] at vacant result
          exact .inl ⟨rfl, reaches, vacant, by rw [result]⟩

theorem keeps_writeArtifact (tree : FileTree) (path contents : String) :
    Keeps tree (writeArtifact tree path contents).1 := by
  have made := (prepared_extends tree path).keeps
  rcases writeArtifact_cases tree path contents with
    ⟨-, -, vacant, result⟩ | ⟨⟨failure, result⟩, -⟩
  · rw [result]
    exact made.trans (.put vacant _)
  · rw [result]
    exact made

/-- What was written stands at the place of its path. -/
theorem stored_writeArtifact {contents : String}
    (success : (writeArtifact tree path contents).2 = none) :
    (writeArtifact tree path contents).1.Reaches path ∧
      (writeArtifact tree path contents).1.fileAt? (placeFrom tree.base path) =
        some contents.toUTF8 := by
  rcases writeArtifact_cases tree path contents with
    ⟨-, reaches, vacant, result⟩ | ⟨⟨failure, result⟩, -⟩
  · rw [result]
    exact ⟨(Keeps.put vacant _).reaches reaches, fileAt?_put_self (ne_nil_of_get? vacant) _⟩
  · rw [result] at success
    cases success

/-- Nothing else is written, and nothing at all if the artifact is not. -/
theorem fileAt?_writeArtifact {contents : String}
    (apart : (writeArtifact tree path contents).2 = none → place ≠ placeFrom tree.base path) :
    (writeArtifact tree path contents).1.fileAt? place = tree.fileAt? place := by
  have same := (prepared_extends tree path).fileAt?_eq place
  rcases writeArtifact_cases tree path contents with
    ⟨-, -, -, result⟩ | ⟨⟨failure, result⟩, -⟩
  · rw [result] at apart ⊢
    rw [fileAt?_put_of_ne (apart rfl), same]
  · rw [result, same]

/-- An artifact whose directory can be made, and whose place is not one of a directory. -/
structure Admits (tree : FileTree) (settings : Settings) (kind : ArtifactKind)
    (className : String) : Prop where
  passable : tree.Passable (settings.outputDirectory kind)
  lookable : Lookable (settings.artifactPath kind className)
  apart : placeFrom tree.base (settings.artifactPath kind className) ∉
    chainFrom tree.base (settings.outputDirectory kind)
  vacant : tree.get? (placeFrom tree.base (settings.artifactPath kind className)) ≠
    some .directory

/-- What is prepared for an artifact are the directories on the way to the one of its kind. -/
theorem prepared_artifactPath (settings : Settings) (kind : ArtifactKind)
    (single : '/' ∉ className.toList) (wellFormed : tree.WellFormed) :
    Deepens tree (prepared tree (settings.artifactPath kind className))
        (chainFrom tree.base (settings.outputDirectory kind)) ∧
      ((tree.createDirectories ((parent? (settings.artifactPath kind className)).getD "")).2 = none ↔
        tree.Passable (settings.outputDirectory kind)) ∧
      (tree.Passable (settings.outputDirectory kind) →
        ∀ passed ∈ chainFrom tree.base (settings.outputDirectory kind),
          (prepared tree (settings.artifactPath kind className)).get? passed =
            some .directory) := by
  obtain ⟨found, parent⟩ :=
    settings.artifactPath_parent kind single
  obtain ⟨deepens, passable, chain⟩ := created_createDirectories wellFormed parent.tidy
  rw [prepared, found, Option.getD_some]
  exact ⟨deepens, passable, fun free => chain (passable.mpr free)⟩

/-- An artifact is written exactly if the tree admits it. -/
theorem writeArtifact_eq_none_iff (settings : Settings) (kind : ArtifactKind)
    (single : '/' ∉ className.toList) (wellFormed : tree.WellFormed) (contents : String) :
    (writeArtifact tree (settings.artifactPath kind className) contents).2 = none ↔
      Admits tree settings kind className := by
  have ends := settings.artifactPath_ends kind single
  have above := Settings.aboveFrom_artifactPath tree.base settings kind single
  obtain ⟨deepens, created, chain⟩ :=
    prepared_artifactPath settings kind single wellFormed
  rcases writeArtifact_cases tree (settings.artifactPath kind className) contents with
    ⟨success, reaches, vacant, result⟩ | ⟨⟨failure, result⟩, refused⟩
  · rw [result]
    refine iff_of_true rfl ⟨created.mp success, reaches.lookable, ?_, ?_⟩
    · intro member
      exact vacant (chain (created.mp success) _ member)
    · intro directory
      exact vacant (deepens.kept directory)
  · rw [result]
    refine iff_of_false nofun ?_
    intro admits
    refine refused (created.mpr admits.passable) _
      (writeText_of_reaches ends (Settings.entry_fileName className) ⟨admits.lookable, ?_⟩ ?_ contents)
    · rw [deepens.base, above]
      exact chain admits.passable
    · rw [deepens.base]
      intro directory
      rcases deepens.within directory with earlier | member
      · exact admits.vacant earlier
      · exact admits.apart member

/-- What generation leaves of a tree: directories are made on the way to those of artifacts, and
files are written nowhere on this way. -/
structure Reworked (settings : Settings) (before after : FileTree) : Prop where
  base : after.base = before.base
  wellFormed : after.WellFormed
  directory : ∀ {place}, before.get? place = some .directory →
    after.get? place = some .directory
  file : ∀ {place contents}, before.get? place = some (.file contents) →
    ∃ others, after.get? place = some (.file others)
  made : ∀ {place}, after.get? place = some .directory →
    before.get? place = some .directory ∨
      ∃ kind, place ∈ chainFrom before.base (settings.outputDirectory kind)
  stored : ∀ {place contents}, after.get? place = some (.file contents) →
    before.get? place = some (.file contents) ∨
      ∀ kind, place ∉ chainFrom before.base (settings.outputDirectory kind)

namespace Reworked

theorem refl (wellFormed : tree.WellFormed) : Reworked settings tree tree :=
  ⟨rfl, wellFormed, id, fun file => ⟨_, file⟩, .inl, .inl⟩

theorem trans (first : Reworked settings before middle) (second : Reworked settings middle after) :
    Reworked settings before after where
  base := second.base.trans first.base
  wellFormed := second.wellFormed
  directory := fun found => second.directory (first.directory found)
  file := by
    intro place contents found
    obtain ⟨others, kept⟩ := first.file found
    exact second.file kept
  made := by
    intro place found
    rcases second.made found with earlier | later
    · exact first.made earlier
    · rw [first.base] at later
      exact .inr later
  stored := by
    intro place contents found
    rcases second.stored found with earlier | later
    · exact first.stored earlier
    · rw [first.base] at later
      exact .inr later

private theorem of_deepens (deepens : Deepens before after
    (chainFrom before.base (settings.outputDirectory kind))) : Reworked settings before after where
  base := deepens.base
  wellFormed := deepens.wellFormed
  directory := deepens.kept
  file := fun found => ⟨_, deepens.kept found⟩
  made := fun found => (deepens.within found).imp_right fun member => ⟨kind, member⟩
  stored := fun found => .inl (deepens.file_iff.mp found)

/-- A file that is written where no directory stands. -/
theorem put (wellFormed : tree.WellFormed) (vacant : tree.get? place ≠ some .directory)
    (above : tree.get? place.dropLast = some .directory)
    (apart : ∀ kind, place ∉ chainFrom tree.base (settings.outputDirectory kind))
    (contents : ByteArray) : Reworked settings tree (tree.put place (.file contents)) where
  base := rfl
  wellFormed := wellFormed.put vacant above _
  directory := (Keeps.put vacant _).directory
  file := by
    intro other others found
    by_cases same : other = place
    · exact ⟨contents, by rw [same]; exact get?_put_self (ne_nil_of_get? vacant)⟩
    · exact ⟨others, by rw [get?_put_of_ne same]; exact found⟩
  made := by
    intro other found
    by_cases same : other = place
    · rw [same, get?_put_self (ne_nil_of_get? vacant)] at found
      cases found
    · rw [get?_put_of_ne same] at found
      exact .inl found
  stored := by
    intro other others found
    by_cases same : other = place
    · rw [same]
      exact .inr apart
    · rw [get?_put_of_ne same] at found
      exact .inl found

end Reworked

section Single

variable (single : '/' ∉ className.toList)
include single

/-- The place of an artifact lies on the way to no directory of artifacts, if it does not lie on the
way to its own. -/
theorem apart_of_apart {base : Location}
    (apart : placeFrom base (settings.artifactPath kind className) ∉
      chainFrom base (settings.outputDirectory kind)) (other : ArtifactKind) :
    placeFrom base (settings.artifactPath kind className) ∉
      chainFrom base (settings.outputDirectory other) := by
  rw [Settings.chainFrom_outputDirectory, List.mem_append, not_or] at apart ⊢
  refine ⟨apart.1, ?_⟩
  rw [List.mem_singleton]
  exact Settings.placeFrom_artifactPath_ne base single

/-- Generation does not change which artifacts a tree admits. -/
theorem Reworked.admits_iff (reworked : Reworked settings before after) :
    Admits after settings kind className ↔ Admits before settings kind className := by
  have base := reworked.base
  constructor
  · intro admits
    refine ⟨⟨admits.passable.lookable, ?_⟩, admits.lookable, base ▸ admits.apart, ?_⟩
    · intro passed member contents file
      obtain ⟨others, kept⟩ := reworked.file file
      exact admits.passable.free passed (base.symm ▸ member) others kept
    · intro directory
      exact admits.vacant (base.symm ▸ reworked.directory directory)
  · intro admits
    refine ⟨⟨admits.passable.lookable, ?_⟩, admits.lookable, base.symm ▸ admits.apart, ?_⟩
    · intro passed member contents file
      rw [base] at member
      rcases reworked.stored file with earlier | elsewhere
      · exact admits.passable.free passed member contents earlier
      · exact elsewhere kind member
    · intro directory
      rw [base] at directory
      rcases reworked.made directory with earlier | ⟨other, member⟩
      · exact admits.vacant earlier
      · exact apart_of_apart single admits.apart other member

/-- What writing an artifact leaves of a tree. -/
theorem reworked_writeArtifact (wellFormed : tree.WellFormed) (contents : String) :
    Reworked settings tree
      (writeArtifact tree (settings.artifactPath kind className) contents).1 := by
  have success := writeArtifact_eq_none_iff settings kind single wellFormed contents
  obtain ⟨deepens, -, chain⟩ :=
    prepared_artifactPath settings kind single wellFormed
  have made := Reworked.of_deepens deepens
  rcases writeArtifact_cases tree (settings.artifactPath kind className) contents with
    ⟨-, -, vacant, result⟩ | ⟨⟨failure, result⟩, -⟩
  · rw [result] at success ⊢
    dsimp only
    have admits := success.mp rfl
    refine made.trans (.put deepens.wellFormed vacant ?_ ?_ _)
    · apply chain admits.passable
      rw [Settings.placeFrom_artifactPath tree.base single, Settings.chainFrom_outputDirectory]
      simp
    · rw [deepens.base]
      exact apart_of_apart single admits.apart
  · rw [result]
    dsimp only
    exact made

end Single

end DirSchema.Output
