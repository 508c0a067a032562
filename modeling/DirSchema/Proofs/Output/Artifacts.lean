import DirSchema.Output.Generate
import DirSchema.Proofs.FileTree.Contents
import DirSchema.Proofs.Text.Casing
set_option autoImplicit false

namespace DirSchema.Output

open DirSchema.Path

namespace Settings

variable {settings : Settings} {kind other : ArtifactKind} {className otherName : String}

def packageDirectory (settings : Settings) : String :=
  (segments settings.package).foldl Path.join settings.outputRoot

/-- What the paths of the directories of all kinds start with. -/
def opening (settings : Settings) : List Char :=
  if settings.packageDirectory.isEmpty then []
  else if settings.packageDirectory.toList.getLast? = some '/' then
    settings.packageDirectory.toList
  else settings.packageDirectory.toList ++ ['/']

def fileName (className : String) : String := className ++ "." ++ extension

private theorem opens_opening (settings : Settings) : Opens settings.opening := by
  rw [opening]
  split
  · exact .inl rfl
  split
  · rename_i separated
    exact .inr separated
  · exact .inr (List.getLast?_concat ..)

theorem isName_subpackage (kind : ArtifactKind) : IsName kind.subpackage.toList := by
  cases kind <;> exact ⟨by decide, by decide, by decide⟩

theorem entry_subpackage (kind : ArtifactKind) : String.ofList kind.subpackage.toList ≠ ".." := by
  rw [String.ofList_toList]
  cases kind <;> decide

theorem outputDirectory_ends (settings : Settings) (kind : ArtifactKind) :
    Ends settings.opening kind.subpackage.toList (settings.outputDirectory kind) where
  text := by
    have relative : isAbsolute kind.subpackage = false := by cases kind <;> rfl
    rw [outputDirectory, show (segments settings.package).foldl Path.join settings.outputRoot =
      settings.packageDirectory from rfl, join, relative, opening, Bool.false_or]
    split
    · rfl
    split
    · rw [String.toList_append]
    · rw [String.toList_append, String.toList_append]
      rfl
  opens := settings.opens_opening
  isName := isName_subpackage kind

theorem isName_fileName (single : '/' ∉ className.toList) : IsName (fileName className).toList := by
  have text : (fileName className).toList = className.toList ++ ['.', 'r', 's'] := by
    rw [fileName, String.toList_append, String.toList_append, List.append_assoc]
    rfl
  refine ⟨by simp [text], ?_, ?_⟩
  · rw [text, List.mem_append, not_or]
    exact ⟨single, by decide⟩
  · rw [text]
    intro same
    have := congrArg List.length same
    simp at this

theorem fileName_ne_up (className : String) : fileName className ≠ ".." := by
  intro same
  have last := congrArg (fun text : String => text.toList.getLast?) same
  simp [fileName, extension] at last

theorem entry_fileName (className : String) :
    String.ofList (fileName className).toList ≠ ".." := by
  rw [String.ofList_toList]
  exact fileName_ne_up className

theorem artifactPath_eq (single : '/' ∉ className.toList) :
    settings.artifactPath kind className =
      settings.outputDirectory kind ++ "/" ++ fileName className :=
  (settings.outputDirectory_ends kind).join_eq (isName_fileName single)

theorem artifactPath_ends (settings : Settings) (kind : ArtifactKind)
    (single : '/' ∉ className.toList) :
    Ends ((settings.outputDirectory kind).toList ++ ['/']) (fileName className).toList
      (settings.artifactPath kind className) :=
  (settings.outputDirectory_ends kind).join_ends (isName_fileName single)

theorem artifactPath_parent (settings : Settings) (kind : ArtifactKind)
    (single : '/' ∉ className.toList) :
    parent? (settings.artifactPath kind className) = some (settings.outputDirectory kind) ∧
      Parent ((settings.outputDirectory kind).toList ++ ['/'])
        (settings.artifactPath kind className) (settings.outputDirectory kind) :=
  (settings.outputDirectory_ends kind).join_parent (isName_fileName single)

section Places

/-- The place that the directories of all kinds stand in. -/
def homeFrom (settings : Settings) (base : Location) : Location :=
  lead (if settings.opening.head? == some '/' then [] else base) (names settings.opening)

/-- The places that are entered on the way to the directories of all kinds. -/
def passedFrom (settings : Settings) (base : Location) : List Location :=
  entered (if settings.opening.head? == some '/' then [] else base) (names settings.opening)

variable (base : Location)

theorem placeFrom_outputDirectory :
    placeFrom base (settings.outputDirectory kind) =
      settings.homeFrom base ++ [kind.subpackage] := by
  have ends := settings.outputDirectory_ends kind
  rw [ends.placeFrom_of_name (entry_subpackage kind), startFrom, ends.isAbsolute_front,
    String.ofList_toList, homeFrom]

theorem chainFrom_outputDirectory :
    chainFrom base (settings.outputDirectory kind) =
      settings.passedFrom base ++ [settings.homeFrom base ++ [kind.subpackage]] := by
  have ends := settings.outputDirectory_ends kind
  rw [ends.chainFrom_of_name (entry_subpackage kind), ends.aboveFrom_eq,
    placeFrom_outputDirectory, startFrom, ends.isAbsolute_front, passedFrom]

theorem aboveFrom_artifactPath (settings : Settings) (kind : ArtifactKind)
    (single : '/' ∉ className.toList) :
    aboveFrom base (settings.artifactPath kind className) =
      chainFrom base (settings.outputDirectory kind) :=
  ((artifactPath_ends settings kind single).chainFrom_parent
    (artifactPath_parent settings kind single).2 base).symm

variable (single : '/' ∉ className.toList)
include single

theorem placeFrom_artifactPath :
    placeFrom base (settings.artifactPath kind className) =
      settings.homeFrom base ++ [kind.subpackage, fileName className] := by
  have ends := artifactPath_ends settings kind single
  have parent := (artifactPath_parent settings kind single).2
  rw [ends.placeFrom_below parent (entry_fileName className), placeFrom_outputDirectory,
    String.ofList_toList, List.append_assoc]
  rfl

/-- No artifact stands where the directory of a kind does. -/
theorem placeFrom_artifactPath_ne :
    placeFrom base (settings.artifactPath kind className) ≠
      settings.homeFrom base ++ [other.subpackage] := by
  rw [placeFrom_artifactPath base single]
  intro same
  have lengths := congrArg List.length same
  simp at lengths

/-- Artifacts with one place have one path. -/
theorem artifactPath_of_place (otherSingle : '/' ∉ otherName.toList)
    (same : placeFrom base (settings.artifactPath kind className) =
      placeFrom base (settings.artifactPath other otherName)) :
    settings.artifactPath kind className = settings.artifactPath other otherName := by
  rw [placeFrom_artifactPath base single, placeFrom_artifactPath base otherSingle,
    List.append_cancel_left_eq, List.cons.injEq, List.cons.injEq] at same
  have kinds : kind = other := by
    cases kind <;> cases other <;> simp_all [ArtifactKind.subpackage]
  rw [artifactPath_eq single, artifactPath_eq otherSingle, same.2.1, kinds]

end Places

end Settings

theorem single_classNameOf (kind : ArtifactKind) {name : String} (single : '/' ∉ name.toList) :
    '/' ∉ (Model.classNameOf kind name).toList := by
  rw [Model.classNameOf, String.toList_append, List.mem_append, not_or]
  refine ⟨Text.separator_not_mem_capitalize single, ?_⟩
  cases kind <;> decide

end DirSchema.Output
