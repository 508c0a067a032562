import DirSchema.Proofs.FileTree.Places
set_option autoImplicit false

namespace DirSchema.Path

open DirSchema.Text

variable {entry : String}

/-- A name is appended to a directory behind a separator, which may be there already. -/
theorem join_name_cases (isName : IsName entry.toList) (directory : String) :
    (directory = "" ∧ join directory entry = entry) ∨
      ∃ before, (directory.toList = before ∧ before ≠ [] ∨ directory.toList = before ++ ['/']) ∧
        (join directory entry).toList = before ++ '/' :: entry.toList := by
  rw [join, isName.isAbsolute_eq, Bool.false_or]
  split
  · rename_i empty
    exact .inl ⟨String.isEmpty_iff.mp empty, rfl⟩
  rename_i some
  have nonempty : directory.toList ≠ [] := by
    intro none
    exact some (String.isEmpty_iff.mpr (String.toList_eq_nil_iff.mp none))
  right
  split
  · rename_i separated
    obtain ⟨before, text⟩ := List.getLast?_eq_some_iff.mp separated
    refine ⟨before, .inr text, ?_⟩
    rw [String.toList_append, text, List.append_assoc, List.singleton_append]
  · refine ⟨directory.toList, .inl ⟨rfl, nonempty⟩, ?_⟩
    rw [String.toList_append, String.toList_append, List.append_assoc]
    rfl

variable (isName : IsName entry.toList)
include isName

theorem isAbsolute_join_name (directory : String) :
    isAbsolute (join directory entry) = isAbsolute directory := by
  rcases join_name_cases isName directory with ⟨rfl, same⟩ | ⟨before, ⟨rfl, some⟩ | text, joined⟩
  · rw [same, isName.isAbsolute_eq]
    rfl
  · rw [isAbsolute_eq, isAbsolute_eq, joined, List.head?_append_of_ne_nil _ some]
  · rw [isAbsolute_eq, isAbsolute_eq, joined, text]
    cases before <;> rfl

theorem names_join_name (directory : String) :
    names (join directory entry).toList = names directory.toList ++ [entry] := by
  have last := isName.names_eq
  rw [String.ofList_toList] at last
  rcases join_name_cases isName directory with ⟨rfl, same⟩ | ⟨before, ⟨rfl, -⟩ | text, joined⟩
  · rw [same, last]
    rfl
  · rw [joined, names_append, last]
  · rw [joined, text, names_append, names_snoc, last]

/-- A name of a directory has one component more than the directory. -/
theorem components_join_name (inner : entry ≠ "..") (directory : String) :
    components (join directory entry) = components directory ++ [.normal entry] := by
  have absolute := isAbsolute_join_name isName directory
  have piece := ofPiece?_name isName inner
  have single := fields_of_single isName.single
  rcases join_name_cases isName directory with ⟨rfl, same⟩ | ⟨before, cases, joined⟩
  · have visible : [entry.toList].head? ≠ some ['.'] := by simpa using isName.visible
    rw [same, components, isName.isAbsolute_eq, single, if_neg (by simp), if_neg visible,
      List.filterMap_cons, piece]
    rfl
  have pieces := fields_append (· == '/') before entry.toList '/' (by decide)
  rw [single] at pieces
  have head : (fields (· == '/') before ++ [entry.toList]).head? =
      (fields (· == '/') before).head? :=
    List.head?_append_of_ne_nil _ (fields_ne_nil _ _)
  rw [components, components, absolute, joined, pieces, head, List.filterMap_append,
    List.filterMap_cons, piece, List.filterMap_nil, ← List.append_assoc]
  rcases cases with ⟨text, -⟩ | text
  · rw [text]
  · have more := fields_append (· == '/') before [] '/' (by decide)
    rw [text, more, List.head?_append_of_ne_nil _ (fields_ne_nil _ _), List.filterMap_append]
    simp [fields, Component.ofPiece?]

theorem placeFrom_join_name (inner : entry ≠ "..") (base : Location)
    (directory : String) :
    placeFrom base (join directory entry) = placeFrom base directory ++ [entry] := by
  rw [placeFrom, placeFrom, startFrom, startFrom, isAbsolute_join_name isName,
    names_join_name isName, lead_append, lead, if_neg inner, lead]

omit isName

variable {steps : List String} (down : ∀ step ∈ steps, IsName step.toList ∧ step ≠ "..")
include down

/-- A path with names joined to it consists of what it consists of itself and of what each name
adds. -/
theorem foldl_join {α : Type} (view : String → List α) (part : String → α)
    (joined : ∀ {step : String}, IsName step.toList → step ≠ ".." → ∀ directory,
      view (join directory step) = view directory ++ [part step]) (directory : String) :
    view (steps.foldl join directory) = view directory ++ steps.map part := by
  induction steps generalizing directory with
  | nil => exact (List.append_nil _).symm
  | cons step rest ih =>
      rw [List.forall_mem_cons] at down
      rw [List.foldl_cons, ih down.2, joined down.1.1 down.1.2, List.append_assoc]
      rfl

theorem components_foldl_join (directory : String) :
    components (steps.foldl join directory) = components directory ++ steps.map .normal :=
  foldl_join down components .normal components_join_name directory

theorem names_foldl_join (directory : String) :
    names (steps.foldl join directory).toList = names directory.toList ++ steps := by
  have joined := foldl_join down (fun path => names path.toList) id
    (fun isName _ directory => names_join_name isName directory) directory
  rwa [List.map_id] at joined

theorem placeFrom_foldl_join (base : Location) (directory : String) :
    placeFrom base (steps.foldl join directory) = placeFrom base directory ++ steps := by
  have joined := foldl_join down (placeFrom base) id
    (fun isName inner directory => placeFrom_join_name isName inner base directory) directory
  rwa [List.map_id] at joined

end DirSchema.Path
