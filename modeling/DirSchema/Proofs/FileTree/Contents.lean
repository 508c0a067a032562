import DirSchema.Proofs.FileTree.Directories
set_option autoImplicit false

namespace DirSchema.FileTree

open DirSchema.Path

variable {tree before after : FileTree} {place : Location} {path text : String}
  {front name : List Char}

def fileAt? (tree : FileTree) (place : Location) : Option ByteArray :=
  match tree.get? place with
  | some (.file contents) => some contents
  | _ => none

theorem fileAt?_eq_some {contents : ByteArray} :
    tree.fileAt? place = some contents ↔ tree.get? place = some (.file contents) := by
  rw [fileAt?]
  cases tree.get? place with
  | none => simp
  | some node => cases node <;> simp

theorem fileAt?_put_self (inner : place ≠ []) (contents : ByteArray) :
    (tree.put place (.file contents)).fileAt? place = some contents :=
  fileAt?_eq_some.mpr (get?_put_self inner)

theorem fileAt?_put_of_ne {other : Location} (apart : other ≠ place) (node : Node) :
    (tree.put place node).fileAt? other = tree.fileAt? other := by
  rw [fileAt?, fileAt?, get?_put_of_ne apart]

theorem Extends.fileAt?_eq (grown : Extends before after) (place : Location) :
    after.fileAt? place = before.fileAt? place := by
  ext contents
  rw [fileAt?_eq_some, fileAt?_eq_some, grown.file_iff]

private theorem fromUTF8?_toByteArray (text : String) :
    String.fromUTF8? text.toByteArray = some text := by
  rw [String.fromUTF8?, dif_pos text.isValidUTF8]
  rfl

/-- A text that was written stands at the place of its path, where no directory stood. -/
theorem writeText_eq_ok (success : tree.writeText path text = .ok after) :
    tree.Reaches path ∧ tree.get? (placeFrom tree.base path) ≠ some .directory ∧
      after = tree.put (placeFrom tree.base path) (.file text.toUTF8) := by
  rw [writeText, writeFile] at success
  cases located : tree.locate path with
  | error error =>
      rw [located] at success
      cases success
  | ok target =>
      obtain ⟨reaches, location, here⟩ := reaches_of_locate located
      rw [located] at success
      cases plain : target.plain with
      | false => simp [bind, Except.bind, plain] at success
      | true =>
          rw [← here, ← location]
          cases found : target.node with
          | none =>
              simp [bind, Except.bind, pure, Except.pure, plain, found] at success
              exact ⟨reaches, nofun, success.symm⟩
          | some node =>
              cases node with
              | directory => simp [bind, Except.bind, plain, found] at success
              | file contents =>
                  simp [bind, Except.bind, pure, Except.pure, plain, found] at success
                  exact ⟨reaches, nofun, success.symm⟩

section Entry

variable (ends : Ends front name path) (entry : String.ofList name ≠ "..")
include ends entry

theorem writeText_of_reaches (reaches : tree.Reaches path)
    (vacant : tree.get? (placeFrom tree.base path) ≠ some .directory) (text : String) :
    tree.writeText path text =
      .ok (tree.put (placeFrom tree.base path) (.file text.toUTF8)) := by
  have located := locate_of_ends ends reaches
  rw [writeText, writeFile, located]
  cases found : tree.get? (placeFrom tree.base path) with
  | none => simp [bind, Except.bind, pure, Except.pure, entry]
  | some node =>
      cases node with
      | directory => exact absurd found vacant
      | file contents => simp [bind, Except.bind, pure, Except.pure, entry]

theorem readText_of_file (reaches : tree.Reaches path)
    (file : tree.fileAt? (placeFrom tree.base path) = some text.toUTF8) :
    tree.readText path = .ok text := by
  have located := locate_of_ends ends reaches
  rw [fileAt?_eq_some] at file
  rw [readText, find, located]
  simp [bind, Except.bind, pure, Except.pure, entry, file, fromUTF8?_toByteArray]

end Entry

section Listing

theorem mem_insertName {entry other : String} {entries : List String} :
    entry ∈ insertName other entries ↔ entry = other ∨ entry ∈ entries := by
  induction entries with
  | nil => simp [insertName]
  | cons first rest ih =>
      rw [insertName]
      split
      · simp
      · rw [List.mem_cons, ih, List.mem_cons]
        exact or_left_comm

theorem mem_foldr_insertName {entry : String} {entries : List String} :
    entry ∈ entries.foldr insertName [] ↔ entry ∈ entries := by
  induction entries with
  | nil => rfl
  | cons first rest ih => rw [List.foldr_cons, mem_insertName, ih, List.mem_cons]

private theorem mem_namesIn_of_get? {entry : String} {node : Node}
    (found : tree.get? (place ++ [entry]) = some node) : entry ∈ tree.namesIn place := by
  rw [namesIn, mem_foldr_insertName]
  refine List.mem_filterMap.mpr ⟨_, mem_nodes_of_get? (by simp) found, ?_⟩
  simp

theorem find_of_reaches (ends : Ends front name path) (reaches : tree.Reaches path)
    (here : tree.get? (placeFrom tree.base path) = some .directory) :
    tree.find path = .ok (placeFrom tree.base path, .directory) := by
  rw [find, locate_of_ends ends reaches]
  simp [bind, Except.bind, pure, Except.pure, here]

theorem fileNamesIn_of_find (found : tree.find path = .ok (place, .directory)) :
    tree.fileNamesIn path =
      (tree.namesIn place).filter fun entry => (tree.fileAt? (place ++ [entry])).isSome := by
  rw [fileNamesIn, found]
  apply List.filter_congr
  intro entry _
  rw [fileAt?]
  cases tree.get? (place ++ [entry]) with
  | none => rfl
  | some node => cases node <;> rfl

theorem mem_fileNamesIn_iff {entry : String} (found : tree.find path = .ok (place, .directory)) :
    entry ∈ tree.fileNamesIn path ↔ (tree.fileAt? (place ++ [entry])).isSome := by
  rw [fileNamesIn_of_find found, List.mem_filter, and_iff_right_iff_imp]
  intro file
  obtain ⟨contents, file⟩ := Option.isSome_iff_exists.mp file
  exact mem_namesIn_of_get? (fileAt?_eq_some.mp file)

/-- The files in a directory are listed under its path. -/
theorem mem_filesIn_of_file {entry : String} {contents : ByteArray}
    (ends : Ends front name path) (reaches : tree.Reaches path)
    (here : tree.get? (placeFrom tree.base path) = some .directory)
    (file : tree.fileAt? (placeFrom tree.base path ++ [entry]) = some contents) :
    join path entry ∈ tree.filesIn path := by
  refine List.mem_map_of_mem ((mem_fileNamesIn_iff (find_of_reaches ends reaches here)).mpr ?_)
  rw [file]
  rfl

end Listing

end DirSchema.FileTree
