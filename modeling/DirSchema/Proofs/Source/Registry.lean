import DirSchema.Source.Registry
import Mathlib.Data.List.Basic
set_option autoImplicit false

namespace DirSchema

namespace Path

theorem same_refl (path : String) : same path path = true := beq_self_eq_true _

theorem same_comm (first second : String) : same first second = same second first := BEq.comm

theorem same_trans {first second third : String} (front : same first second = true)
    (back : same second third = true) : same first third = true := by
  rw [same, beq_iff_eq] at *
  exact front.trans back

end Path

namespace Source.Registry

/-- Whether a file is registered under a number with a path and a text. -/
structure Holds (registry : Registry) (name text : String) (id : Nat) : Prop where
  number : registry.idOf? name = some id
  file : ∃ file, registry.file id = .ok file ∧ file.text = text ∧ Path.same file.name name = true

variable {registry : Registry} {name other text : String} {id : Nat}

theorem idOf?_update (registry : Registry) (id : Nat) (text name : String) :
    (registry.update id text).idOf? name = registry.idOf? name := rfl

theorem file_eq_ok {file : File} :
    registry.file id = .ok file ↔ registry.files[id]? = some file := by
  rw [Registry.file]
  cases registry.files[id]? <;> simp

theorem indexed_of_file {file : File} (known : registry.file id = .ok file) : file.Indexed :=
  registry.indexed file (List.mem_of_getElem? (file_eq_ok.mp known))

/-- The number of a path is that of a file with the path. -/
theorem exists_file_of_idOf? (found : registry.idOf? name = some id) :
    ∃ file, registry.file id = .ok file ∧ Path.same file.name name = true := by
  rw [idOf?, registry.numbered, firstIndex?] at found
  obtain ⟨inside, same, -⟩ := List.findIdx?_eq_some_iff_getElem.mp found
  rw [List.length_map] at inside
  rw [List.getElem_map] at same
  exact ⟨registry.files[id], file_eq_ok.mpr (List.getElem?_eq_getElem inside), same⟩

/-- The path of a file has its number, as no two files have the same path. -/
theorem idOf?_of_file {file : File} (known : registry.file id = .ok file)
    (named : Path.same file.name name = true) : registry.idOf? name = some id := by
  obtain ⟨inside, stored⟩ := List.getElem?_eq_some_iff.mp (file_eq_ok.mp known)
  rw [idOf?, registry.numbered, firstIndex?, List.findIdx?_eq_some_iff_getElem]
  refine ⟨by rwa [List.length_map], by rwa [List.getElem_map, stored], ?_⟩
  intro earlier before same
  have apart := List.pairwise_iff_getElem.mp registry.distinct earlier id
    (by rw [List.length_map]; omega) (by rwa [List.length_map]) before
  rw [List.getElem_map, List.getElem_map, stored] at apart
  rw [List.getElem_map] at same
  have joined := Path.same_trans same (Path.same_comm _ _ ▸ named)
  rw [apart] at joined
  cases joined

theorem files_update (registry : Registry) (id : Nat) (text : String) (other : Nat) :
    (registry.update id text).files[other]? =
      (registry.files[other]?).map fun file => if id = other then file.withText text else file := by
  change (setText registry.files id text)[other]? = _
  rw [setText, List.getElem?_modify]
  cases registry.files[other]? <;> rfl

/-- A file that is entered stands behind all others. -/
theorem files_enter (new : registry.idOf? name = none) (text : String) :
    (registry.enter name text new).files =
      registry.files ++ [File.withText { name := name } text] := by
  apply List.ext_getElem?
  intro index
  change (setText (registry.files ++ [{ name := name }]) registry.files.length text)[index]? = _
  rw [setText, List.getElem?_modify]
  rcases Nat.lt_trichotomy index registry.files.length with inside | rfl | behind
  · have other : registry.files.length ≠ index := by omega
    rw [List.getElem?_append_left inside, List.getElem?_append_left inside]
    simp [other]
  · simp
  · have beyond : registry.files.length + 1 ≤ index := behind
    rw [List.getElem?_eq_none (by simpa using beyond), List.getElem?_eq_none (by simpa using beyond)]
    rfl

theorem add_of_known (known : registry.idOf? name = some id) (text : String) :
    registry.add name text = (registry.update id text, id) := by
  rw [add]
  split
  · rename_i found same
    rw [known, Option.some.injEq] at same
    rw [same]
  · rename_i absent
    rw [known] at absent
    cases absent

theorem add_of_new (new : registry.idOf? name = none) (text : String) :
    registry.add name text = (registry.enter name text new, registry.files.length) := by
  rw [add]
  split
  · rename_i found same
    rw [new] at same
    cases same
  · rfl

/-- What is added is held. -/
theorem holds_add (registry : Registry) (name text : String) :
    (registry.add name text).1.Holds name text (registry.add name text).2 := by
  cases found : registry.idOf? name with
  | some id =>
      obtain ⟨file, known, same⟩ := exists_file_of_idOf? found
      rw [add_of_known found]
      refine ⟨found, file.withText text, ?_, rfl, same⟩
      rw [file_eq_ok, files_update, file_eq_ok.mp known, Option.map_some, if_pos rfl]
  | none =>
      rw [add_of_new found]
      have entered : (registry.enter name text found).file registry.files.length =
          .ok (File.withText { name := name } text) := by
        rw [file_eq_ok, files_enter, List.getElem?_concat_length]
      exact ⟨idOf?_of_file entered (Path.same_refl name), _, entered, rfl, Path.same_refl name⟩

/-- What is held stays held while other paths are added. -/
theorem Holds.add (held : registry.Holds name text id) (apart : Path.same name other = false)
    (contents : String) : (registry.add other contents).1.Holds name text id := by
  obtain ⟨file, known, same, named⟩ := held.file
  cases found : registry.idOf? other with
  | some taken =>
      have distinct : taken ≠ id := by
        rintro rfl
        obtain ⟨owner, owned, sameOwner⟩ := exists_file_of_idOf? found
        rw [known] at owned
        cases owned
        have joined := Path.same_trans (Path.same_comm _ _ ▸ named) sameOwner
        rw [apart] at joined
        cases joined
      rw [add_of_known found]
      refine ⟨held.number, file, ?_, same, named⟩
      rw [file_eq_ok, files_update, file_eq_ok.mp known, Option.map_some, if_neg distinct]
  | none =>
      obtain ⟨inside, -⟩ := List.getElem?_eq_some_iff.mp (file_eq_ok.mp known)
      have kept : (registry.enter other contents found).file id = .ok file := by
        rw [file_eq_ok, files_enter, List.getElem?_append_left inside, file_eq_ok.mp known]
      rw [add_of_new found]
      exact ⟨idOf?_of_file kept named, file, kept, same, named⟩

end Source.Registry
end DirSchema
