import DirSchema.Decoder.Files
import DirSchema.Proofs.Decoder.Significance
import DirSchema.Proofs.Decoder.Strings
set_option autoImplicit false

namespace DirSchema

def FileTree.Readable (tree : FileTree) (path : String) : Prop :=
  ∃ text, tree.readText path = .ok text

namespace Decoder

open DirSchema.Source (Line Registry)

variable {tree : FileTree} {registry : Registry} {paths : List String}

theorem readFiles_cons (tree : FileTree) (progress : Progress) (path : String)
    (rest : List String) :
    readFiles tree progress (path :: rest) =
      match tree.readText path with
      | .error failure =>
        ({ progress with log := progress.log ++ ["parsing " ++ path] }, some { failure })
      | .ok text =>
        readFiles tree
          (Progress.read { progress with log := progress.log ++ ["parsing " ++ path] } path text)
          rest := rfl

private theorem readFiles_eq_none_iff (progress : Progress) :
    (readFiles tree progress paths).2 = none ↔ ∀ path ∈ paths, tree.Readable path := by
  induction paths generalizing progress with
  | nil => simp [readFiles]
  | cons path rest ih =>
      rw [readFiles_cons, List.forall_mem_cons, FileTree.Readable]
      cases tree.readText path with
      | error failure => simp
      | ok text => simp [ih]

/-- Files are decoded to a schema exactly if all of them can be read. -/
theorem decodeFiles_ok_iff :
    (∃ schema, (decodeFiles tree registry paths).result = .ok schema) ↔
      ∀ path ∈ paths, tree.Readable path := by
  rw [← readFiles_eq_none_iff { registry }, decodeFiles]
  rcases readFiles tree { registry } paths with ⟨progress, _ | error⟩ <;> simp

def Reads (tree : FileTree) (paths texts : List String) : Prop :=
  List.Forall₂ (fun path text => tree.readText path = .ok text) paths texts

/-- The lines of texts without the white space around them. -/
def trimmedLines (texts : List String) : List (List Char) :=
  texts.flatMap fun text => (Text.lines text.toList).map Text.trim

theorem declareAll_append (schema : Schema) (first second : List Event) :
    declareAll schema (first ++ second) = declareAll (declareAll schema first) second := by
  rw [declareAll, declarations_append, List.foldl_append]
  rfl

/-- Reading files is going through the lines of their texts. -/
theorem readFiles_eq (progress : Progress) {texts : List String} (reads : Reads tree paths texts) :
    ∃ after lines, readFiles tree progress paths = (after, none) ∧
      lines.map (·.text) = trimmedLines texts ∧
      after.state = (progress.state.steps lines).1 ∧
      after.schema = declareAll progress.schema (progress.state.steps lines).2 := by
  induction reads generalizing progress with
  | nil => exact ⟨progress, [], rfl, rfl, rfl, rfl⟩
  | @cons path text paths texts read _ ih =>
      obtain ⟨after, lines, result, same, state, schema⟩ :=
        ih (Progress.read { progress with log := progress.log ++ ["parsing " ++ path] } path text)
      refine ⟨after, Line.ofText (progress.registry.add path text).2 text ++ lines, ?_, ?_, ?_, ?_⟩
      · rw [readFiles_cons, read]
        exact result
      · rw [List.map_append, same, Line.map_text_ofText]
        rfl
      · rw [state, State.steps_append]
        rfl
      · rw [schema, State.steps_append, declareAll_append]
        rfl

private theorem exists_reads :
    (∃ texts, Reads tree paths texts) ↔ ∀ path ∈ paths, tree.Readable path := by
  induction paths with
  | nil => simp [Reads]
  | cons path rest ih =>
      rw [List.forall_mem_cons, ← ih]
      constructor
      · rintro ⟨_, _ | ⟨read, reads⟩⟩
        exact ⟨⟨_, read⟩, _, reads⟩
      · rintro ⟨⟨text, read⟩, texts, reads⟩
        exact ⟨text :: texts, .cons read reads⟩

/-- The schema of files is that of their lines. -/
theorem decodeFiles_eq (registry : Registry) {texts : List String}
    (reads : Reads tree paths texts) :
    ∃ lines, lines.map (·.text) = trimmedLines texts ∧
      (decodeFiles tree registry paths).result = .ok (decodeLines lines).schema := by
  obtain ⟨after, lines, result, same, state, schema⟩ := readFiles_eq { registry } reads
  refine ⟨lines, same, ?_⟩
  rw [decodeFiles, result]
  dsimp only
  rw [schema, state, ← declareAll_append]
  rfl

theorem exists_decodeLines {schema : Schema}
    (decoded : (decodeFiles tree registry paths).result = .ok schema) :
    ∃ texts lines, Reads tree paths texts ∧ lines.map (·.text) = trimmedLines texts ∧
      schema = (decodeLines lines).schema := by
  obtain ⟨texts, reads⟩ := exists_reads.mpr (decodeFiles_ok_iff.mp ⟨schema, decoded⟩)
  obtain ⟨lines, same, result⟩ := decodeFiles_eq registry reads
  rw [decoded] at result
  exact ⟨texts, lines, reads, same, Except.ok.inj result⟩

theorem name_ne_empty_of_decodeFiles {schema : Schema}
    (decoded : (decodeFiles tree registry paths).result = .ok schema) :
    ∀ owner ∈ schema.objectClasses, owner.name ≠ "" := by
  obtain ⟨-, lines, -, -, rfl⟩ := exists_decodeLines decoded
  exact fun owner member => (named_of_mem_decodeLines member).1

end Decoder
end DirSchema
