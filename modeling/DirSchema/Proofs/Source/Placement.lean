import DirSchema.Source.Line
import DirSchema.Proofs.Text.Cutting
set_option autoImplicit false

namespace DirSchema.Source

/-- A text that can be written on a line of its own and is read back unchanged. -/
structure IsLine (text : List Char) : Prop where
  nonempty : text ≠ []
  trimmed : Text.Trimmed text
  single : '\n' ∉ text

namespace Line

/-- The text of a file with the given lines, each of which a newline ends. -/
def written (lines : List (List Char)) : List Char := lines.flatMap (· ++ ['\n'])

/-- The lines of such a file, of which the first starts at byte `offset`. -/
def place (file offset : Nat) : List (List Char) → List Line
  | [] => []
  | text :: rest =>
    { text, coord := { file, start := offset, stop := offset + Text.byteLength text } } ::
      place file (offset + Text.byteLength (text ++ ['\n'])) rest

theorem written_cons (text : List Char) (rest : List (List Char)) :
    written (text :: rest) = text ++ '\n' :: written rest := by
  simp [written]

theorem place_append (file offset : Nat) (first second : List (List Char)) :
    place file offset (first ++ second) =
      place file offset first ++
        place file (offset + Text.byteLength (written first)) second := by
  induction first generalizing offset with
  | nil => rfl
  | cons text rest ih =>
      have length : Text.byteLength (written (text :: rest)) =
          Text.byteLength (text ++ ['\n']) + Text.byteLength (written rest) := by
        rw [← Text.byteLength_append, written_cons, List.append_assoc, List.singleton_append]
      simp only [List.cons_append, place, ih, length, Nat.add_assoc]

theorem map_text_place (file offset : Nat) (lines : List (List Char)) :
    (place file offset lines).map (·.text) = lines := by
  induction lines generalizing offset with
  | nil => rfl
  | cons text rest ih => simp only [place, List.map_cons, ih]

private theorem ofPiece_newline (file offset : Nat) (text : List Char) (line : IsLine text) :
    ofPiece file offset (text ++ ['\n']) =
      { text, coord := { file, start := offset, stop := offset + Text.byteLength text } } := by
  have trimmed : Text.trim (text ++ ['\n']) = text :=
    (Text.trim_append_blank text '\n' (by decide)).trans
      ((Text.trim_eq_self_iff text).mpr line.trimmed)
  have indent : (text ++ ['\n']).takeWhile Text.isBlank = [] := by
    cases text with
    | nil => exact absurd rfl line.nonempty
    | cons first rest => simp [line.trimmed.start first rfl]
  simp [ofPiece, trimmed, indent, Text.byteLength]

private theorem ofPieces_written (file offset : Nat) (lines : List (List Char))
    (valid : ∀ text ∈ lines, IsLine text) :
    ofPieces file offset (Text.pieces (written lines)) = place file offset lines := by
  induction lines generalizing offset with
  | nil => rfl
  | cons text rest ih =>
      have line : IsLine text := valid text List.mem_cons_self
      rw [written_cons, Text.pieces_append_newline text (written rest) line.single, ofPieces,
        ofPiece_newline file offset text line,
        ih _ (fun text member => valid text (List.mem_cons_of_mem _ member)), place]

/-- Reading undoes writing. -/
theorem ofText_written (file : Nat) (lines : List (List Char))
    (valid : ∀ text ∈ lines, IsLine text) :
    ofText file (String.ofList (written lines)) = place file 0 lines := by
  rw [ofText, String.toList_ofList, ofPieces_written file 0 lines valid]

/-- A line ends within the piece that holds it, behind the first byte. -/
theorem stop_ofPiece (file offset : Nat) {piece : List Char} (nonempty : piece ≠ []) :
    offset < (ofPiece file offset piece).coord.stop ∧
      (ofPiece file offset piece).coord.stop ≤ offset + Text.byteLength piece := by
  have fits := Text.byteLength_trim piece
  have positive := Text.byteLength_pos nonempty
  simp only [ofPiece]
  by_cases nothing : Text.trim piece = []
  · have blank := Text.takeWhile_isBlank_of_trim_nil nothing
    rw [blank] at fits ⊢
    omega
  · have text := Text.byteLength_pos nothing
    omega

/-- The lines of a file stand behind one another. -/
theorem pairwise_ofPieces (file offset : Nat) (pieces : List (List Char))
    (nonempty : ∀ piece ∈ pieces, piece ≠ []) :
    (ofPieces file offset pieces).Pairwise (fun first second =>
        first.coord.stop < second.coord.stop) ∧
      ∀ line ∈ ofPieces file offset pieces, line.coord.file = file ∧ offset < line.coord.stop := by
  induction pieces generalizing offset with
  | nil => exact ⟨.nil, by simp [ofPieces]⟩
  | cons piece rest ih =>
      obtain ⟨inside, fits⟩ := stop_ofPiece file offset (nonempty piece List.mem_cons_self)
      obtain ⟨ordered, behind⟩ := ih (offset + Text.byteLength piece)
        fun other member => nonempty other (List.mem_cons_of_mem _ member)
      rw [ofPieces]
      refine ⟨.cons ?_ ordered, ?_⟩
      · intro line member
        have later := (behind line member).2
        omega
      · intro line member
        rcases List.mem_cons.mp member with rfl | later
        · exact ⟨rfl, inside⟩
        · have further := (behind line later).2
          exact ⟨(behind line later).1, by omega⟩

/-- No two lines of a file have the same place. -/
theorem nodup_coord_ofText (file : Nat) (text : String) :
    ((ofText file text).map (·.coord)).Nodup := by
  have ordered := (pairwise_ofPieces file 0 (Text.pieces text.toList)
    fun _ member => Text.ne_nil_of_mem_pieces member).1
  rw [List.Nodup, List.pairwise_map]
  refine ordered.imp fun {first second} before same => ?_
  rw [same] at before
  exact Nat.lt_irrefl _ before

theorem file_ofText (file : Nat) (text : String) :
    ∀ line ∈ ofText file text, line.coord.file = file := by
  intro line member
  exact ((pairwise_ofPieces file 0 (Text.pieces text.toList)
    fun _ member => Text.ne_nil_of_mem_pieces member).2 line member).1

end Line
end DirSchema.Source
