import DirSchema.Proofs.Source.Placement
import DirSchema.Proofs.Source.Position
set_option autoImplicit false

namespace DirSchema.Source

open Text (byteLength byteLength_append isBlank)

/-- A text cut at one of its lines. -/
structure Standing where
  /-- The lines before, with their ends. -/
  before : List Char
  indent : List Char
  text : List Char
  /-- What follows on the same line, its end included. -/
  gap : List Char
  after : List Char
deriving DecidableEq, Repr

namespace Standing

def whole (line : Standing) : List Char :=
  line.before ++ line.indent ++ line.text ++ line.gap ++ line.after

def coord (line : Standing) (file : Nat) : Coord :=
  { file
    start := byteLength (line.before ++ line.indent)
    stop := byteLength (line.before ++ line.indent ++ line.text) }

/-- The line and column at which the line starts, counted from zero. -/
def location (line : Standing) : Location :=
  { line := line.before.count '\n', column := line.indent.length }

/-- Whether a text is cut at a significant line: the line is all that its line holds but for white
space, and is neither blank nor a comment. -/
structure StandsIn (line : Standing) (cs : List Char) : Prop where
  whole : line.whole = cs
  starts : ∀ c ∈ line.before.getLast?, c = '\n'
  indent : ∀ c ∈ line.indent, isBlank c = true ∧ c ≠ '\n'
  text : IsLine line.text
  noComment : line.text.head? ≠ some '#'
  gap : ∀ c ∈ line.gap, isBlank c = true
  single : '\n' ∉ line.gap.dropLast
  ends : line.after = [] ∨ line.gap.getLast? = some '\n'

variable {line : Standing} {file : File}

theorem StandsIn.split (stands : line.StandsIn file.text.toList) :
    file.text.toList =
      line.before ++ line.indent ++ line.text ++ (line.gap ++ line.after) := by
  rw [← stands.whole, Standing.whole, List.append_assoc _ line.gap]

/-- The coordinate marks the line. -/
theorem StandsIn.slice? (stands : line.StandsIn file.text.toList) (id : Nat) :
    file.slice? (line.coord id).start (line.coord id).stop = some (String.ofList line.text) := by
  rw [File.slice?, stands.split, coord, Text.slice?_append, Option.map_some]

/-- The coordinate starts at the line and the column of the line. -/
theorem StandsIn.location (indexed : file.Indexed) (stands : line.StandsIn file.text.toList)
    (id : Nat) : file.location (line.coord id).start = .ok line.location := by
  have split := stands.split
  have single : '\n' ∉ line.indent := fun member => (stands.indent '\n' member).2 rfl
  rw [List.append_assoc _ line.text] at split
  exact File.location_append indexed split stands.starts single

end Standing

namespace Line

private theorem exists_piece_of_mem {file offset : Nat} {pieces : List (List Char)} {line : Line}
    (member : line ∈ ofPieces file offset pieces) :
    ∃ front piece back, pieces = front ++ piece :: back ∧
      line = ofPiece file (offset + byteLength front.flatten) piece := by
  induction pieces generalizing offset with
  | nil => cases member
  | cons piece rest ih =>
      rcases List.mem_cons.mp member with rfl | later
      · exact ⟨[], piece, rest, rfl, rfl⟩
      · obtain ⟨front, found, back, split, place⟩ := ih later
        refine ⟨piece :: front, found, back, by rw [split]; rfl, ?_⟩
        rw [place, List.flatten_cons, byteLength_append, Nat.add_assoc]

/-- The pieces before another one are whole lines. -/
theorem getLast?_flatten_front {cs : List Char} {front back : List (List Char)} {piece : List Char}
    (split : Text.pieces cs = front ++ piece :: back) : ∀ c ∈ front.flatten.getLast?, c = '\n' := by
  rcases List.eq_nil_or_concat front with rfl | ⟨others, last, rfl⟩
  · simp
  · rw [List.concat_eq_append, List.append_assoc] at split
    have newline := Text.getLast?_of_mem_pieces split (List.cons_ne_nil piece back)
    intro c ends
    have nonempty : last ≠ [] := by
      intro empty
      rw [empty] at newline
      cases newline
    rw [List.concat_eq_append, List.flatten_append, List.flatten_singleton,
      List.getLast?_append_of_ne_nil _ nonempty, newline] at ends
    exact (Option.some.inj ends).symm

/-- The white space before a line and the line are not what its newline ends. -/
theorem newline_not_mem_trim {piece blank : List Char}
    (split : piece = piece.takeWhile isBlank ++ Text.trim piece ++ blank)
    (nonempty : Text.trim piece ≠ []) (single : '\n' ∉ piece.dropLast) :
    '\n' ∉ piece.takeWhile isBlank ++ Text.trim piece := by
  rcases List.eq_nil_or_concat blank with rfl | ⟨initial, last, rfl⟩
  · obtain ⟨initial, last, concat⟩ := List.eq_nil_or_concat _ |>.resolve_left nonempty
    have solid : isBlank last = false :=
      (Text.trimmed_trim piece).stop last (by rw [concat]; simp)
    have other : '\n' ≠ last := by
      rintro rfl
      cases solid
    rw [List.append_nil] at split
    rw [split, concat, List.concat_eq_append, ← List.append_assoc, List.dropLast_concat] at single
    rw [concat, List.concat_eq_append, ← List.append_assoc]
    intro member
    rcases List.mem_append.mp member with inside | ends
    · exact single inside
    · exact other (List.mem_singleton.mp ends)
  · rw [List.concat_eq_append, ← List.append_assoc] at split
    rw [split, List.dropLast_concat] at single
    exact fun member => single (List.mem_append_left _ member)

/-- Each significant line that is read stands in the text at its coordinate. -/
theorem exists_standing {file : Nat} {text : String} {line : Line}
    (member : line ∈ ofText file text) (significant : line.isSignificant = true) :
    ∃ standing : Standing, standing.StandsIn text.toList ∧ standing.text = line.text ∧
      line.coord = standing.coord file := by
  obtain ⟨front, piece, back, split, rfl⟩ := exists_piece_of_mem member
  obtain ⟨blank, cut, blanks⟩ := Text.exists_blank_trim piece
  have inText : piece ∈ Text.pieces text.toList := by simp [split]
  have single := Text.newline_not_mem_dropLast inText
  have nonempty : Text.trim piece ≠ [] := by
    intro empty
    simp [isSignificant, ofPiece, empty] at significant
  have noNewline := newline_not_mem_trim cut nonempty single
  refine ⟨⟨front.flatten, piece.takeWhile isBlank, Text.trim piece, blank, back.flatten⟩, ?_, rfl,
    ?_⟩
  · refine
      { whole := ?_
        starts := getLast?_flatten_front split
        indent := ?_
        text := ⟨nonempty, Text.trimmed_trim piece, ?_⟩
        noComment := ?_
        gap := blanks
        single := ?_
        ends := ?_ }
    · rw [← Text.flatten_pieces text.toList, split, List.flatten_append, List.flatten_cons,
        Standing.whole]
      simp only [List.append_assoc]
      rw [← List.append_assoc (Text.trim piece), ← List.append_assoc (piece.takeWhile _),
        ← List.append_assoc (piece.takeWhile _), ← cut]
    · intro c inIndent
      refine ⟨List.mem_takeWhile_imp inIndent, ?_⟩
      rintro rfl
      exact noNewline (List.mem_append_left _ inIndent)
    · exact fun inside => noNewline (List.mem_append_right _ inside)
    · intro comment
      obtain ⟨rest, first⟩ := List.head?_eq_some_iff.mp comment
      have trimmed : Text.trim piece = '#' :: rest := first
      simp [isSignificant, ofPiece, trimmed] at significant
    · intro inside
      have tail : blank ≠ [] := by
        intro empty
        rw [empty] at inside
        cases inside
      rw [cut, List.dropLast_append_of_ne_nil tail] at single
      exact single (List.mem_append_right _ inside)
    · by_cases last : back = []
      · left
        rw [last]
        rfl
      · right
        have newline := Text.getLast?_of_mem_pieces split last
        rw [cut, List.getLast?_append] at newline
        cases ends : blank.getLast? with
        | some c =>
            rw [ends] at newline
            exact newline
        | none =>
            rw [ends] at newline
            exact absurd (List.mem_of_getLast? newline) noNewline
  · simp only [ofPiece, Standing.coord, byteLength_append, Nat.zero_add]

end Line
end DirSchema.Source
