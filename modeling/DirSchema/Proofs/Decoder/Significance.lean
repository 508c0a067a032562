import DirSchema.Proofs.Decoder.Relocation
import DirSchema.Proofs.Text.Cutting
set_option autoImplicit false

namespace DirSchema

namespace Source.Line

private theorem map_text_ofPieces (file offset : Nat) (pieces : List (List Char)) :
    (ofPieces file offset pieces).map (·.text) = pieces.map Text.trim := by
  induction pieces generalizing offset with
  | nil => rfl
  | cons piece rest ih =>
      rw [ofPieces, List.map_cons, ih, List.map_cons]
      rfl

/-- The lines of a file, whichever file it is. -/
theorem map_text_ofText (file : Nat) (text : String) :
    (ofText file text).map (·.text) = (Text.lines text.toList).map Text.trim := by
  rw [ofText, map_text_ofPieces, Text.map_trim_lines]

theorem isSignificant_eq (line : Line) :
    line.isSignificant = decide (line.text ≠ [] ∧ line.text.head? ≠ some '#') := by
  rw [isSignificant]
  cases line.text with
  | nil => rfl
  | cons c rest => by_cases comment : c = '#' <;> simp [comment]

end Source.Line

namespace Decoder

open DirSchema.Source (Line)

/-- The lines of files without the white space around them, as one sequence that has no blank lines
and no comments. -/
def significantTexts (inputs : List Input) : List (List Char) :=
  (inputs.flatMap fun input => (Text.lines input.text.toList).map Text.trim).filter
    fun text => text ≠ [] ∧ text.head? ≠ some '#'

theorem map_text_linesOf (inputs : List Input) :
    (linesOf inputs).map (·.text) =
      inputs.flatMap fun input => (Text.lines input.text.toList).map Text.trim := by
  rw [linesOf, List.map_flatMap]
  refine List.flatMap_congr fun input _ => ?_
  exact Line.map_text_ofText input.file input.text

theorem significantTexts_eq (inputs : List Input) :
    significantTexts inputs = ((linesOf inputs).filter (·.isSignificant)).map (·.text) := by
  rw [significantTexts, ← map_text_linesOf, List.filter_map]
  congr 2
  funext line
  exact (Line.isSignificant_eq line).symm

/-- Only significant lines are decoded. -/
theorem decodeLines_significant (lines : List Line) :
    decodeLines (lines.filter (·.isSignificant)) = decodeLines lines := by
  have same : events (lines.filter (·.isSignificant)) = events lines := by
    rw [events, events, State.run_eq, State.run_eq, State.steps_significant]
  rw [decodeLines, decodeLines, same]

/-- Moved to one place, a line is nothing but its text. -/
theorem map_relocate_of_texts {first second : List Line}
    (same : first.map (·.text) = second.map (·.text)) (place : Coord) :
    first.map (Line.relocate fun _ => place) = second.map (Line.relocate fun _ => place) := by
  have moved (lines : List Line) : lines.map (Line.relocate fun _ => place) =
      (lines.map (·.text)).map fun text => { text, coord := place } := by
    rw [List.map_map]
    rfl
  rw [moved, moved, same]

/-- Lines of the same texts lead to the same declarations and issues, but for where they stand. -/
theorem events_of_texts {first second : List Line}
    (same : first.map (·.text) = second.map (·.text)) (place : Coord) :
    (events first).map (Event.relocate fun _ => place) =
      (events second).map (Event.relocate fun _ => place) := by
  have moved (lines : List Line) : events (lines.map (Line.relocate fun _ => place)) =
      (events lines).map (Event.relocate fun _ => place) :=
    State.run_relocate _ .idle lines
  rw [← moved, ← moved, map_relocate_of_texts same]

/-- Lines of the same texts are decoded to the same, but for where it stands. -/
theorem decodeLines_of_texts (first second : List Line)
    (same : first.map (·.text) = second.map (·.text)) (place : Coord) :
    (decodeLines first).relocate (fun _ => place) =
      (decodeLines second).relocate fun _ => place := by
  rw [← decodeLines_relocate, ← decodeLines_relocate, map_relocate_of_texts same]

/-- Files with the same significant lines are decoded to the same schema and the same diagnostics,
but for the coordinates in origins and labels, whatever was open before. -/
theorem decode_of_significantTexts (firstState secondState : State) (first second : List Input)
    (same : significantTexts first = significantTexts second) (place : Coord) :
    (firstState.decode first).schema.relocate (fun _ => place) =
        (secondState.decode second).schema.relocate (fun _ => place) ∧
      (firstState.decode first).diagnostics.map (Diagnostic.relocate fun _ => place) =
        (secondState.decode second).diagnostics.map (Diagnostic.relocate fun _ => place) := by
  have texts : ((linesOf first).filter (·.isSignificant)).map (·.text) =
      ((linesOf second).filter (·.isSignificant)).map (·.text) := by
    rw [← significantTexts_eq, ← significantTexts_eq, same]
  have decoded := decodeLines_of_texts _ _ texts place
  rw [decodeLines_significant, decodeLines_significant] at decoded
  rw [State.decode_eq, State.decode_eq]
  exact ⟨congrArg Decoded.schema decoded, congrArg Decoded.diagnostics decoded⟩

def plain : List Input :=
  [{ file := 0
     text := "set object-class p =\n\x7b\nname = p\nmust-contain cn,\nsn\n\x7d;\nnonsense" }]

/-- The same class in two files that another editor wrote. -/
def laidOut : List Input :=
  [{ file := 3
     text := "# people\r\n\r\n  set object-class p =\r\n\t# open\r\n \x7b\r\nname = p\r\n" },
   { file := 1
     text := "  must-contain cn,  \n\n   # surname\n   sn\n\x7d;\n\nnonsense\n" }]

theorem decode_laidOut :
    significantTexts plain = significantTexts laidOut ∧
      (State.idle.decode plain).schema.relocate (fun _ => default) =
        ((State.skipping default 2).decode laidOut).schema.relocate (fun _ => default) ∧
      (State.idle.decode plain).diagnostics.map (Diagnostic.relocate fun _ => default) =
        ((State.skipping default 2).decode laidOut).diagnostics.map
          (Diagnostic.relocate fun _ => default) := by
  have same : significantTexts plain = significantTexts laidOut := by decide +kernel
  exact ⟨same, decode_of_significantTexts .idle (.skipping default 2) plain laidOut same default⟩

end Decoder
end DirSchema
