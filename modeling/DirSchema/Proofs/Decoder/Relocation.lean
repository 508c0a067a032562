import DirSchema.Decoder.Basic
import DirSchema.Proofs.Decoder.Run
import DirSchema.Proofs.Schema.Relocation
set_option autoImplicit false

namespace DirSchema

variable (move : Coord → Coord)

def Source.Line.relocate (line : Source.Line) : Source.Line :=
  { line with coord := move line.coord }

theorem Source.Line.text_relocate (line : Source.Line) : (line.relocate move).text = line.text :=
  rfl

namespace Decoder

open DirSchema.Source (Line)

def Issue.relocate : Issue → Issue
  | .incomplete kind missing origin => .incomplete kind missing (move origin)
  | .redundantParent kept ignored place => .redundantParent kept ignored (move place)
  | .unknownSyntax text place => .unknownSyntax text (move place)
  | .unrecognized place => .unrecognized (move place)
  | .unterminated kind origin => .unterminated kind (move origin)

theorem Issue.diagnostic_relocate (issue : Issue) :
    (issue.relocate move).diagnostic = issue.diagnostic.relocate move := by
  cases issue <;> rfl

def Event.relocate : Event → Event
  | .declared declaration => .declared (declaration.relocate move)
  | .reported issue => .reported (issue.relocate move)

private theorem relocate_reported (issues : List Issue) :
    (issues.map Event.reported).map (Event.relocate move) =
      (issues.map (Issue.relocate move)).map Event.reported := by
  rw [List.map_map, List.map_map]
  rfl

theorem declarations_relocate (events : List Event) :
    declarations (events.map (Event.relocate move)) =
      (declarations events).map (Declaration.relocate move) := by
  induction events with
  | nil => rfl
  | cons event rest ih =>
      cases event with
      | declared declaration => exact congrArg (declaration.relocate move :: ·) ih
      | reported issue => exact ih

theorem diagnostics_relocate (events : List Event) :
    diagnostics (events.map (Event.relocate move)) =
      (diagnostics events).map (Diagnostic.relocate move) := by
  induction events with
  | nil => rfl
  | cons event rest ih =>
      cases event with
      | declared declaration => exact ih
      | reported issue =>
          have reported := Issue.diagnostic_relocate move issue
          simp only [List.map_cons, Event.relocate, diagnostics, List.filterMap_cons,
            reported] at ih ⊢
          rw [ih]

private theorem AttributeDraft.read_relocate (draft : AttributeDraft) (line : Line) :
    draft.read (line.relocate move) =
      ((draft.read line).1, (draft.read line).2.map (Issue.relocate move)) := by
  simp only [AttributeDraft.read, Line.text_relocate]
  split
  · rfl
  · rfl
  · split <;> rfl
  · split <;> rfl
  · split <;> rfl
  · rfl

private theorem ClassDraft.readParents_relocate (draft : ClassDraft) (place : Coord)
    (parents : List String) :
    draft.readParents (move place) parents =
      ((draft.readParents place parents).1,
        (draft.readParents place parents).2.map (Issue.relocate move)) := by
  induction parents generalizing draft with
  | nil => rfl
  | cons parent rest ih =>
      rw [ClassDraft.readParents, ClassDraft.readParents]
      split
      · rw [ih]
        rfl
      · rw [ih]

private theorem ClassDraft.read_relocate (draft : ClassDraft) (line : Line) :
    draft.read (line.relocate move) =
      ((draft.read line).1, (draft.read line).2.map (Issue.relocate move)) := by
  simp only [ClassDraft.read, Line.text_relocate]
  split
  · rfl
  · split
    · rfl
    · rfl
    · rfl
    · exact ClassDraft.readParents_relocate move draft line.coord _
    · rfl
    · rfl
    · rfl

private theorem BindingDraft.read_relocate (draft : BindingDraft) (line : Line) :
    draft.read (line.relocate move) =
      ((draft.read line).1, (draft.read line).2.map (Issue.relocate move)) := by
  simp only [BindingDraft.read, Line.text_relocate]
  split
  · rfl
  · rfl
  · rfl
  · rfl
  · split <;> rfl

private theorem Draft.read_relocate (draft : Draft) (line : Line) :
    draft.read (line.relocate move) =
      ((draft.read line).1, (draft.read line).2.map (Issue.relocate move)) := by
  cases draft with
  | attr draft => simp only [Draft.read, AttributeDraft.read_relocate]
  | objectClass draft => simp only [Draft.read, ClassDraft.read_relocate]
  | binding kind draft => simp only [Draft.read, BindingDraft.read_relocate]

private theorem Draft.close_relocate (draft : Draft) (origin : Coord) :
    draft.close (move origin) =
      match draft.close origin with
      | .ok declaration => .ok (declaration.relocate move)
      | .error issue => .error (issue.relocate move) := by
  cases draft with
  | attr draft =>
      cases named : draft.name <;> simp [Draft.close, AttributeDraft.close, named, Except.map,
        Declaration.relocate, Attribute.relocate, Issue.relocate]
  | objectClass draft =>
      cases named : draft.name <;> simp [Draft.close, ClassDraft.close, named, Except.map,
        Declaration.relocate, ObjectClass.relocate, Issue.relocate]
  | binding kind draft =>
      simp only [Draft.close, BindingDraft.close]
      split <;> rfl

/-- The state as if the open block had been opened elsewhere. -/
def State.relocate : State → State
  | .idle => .idle
  | .awaitingBrace kind origin => .awaitingBrace kind (move origin)
  | .reading origin draft => .reading (move origin) draft
  | .skipping origin depth => .skipping (move origin) depth

namespace State

theorem opened_relocate (kind : Option BlockKind) (origin : Coord) :
    opened kind (move origin) = (opened kind origin).relocate move := by
  cases kind <;> rfl

theorem stepIdle_relocate (line : Line) :
    stepIdle (line.relocate move) =
      ((stepIdle line).1.relocate move, (stepIdle line).2.map (Event.relocate move)) := by
  simp only [stepIdle, Line.text_relocate]
  split
  · rw [Line.relocate, opened_relocate]
    rfl
  · rfl
  · rfl
  · rfl

private theorem stepReading_relocate (origin : Coord) (draft : Draft) (line : Line) :
    stepReading (move origin) draft (line.relocate move) =
      ((stepReading origin draft line).1.relocate move,
        (stepReading origin draft line).2.map (Event.relocate move)) := by
  rw [stepReading, stepReading, Line.text_relocate]
  by_cases ends : isBlockEnd line.text = true
  · rw [if_pos ends, if_pos ends, Draft.close_relocate]
    cases draft.close origin <;> rfl
  · rw [if_neg ends, if_neg ends]
    by_cases header : (Header.ofLine? line.text).isSome = true
    · rw [if_pos header, if_pos header, stepIdle_relocate]
      rfl
    · rw [if_neg header, if_neg header, Draft.read_relocate, relocate_reported]
      rfl

private theorem stepSkipping_relocate (origin : Coord) (depth : Nat) (line : Line) :
    stepSkipping (move origin) depth (line.relocate move) =
      (stepSkipping origin depth line).relocate move := by
  simp only [stepSkipping]
  rw [Line.text_relocate]
  by_cases ends : isBlockEnd line.text = true
  · rw [if_pos ends, if_pos ends]
    cases depth <;> rfl
  · rw [if_neg ends, if_neg ends, apply_ite (State.relocate move)]
    rfl

private theorem step_relocate (state : State) (line : Line) :
    (state.relocate move).step (line.relocate move) =
      ((state.step line).1.relocate move, (state.step line).2.map (Event.relocate move)) := by
  by_cases significant : line.isSignificant = true
  · have moved : (line.relocate move).isSignificant = true := significant
    cases state with
    | idle =>
        rw [State.relocate, step_idle _ moved, step_idle _ significant, stepIdle_relocate]
    | awaitingBrace kind origin =>
        rw [State.relocate, step_awaitingBrace _ _ _ moved, step_awaitingBrace _ _ _ significant,
          Line.text_relocate]
        split
        · rw [opened_relocate]
          rfl
        · rw [stepIdle_relocate]
          rfl
    | reading origin draft =>
        rw [State.relocate, step_reading _ _ _ moved, step_reading _ _ _ significant,
          stepReading_relocate]
    | skipping origin depth =>
        rw [State.relocate, step_skipping _ _ _ moved, step_skipping _ _ _ significant,
          stepSkipping_relocate]
        rfl
  · have skipped : line.isSignificant = false := Bool.eq_false_iff.mpr significant
    have movedSkipped : (line.relocate move).isSignificant = false := skipped
    rw [step_insignificant _ _ movedSkipped, step_insignificant _ _ skipped]
    rfl

private theorem steps_relocate (state : State) (lines : List Line) :
    (state.relocate move).steps (lines.map (Line.relocate move)) =
      ((state.steps lines).1.relocate move,
        (state.steps lines).2.map (Event.relocate move)) := by
  induction lines generalizing state with
  | nil => rfl
  | cons line rest ih =>
      simp only [List.map_cons, steps_cons, step_relocate, ih, List.map_append]

private theorem finish_relocate (state : State) :
    (state.relocate move).finish = state.finish.map (Event.relocate move) := by
  cases state <;> rfl

theorem run_relocate (state : State) (lines : List Line) :
    (state.relocate move).run (lines.map (Line.relocate move)) =
      (state.run lines).map (Event.relocate move) := by
  rw [run_eq, run_eq, steps_relocate, finish_relocate, List.map_append]

end State

/-- What is decoded from a stream of lines. -/
def decodeLines (lines : List Line) : Decoded :=
  { schema := (declareAll {} (events lines)).resolve.1
    diagnostics := diagnostics (events lines) ++ (declareAll {} (events lines)).resolve.2 }

/-- What was open before does not matter. -/
theorem State.decode_eq (earlier : State) (inputs : List Input) :
    earlier.decode inputs = decodeLines (linesOf inputs) := rfl

/-- What was decoded as if all of it stood elsewhere. -/
def Decoded.relocate (decoded : Decoded) : Decoded :=
  { schema := decoded.schema.relocate move
    diagnostics := decoded.diagnostics.map (Diagnostic.relocate move) }

/-- Lines that stand elsewhere are decoded to the same, elsewhere. -/
theorem decodeLines_relocate (lines : List Line) :
    decodeLines (lines.map (Line.relocate move)) = (decodeLines lines).relocate move := by
  have moved : events (lines.map (Line.relocate move)) =
      (events lines).map (Event.relocate move) := State.run_relocate move .idle lines
  have declared : declareAll {} ((events lines).map (Event.relocate move)) =
      (declareAll {} (events lines)).relocate move := by
    rw [declareAll_eq, declareAll_eq, declarations_relocate]
    exact Schema.declareEach_relocate move {} (declarations (events lines))
  rw [decodeLines, moved, declared, diagnostics_relocate, Schema.resolve_relocate, decodeLines,
    Decoded.relocate, List.map_append]

end Decoder
end DirSchema
