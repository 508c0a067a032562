import DirSchema.Decoder.Basic
import DirSchema.Proofs.Schema.Registration
set_option autoImplicit false

namespace DirSchema.Decoder

open DirSchema.Source (Line)

namespace State

@[simp] theorem steps_nil (state : State) : state.steps [] = (state, []) := rfl

theorem steps_cons (state : State) (line : Line) (rest : List Line) :
    state.steps (line :: rest) =
      (((state.step line).1.steps rest).1,
        (state.step line).2 ++ ((state.step line).1.steps rest).2) := rfl

theorem steps_append (state : State) (first second : List Line) :
    state.steps (first ++ second) =
      (((state.steps first).1.steps second).1,
        (state.steps first).2 ++ ((state.steps first).1.steps second).2) := by
  induction first generalizing state with
  | nil => rfl
  | cons line rest ih => simp only [List.cons_append, steps_cons, ih, List.append_assoc]

theorem step_insignificant (state : State) (line : Line) (blank : line.isSignificant = false) :
    state.step line = (state, []) := by
  simp [step, blank]

theorem steps_significant (state : State) (lines : List Line) :
    state.steps (lines.filter (·.isSignificant)) = state.steps lines := by
  induction lines generalizing state with
  | nil => rfl
  | cons line rest ih =>
      by_cases significant : line.isSignificant = true
      · rw [List.filter_cons_of_pos significant, steps_cons, steps_cons, ih]
      · rw [List.filter_cons_of_neg significant, ih, steps_cons,
          step_insignificant state line (Bool.eq_false_iff.mpr significant)]
        rfl

theorem step_idle (line : Line) (significant : line.isSignificant = true) :
    State.idle.step line = stepIdle line := by
  simp [step, significant]

theorem step_awaitingBrace (kind : Option BlockKind) (origin : Coord) (line : Line)
    (significant : line.isSignificant = true) :
    (State.awaitingBrace kind origin).step line =
      if isBrace line.text then (opened kind origin, [])
      else ((stepIdle line).1, .reported (.unterminated kind origin) :: (stepIdle line).2) := by
  simp [step, significant]

theorem step_reading (origin : Coord) (draft : Draft) (line : Line)
    (significant : line.isSignificant = true) :
    (State.reading origin draft).step line = stepReading origin draft line := by
  simp [step, significant]

theorem step_skipping (origin : Coord) (depth : Nat) (line : Line)
    (significant : line.isSignificant = true) :
    (State.skipping origin depth).step line = (stepSkipping origin depth line, []) := by
  simp [step, significant]

theorem run_eq (state : State) (lines : List Line) :
    state.run lines = (state.steps lines).2 ++ (state.steps lines).1.finish := rfl

end State

@[simp] theorem declarations_append (first second : List Event) :
    declarations (first ++ second) = declarations first ++ declarations second :=
  List.filterMap_append

theorem declareAll_eq (schema : Schema) (events : List Event) :
    declareAll schema events = schema.declareEach (declarations events) := rfl

/-- The end of a stream declares nothing. -/
@[simp] theorem declarations_finish (state : State) : declarations state.finish = [] := by
  cases state <;> rfl

@[simp] theorem declarations_declared (declared : List Declaration) :
    declarations (declared.map .declared) = declared := by
  induction declared with
  | nil => rfl
  | cons first rest ih => exact congrArg (first :: ·) ih

@[simp] theorem diagnostics_declared (declared : List Declaration) :
    diagnostics (declared.map .declared) = [] := by
  induction declared with
  | nil => rfl
  | cons first rest ih => exact ih

@[simp] theorem declarations_reported (issues : List Issue) :
    declarations (issues.map .reported) = [] := by
  induction issues with
  | nil => rfl
  | cons first rest ih => exact ih

theorem diagnostics_append (first second : List Event) :
    diagnostics (first ++ second) = diagnostics first ++ diagnostics second :=
  List.filterMap_append

theorem diagnostics_reported (issues : List Issue) :
    diagnostics (issues.map .reported) = issues.map Issue.diagnostic := by
  rw [diagnostics, List.filterMap_map]
  exact congrFun List.filterMap_eq_map issues

end DirSchema.Decoder
