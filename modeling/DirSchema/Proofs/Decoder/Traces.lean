import DirSchema.Proofs.Decoder.Entries
import DirSchema.Proofs.Decoder.Provenance
set_option autoImplicit false

namespace DirSchema.Decoder

open DirSchema.Source (Line)

theorem Header.opening_eq_statement_iff {line : List Char} {header : Header}
    (found : Header.ofLine? line = some header) :
    header.opening = .statement ↔ Text.endsWith ';' line = true := by
  simp only [ofLine?, Option.bind_eq_bind, Option.pure_def, Option.bind_eq_some_iff] at found
  obtain ⟨rest, follows, word, named, made⟩ := found
  cases made
  have nonempty : rest ≠ [] := by
    rintro rfl
    cases named
  have last : line.getLast? = rest.getLast? := by
    rw [afterSet?] at follows
    split at follows
    · rename_i c behind start
      split at follows
      · cases follows
        obtain ⟨blank, whole⟩ := List.dropWhile_suffix (l := behind) Text.isBlank
        have tail : behind.getLast? = (Text.trimStart behind).getLast? := by
          conv_lhs => rw [← whole]
          exact List.getLast?_append_of_ne_nil _ nonempty
        have solid : behind ≠ [] := by
          rintro rfl
          exact nonempty rfl
        rw [afterStart?_eq_some start, List.getLast?_append_of_ne_nil _ (List.cons_ne_nil c behind),
          List.getLast?_cons_of_ne_nil solid, tail]
      · cases follows
    · cases follows
  have ends : Text.endsWith ';' line = Text.endsWith ';' rest := by
    rw [Text.endsWith, Text.endsWith, last]
  rw [ends, openingOf, Text.beforeLast?]
  by_cases brace : rest.getLast? = some '\x7b'
  · simp [brace, Text.endsWith]
  · by_cases semicolon : Text.endsWith ';' rest = true
    · simp [brace, semicolon]
    · simp [brace, semicolon]

def Event.coords : Event → List Coord
  | .declared declaration => declaration.origin?.toList
  | .reported issue => issue.diagnostic.coords

private theorem Event.coords_relocate (move : Coord → Coord) (event : Event) :
    (event.relocate move).coords = event.coords.map move := by
  cases event with
  | declared declaration =>
      cases declaration with
      | attr declared => exact Option.toList_map
      | objectClass declared => exact Option.toList_map
      | binding declared => exact Option.toList_map
  | reported issue =>
      rw [relocate, coords, Issue.diagnostic_relocate, Diagnostic.coords_relocate]
      rfl

/-- A run that starts outside of every block only tells of its lines. -/
theorem mem_coords_run {lines : List Line} {event : Event}
    (happened : event ∈ State.idle.run lines) :
    ∀ place ∈ event.coords, place ∈ lines.map (·.coord) := by
  obtain ⟨move, fixes⟩ := exists_move (lines.map (·.coord))
  have fixed : lines.map (Line.relocate move) = lines :=
    map_relocate_of_fixed fun line member => (fixes line.coord).mpr (List.mem_map_of_mem member)
  have same : (State.idle.run lines).map (Event.relocate move) = State.idle.run lines := by
    rw [← State.run_relocate, fixed]
    rfl
  have unmoved : event.coords.map move = event.coords := by
    rw [← Event.coords_relocate, eq_of_mem_of_map_eq same happened]
  exact fun place member => (fixes place).mp (eq_of_mem_of_map_eq unmoved member)

namespace State

/-- A statement parts a run into what was read before it and what is read behind it. -/
theorem run_statement {state : State} {before after : List Line} {line : Line}
    (outside : (state.steps before).1.readsOutside line = true)
    (statement : stepIdle line = (.idle, [])) :
    state.run (before ++ line :: after) = state.run before ++ State.idle.run after := by
  have significant := (Bool.and_eq_true_iff.mp outside).1
  have nothing : State.idle.run (line :: after) = State.idle.run after := by
    rw [run_eq, run_eq, steps_cons, step_idle line significant, statement]
    rfl
  rw [run_of_readsOutside outside, nothing]

private theorem along_append {α : Type} (each : State → Line → List α) (state : State)
    (first second : List Line) :
    state.along each (first ++ second) =
      state.along each first ++ (state.steps first).1.along each second := by
  induction first generalizing state with
  | nil => rfl
  | cons line rest ih =>
      rw [List.cons_append, along_cons, along_cons, ih, List.append_assoc, steps_cons]

/-- A block that a line opens is among the blocks of the run. -/
theorem mem_openings {state : State} {before after : List Line} {line : Line} {block : OpenBlock}
    (opens : (state.steps before).1.opening? line = some block) :
    block ∈ state.openings (before ++ line :: after) := by
  rw [openings, along_append, along_cons, opens]
  simp

end State

/-- Whether a run tells of a place: something was declared there, or a diagnostic marks it. -/
def Traced (lines : List Line) (place : Coord) : Prop :=
  (∃ declaration ∈ declarations (events lines), declaration.origin? = some place) ∨
    ∃ diagnostic ∈ diagnostics (events lines), place ∈ diagnostic.coords

instance (lines : List Line) (place : Coord) : Decidable (Traced lines place) :=
  inferInstanceAs (Decidable (_ ∨ _))

theorem exists_event_of_traced {lines : List Line} {place : Coord} (traced : Traced lines place) :
    ∃ event ∈ State.idle.run lines, place ∈ event.coords := by
  rcases traced with ⟨declaration, made, here⟩ | ⟨diagnostic, reported, marked⟩
  · obtain ⟨event, happened, declares⟩ := List.mem_filterMap.mp made
    refine ⟨event, happened, ?_⟩
    cases event with
    | declared other =>
        cases declares
        simp [Event.coords, here]
    | reported issue => cases declares
  · obtain ⟨event, happened, reports⟩ := List.mem_filterMap.mp reported
    refine ⟨event, happened, ?_⟩
    cases event with
    | declared declaration => cases reports
    | reported issue =>
        cases reports
        exact marked

private theorem exists_settlement {settlements : List Settlement} {blocks : List OpenBlock}
    (settle : List.Forall₂ Settlement.Settles settlements blocks) {block : OpenBlock}
    (member : block ∈ blocks) : ∃ settlement ∈ settlements, settlement.Settles block := by
  induction settle with
  | nil => cases member
  | @cons settlement first rest blocks settles _ ih =>
      rcases List.mem_cons.mp member with rfl | later
      · exact ⟨settlement, List.mem_cons_self, settles⟩
      · obtain ⟨found, among, settlesFound⟩ := ih later
        exact ⟨found, List.mem_cons_of_mem _ among, settlesFound⟩

/-- A block that is decoded leaves a trace at its header. -/
theorem traced_of_mem_openings {lines : List Line} {block : OpenBlock} {kind : BlockKind}
    (opened : block ∈ State.idle.openings lines) (decoded : block.kind = some kind) :
    Traced lines block.origin := by
  obtain ⟨settlement, among, settles⟩ := exists_settlement (State.run_settles lines) opened
  have happened := (State.allSettlements_perm .idle lines).mem_iff.mp among
  rcases List.mem_append.mp happened with told | silent
  · obtain ⟨event, inRun, becomes⟩ := List.mem_filterMap.mp told
    cases event with
    | declared declaration =>
        cases becomes
        exact Or.inl ⟨declaration, List.mem_filterMap.mpr ⟨_, inRun, rfl⟩, settles.1⟩
    | reported issue =>
        rw [Event.settlement?] at becomes
        split at becomes
        · cases becomes
          have marked : issue.diagnostic.coords = [block.origin] := settles
          refine Or.inr ⟨issue.diagnostic, List.mem_filterMap.mpr ⟨_, inRun, rfl⟩, ?_⟩
          rw [marked]
          exact List.mem_singleton_self _
        · cases becomes
  · obtain ⟨origin, -, rfl⟩ := List.mem_map.mp silent
    have skipped : block = { kind := none, origin } := settles
    rw [skipped] at decoded
    cases decoded

/-- A header that opens a block of a kind that is decoded opens one at its place. -/
theorem opening?_header {state : State} {line : Line} {kind : BlockKind} {opening : Opening}
    (outside : state.readsOutside line = true)
    (header : Header.ofLine? line.text = some { kind := some kind, opening })
    (opens : opening ≠ .statement) :
    state.opening? line = some { kind := some kind, origin := line.coord } := by
  rw [State.opening?, if_pos outside, State.stepIdle, header]
  cases opening with
  | opened => exact State.openBlock?_opened (some kind) line.coord
  | awaitingBrace => rfl
  | statement => exact absurd rfl opens

/-- The header of a kind that is decoded leaves a trace exactly if no semicolon ends its line, be
there a brace on the line or not. -/
theorem header_traced_iff (inputs : List Input) (distinct : (inputs.map (·.file)).Nodup)
    (before after : List Line) (line : Line) (split : linesOf inputs = before ++ line :: after)
    (outside : (State.idle.steps before).1.readsOutside line = true)
    (kind : BlockKind) (opening : Opening)
    (header : Header.ofLine? line.text = some { kind := some kind, opening }) :
    Traced (linesOf inputs) line.coord ↔ Text.endsWith ';' line.text = false := by
  rw [← Bool.not_eq_true, ← Header.opening_eq_statement_iff header]
  constructor
  · rintro traced rfl
    have nothing : State.stepIdle line = (.idle, []) := by
      rw [State.stepIdle, header]
    obtain ⟨event, happened, tells⟩ := exists_event_of_traced traced
    rw [split, State.run_statement outside nothing, List.mem_append] at happened
    have places := nodup_coord_linesOf inputs distinct
    rw [split, List.map_append, List.map_cons, List.nodup_append] at places
    obtain ⟨-, behind, apart⟩ := places
    rcases happened with early | late
    · exact apart _ (mem_coords_run early _ tells) _ List.mem_cons_self rfl
    · exact (List.nodup_cons.mp behind).1 (mem_coords_run late _ tells)
  · intro opens
    rw [split]
    exact traced_of_mem_openings (State.mem_openings (opening?_header outside header opens)) rfl

/-- A class whose block is on the line of its header, without a semicolon, and an attribute with
one. -/
def inlined : List Input :=
  [{ file := 0
     text := "set object-class p = \x7b name = p \x7d\nset attribute cn = \x7b name = cn \x7d;" }]

theorem inlined_class_traced :
    ∃ first second, linesOf inlined = [] ++ first :: [second] ∧
      State.idle.readsOutside first = true ∧
      Header.ofLine? first.text =
        some { kind := some .objectClass, opening := .awaitingBrace } ∧
      Traced (linesOf inlined) first.coord := by
  refine ⟨_, _, rfl, by decide +kernel, by decide +kernel, ?_⟩
  exact (header_traced_iff inlined (by decide) [] _ _ rfl (by decide +kernel) .objectClass
    .awaitingBrace (by decide +kernel)).mpr (by decide +kernel)

/-- A block that is closed on the line of its header disappears. -/
theorem inlined_attribute_untraced :
    ∃ first second, linesOf inlined = [first] ++ second :: [] ∧
      (State.idle.steps [first]).1.readsOutside second = true ∧
      Header.ofLine? second.text = some { kind := some .attr, opening := .statement } ∧
      '\x7b' ∈ second.text ∧ ¬ Traced (linesOf inlined) second.coord := by
  refine ⟨_, _, rfl, by decide +kernel, by decide +kernel, by decide +kernel, by decide +kernel⟩

end DirSchema.Decoder
