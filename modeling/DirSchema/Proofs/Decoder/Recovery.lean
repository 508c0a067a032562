import DirSchema.Proofs.Decoder.Interleaving
set_option autoImplicit false

namespace DirSchema.Decoder

open DirSchema.Source (Line)

def State.skips : State → Bool
  | .skipping .. => true
  | _ => false

/-- A header ends what is open, whatever it is, unless that is skipped. -/
theorem State.readsOutside_of_header {state : State} {line : Line}
    (header : (Header.ofLine? line.text).isSome = true) (decodes : state.skips = false) :
    state.readsOutside line = true := by
  obtain ⟨found, isHeader⟩ := Option.isSome_iff_exists.mp header
  have significant : line.isSignificant = true := isSignificant_of_header isHeader
  have other (text : List Char) (none : Header.ofLine? text = none) : line.text ≠ text := by
    intro same
    rw [same, none] at isHeader
    cases isHeader
  cases state with
  | idle => rw [readsOutside, significant]; rfl
  | awaitingBrace kind origin =>
      have noBrace : isBrace line.text = false := by
        simp [isBrace, other ['\x7b'] (by decide)]
      rw [readsOutside, significant, noBrace]
      rfl
  | reading origin draft =>
      have noEnd : isBlockEnd line.text = false := by
        simp [isBlockEnd, other ['\x7d'] (by decide), other ['\x7d', ';'] (by decide)]
      rw [readsOutside, significant, noEnd, header]
      rfl
  | skipping origin depth => cases decodes

/-- A declaration that is opened and not closed: a header and, if it waits for a brace, the lines up
to that brace, and then lines none of which ends the block or is a header. -/
structure Unclosed where
  kind : BlockKind
  header : Line
  brace : List Line
  body : List Line
  opens : Opens kind (header.text :: (brace.filter (·.isSignificant)).map (·.text))
  inside : ∀ line ∈ body, isBlockEnd line.text = false ∧ Header.ofLine? line.text = none

namespace Unclosed

def lines (block : Unclosed) : List Line := block.header :: (block.brace ++ block.body)

/-- The warning that the declaration was never closed. -/
def warning (block : Unclosed) : Issue := .unterminated (some block.kind) block.header.coord

/-- Inside of it stand notes about its lines; what is open behind it is the declaration. -/
theorem steps_lines (block : Unclosed) :
    ∃ (draft : Draft) (notes : List Issue), draft.kind = block.kind ∧
      (∀ note ∈ notes, ∃ line ∈ block.body, note.noted? = some line.coord) ∧
      State.idle.steps block.lines = (.reading block.header.coord draft, notes.map .reported) := by
  have header := isSignificant_of_header (Option.eq_some_of_isSome block.opens.isSome_header)
  have opened : State.idle.steps (block.header :: block.brace) =
      (.reading block.header.coord (.empty block.kind), []) := by
    rw [← State.steps_significant, List.filter_cons_of_pos header]
    exact steps_opens block.header _ block.opens
  obtain ⟨draft, notes, kind, noted, body⟩ :=
    steps_body block.inside block.header.coord (.empty block.kind)
  refine ⟨draft, notes, ?_, noted, ?_⟩
  · rw [kind]
    cases block.kind <;> rfl
  · rw [lines, ← List.cons_append, State.steps_append, opened, body]
    rfl

/-- In front of a header, a declaration that is not closed only adds to a run: the notes about its
lines and one warning. -/
theorem run_lines (block : Unclosed) {state : State} {before : List Line} (next : Line)
    (after : List Line) (decodes : (state.steps before).1.skips = false)
    (header : (Header.ofLine? next.text).isSome = true) :
    ∃ notes : List Issue,
      (∀ note ∈ notes, ∃ line ∈ block.body, note.noted? = some line.coord) ∧
      state.run (before ++ (block.lines ++ next :: after)) =
        state.run before ++ (notes ++ [block.warning]).map .reported ++
          State.idle.run (next :: after) := by
  obtain ⟨draft, notes, kind, noted, steps⟩ := block.steps_lines
  refine ⟨notes, noted, ?_⟩
  have apart := State.readsOutside_of_header block.opens.isSome_header decodes
  have behind : (State.idle.steps block.lines).1.readsOutside next = true :=
    State.readsOutside_of_header header (by rw [steps]; rfl)
  have alone : State.idle.run block.lines = (notes ++ [block.warning]).map .reported := by
    rw [State.run_eq, steps, List.map_append, State.finish, kind]
    rfl
  calc state.run (before ++ (block.lines ++ next :: after))
      = state.run before ++ State.idle.run (block.lines ++ next :: after) :=
        State.run_of_readsOutside apart
    _ = state.run before ++ (State.idle.run block.lines ++ State.idle.run (next :: after)) := by
        rw [State.run_of_readsOutside behind]
    _ = _ := by rw [alone, List.append_assoc]

end Unclosed

/-- A declaration that is not closed, read where no block is skipped and followed by a header, costs
only itself. The lines around it are decoded as the same lines without it, wherever these stand; in
between stand the notes about its lines and one warning at its header. -/
theorem decode_unclosed (block : Unclosed) (before after : List Line) (next : Line)
    (decodes : (State.idle.steps before).1.skips = false)
    (header : (Header.ofLine? next.text).isSome = true) (without : List Line)
    (same : without.map (·.text) = (before ++ next :: after).map (·.text)) (place : Coord) :
    ∃ notes : List Diagnostic,
      (∀ note ∈ notes, note.severity = .note ∧
        ∃ line ∈ block.body, note.labels.map (·.coord) = [line.coord]) ∧
      diagnostics (events (before ++ (block.lines ++ next :: after))) =
        diagnostics (events before) ++ (notes ++ [block.warning.diagnostic]) ++
          diagnostics (events (next :: after)) ∧
      (diagnostics (events without)).map (Diagnostic.relocate fun _ => place) =
        (diagnostics (events before) ++ diagnostics (events (next :: after))).map
          (Diagnostic.relocate fun _ => place) ∧
      (declareAll {} (events without)).relocate (fun _ => place) =
        (declareAll {} (events (before ++ (block.lines ++ next :: after)))).relocate
          fun _ => place := by
  obtain ⟨notes, noted, long⟩ := block.run_lines next after decodes header
  have short : events (before ++ next :: after) = events before ++ events (next :: after) :=
    State.run_of_readsOutside (State.readsOutside_of_header header decodes)
  have alike := events_of_texts same place
  rw [short] at alike
  refine ⟨notes.map Issue.diagnostic, ?_, ?_, ?_, ?_⟩
  · intro note member
    obtain ⟨issue, among, rfl⟩ := List.mem_map.mp member
    obtain ⟨line, inBody, mark⟩ := noted issue among
    obtain ⟨severity, label, -⟩ := Issue.of_noted? mark
    exact ⟨severity, line, inBody, label⟩
  · rw [events, long, diagnostics_append, diagnostics_append, diagnostics_reported, List.map_append]
    rfl
  · rw [← diagnostics_append, ← diagnostics_relocate, ← diagnostics_relocate, alike]
  · have declared : declarations (events (before ++ (block.lines ++ next :: after))) =
        declarations (events before ++ events (next :: after)) := by
      rw [events, long, declarations_append, declarations_append, declarations_append,
        declarations_reported, List.append_nil]
      rfl
    have moved (events : List Event) : (declareAll {} events).relocate (fun _ => place) =
        Schema.declareEach {} ((declarations events).map (Declaration.relocate fun _ => place)) :=
      (Schema.declareEach_relocate _ {} (declarations events)).symm
    rw [moved, moved, declared, ← declarations_relocate, ← declarations_relocate, alike]

/-- A class that is opened in a file of its own, after another one that ends inside of a list. -/
def forgotten : Unclosed :=
  { kind := .objectClass
    header := ⟨"set object-class q =".toList, ⟨1, 0, 20⟩⟩
    brace := [⟨"# open".toList, ⟨1, 21, 27⟩⟩, ⟨['\x7b'], ⟨1, 28, 29⟩⟩]
    body := [⟨"nonsense".toList, ⟨1, 30, 38⟩⟩, ⟨"may-contain sn,".toList, ⟨1, 39, 54⟩⟩]
    opens := .onNextLine (by decide) (by decide)
    inside := by decide }

def headerBehind : Line := ⟨"set attribute cn = \x7b".toList, ⟨2, 2, 22⟩⟩

def restBehind : List Line :=
  [⟨"name = cn".toList, ⟨2, 23, 32⟩⟩, ⟨"\x7d;".toList, ⟨2, 33, 35⟩⟩, ⟨"set".toList, ⟨2, 36, 39⟩⟩]

def fileBefore : Input := ⟨0, "set object-class p = \x7b\nname = p\nmust-contain cn,\n"⟩

def fileBehind : Input := ⟨2, "  set attribute cn = \x7b\nname = cn\n\x7d;\nset"⟩

def withForgotten : List Input :=
  [fileBefore, ⟨1, "set object-class q =\n# open\n\x7b\nnonsense\nmay-contain sn,\n"⟩, fileBehind]

theorem forgotten_dropped :
    linesOf withForgotten =
        linesOf [fileBefore] ++ (forgotten.lines ++ headerBehind :: restBehind) ∧
      (State.idle.steps (linesOf [fileBefore])).1.skips = false ∧
      (Header.ofLine? headerBehind.text).isSome = true ∧
      (linesOf [fileBefore, fileBehind]).map (·.text) =
        (linesOf [fileBefore] ++ headerBehind :: restBehind).map (·.text) ∧
      (diagnostics (events (linesOf withForgotten))).map (·.message) =
        ["object-class declaration was never closed and was ignored",
          "unrecognized line was ignored",
          "object-class declaration was never closed and was ignored",
          "unrecognized line was ignored"] ∧
      (declareAll {} (events (linesOf [fileBefore, fileBehind]))).relocate (fun _ => default) =
        (declareAll {} (events (linesOf withForgotten))).relocate fun _ => default := by
  have split : linesOf withForgotten =
      linesOf [fileBefore] ++ (forgotten.lines ++ headerBehind :: restBehind) := by decide +kernel
  have decodes : (State.idle.steps (linesOf [fileBefore])).1.skips = false := by decide +kernel
  have header : (Header.ofLine? headerBehind.text).isSome = true := by decide
  have same : (linesOf [fileBefore, fileBehind]).map (·.text) =
      (linesOf [fileBefore] ++ headerBehind :: restBehind).map (·.text) := by decide +kernel
  obtain ⟨-, -, -, -, schema⟩ := decode_unclosed forgotten (linesOf [fileBefore]) restBehind
    headerBehind decodes header (linesOf [fileBefore, fileBehind]) same default
  rw [← split] at schema
  exact ⟨split, decodes, header, same, by decide +kernel, schema⟩

end DirSchema.Decoder
