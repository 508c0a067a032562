import DirSchema.Proofs.Decoder.Interleaving
set_option autoImplicit false

namespace DirSchema.Decoder

open DirSchema.Source (Line)

/-- Whether a line opens a level of a skipped block. A comment does not, whatever it ends in. -/
def deepens (line : Line) : Bool := line.isSignificant && opensLevel line.text

/-- Lines that close every level which they open. A line that closes a level opens none. -/
inductive Nested (opens : Line → Bool) : List Line → Prop
  | nil : Nested opens []
  | flat {line : Line} {rest : List Line} (opensNone : opens line = false)
      (closesNone : isBlockEnd line.text = false) (after : Nested opens rest) :
      Nested opens (line :: rest)
  | level {line ending : Line} {inside rest : List Line} (opensOne : opens line = true)
      (closesNone : isBlockEnd line.text = false) (within : Nested opens inside)
      (closes : isBlockEnd ending.text = true) (after : Nested opens rest) :
      Nested opens (line :: (inside ++ ending :: rest))

/-- A header of a kind that is not decoded, and what follows it up to the brace of its block, which
may stand on a line of its own behind blank lines and comments. -/
inductive OpensSkipped : Line → List Line → Prop
  | atOnce {header : Line} (opened : Header.ofLine? header.text = some ⟨none, .opened⟩) :
      OpensSkipped header []
  | onNextLine {header brace : Line} {blank : List Line}
      (awaits : Header.ofLine? header.text = some ⟨none, .awaitingBrace⟩)
      (insignificant : ∀ line ∈ blank, line.isSignificant = false)
      (isBrace : isBrace brace.text = true) : OpensSkipped header (blank ++ [brace])

/-- A complete block that is not decoded: what opens it, lines that close every level which they
open, and the line that closes the block. -/
structure SkippedBlock where
  header : Line
  brace : List Line
  body : List Line
  ending : Line
  opens : OpensSkipped header brace
  nested : Nested deepens body
  closes : isBlockEnd ending.text = true

namespace SkippedBlock

def lines (block : SkippedBlock) : List Line :=
  block.header :: (block.brace ++ (block.body ++ [block.ending]))

def openBlock (block : SkippedBlock) : OpenBlock :=
  { kind := none, origin := block.header.coord }

end SkippedBlock

namespace State

section
variable {line : Line} (origin : Coord) (depth : Nat)

private theorem step_deeper (deeper : deepens line = true)
    (closesNone : isBlockEnd line.text = false) :
    (State.skipping origin depth).step line = (.skipping origin (depth + 1), []) := by
  obtain ⟨significant, opens⟩ := Bool.and_eq_true_iff.mp deeper
  rw [step_skipping _ _ _ significant]
  simp [stepSkipping, closesNone, opens]

private theorem step_level (flat : deepens line = false)
    (closesNone : isBlockEnd line.text = false) :
    (State.skipping origin depth).step line = (.skipping origin depth, []) := by
  by_cases significant : line.isSignificant = true
  · have opensNone : opensLevel line.text = false := by
      rwa [deepens, significant, Bool.true_and] at flat
    rw [step_skipping _ _ _ significant]
    simp [stepSkipping, closesNone, opensNone]
  · exact step_insignificant _ _ (Bool.eq_false_iff.mpr significant)

private theorem step_shallower (closes : isBlockEnd line.text = true) :
    (State.skipping origin (depth + 1)).step line = (.skipping origin depth, []) := by
  rw [step_skipping _ _ _ (isSignificant_of_isBlockEnd closes), stepSkipping, if_pos closes]

private theorem step_outermost (closes : isBlockEnd line.text = true) :
    (State.skipping origin 0).step line = (.idle, []) := by
  rw [step_skipping _ _ _ (isSignificant_of_isBlockEnd closes), stepSkipping, if_pos closes]

end

/-- After none, some and all of the lines the block is open, and the lines have led to nothing. -/
def StaysOpen (block : OpenBlock) (state : State) (lines : List Line) : Prop :=
  ∀ front, front <+: lines →
    (state.steps front).1.openBlock? = some block ∧ (state.steps front).2 = []

section
variable {block : OpenBlock} {state : State}

theorem staysOpen_nil (isOpen : state.openBlock? = some block) : StaysOpen block state [] := by
  intro front isPrefix
  rw [List.prefix_nil.mp isPrefix]
  exact ⟨isOpen, rfl⟩

theorem StaysOpen.cons {line : Line} {rest : List Line} (isOpen : state.openBlock? = some block)
    (silent : (state.step line).2 = []) (after : StaysOpen block (state.step line).1 rest) :
    StaysOpen block state (line :: rest) := by
  intro front isPrefix
  rcases List.prefix_cons_iff.mp isPrefix with rfl | ⟨tail, rfl, isTail⟩
  · exact ⟨isOpen, rfl⟩
  · obtain ⟨stays, nothing⟩ := after tail isTail
    rw [steps_cons, silent, nothing]
    exact ⟨stays, rfl⟩

theorem StaysOpen.append {first second : List Line} (before : StaysOpen block state first)
    (after : StaysOpen block (state.steps first).1 second) :
    StaysOpen block state (first ++ second) := by
  intro front isPrefix
  rcases List.prefix_or_prefix_of_prefix isPrefix (List.prefix_append first second) with
    within | ⟨tail, rfl⟩
  · exact before front within
  · obtain ⟨stays, nothing⟩ := after tail ((List.prefix_append_right_inj first).mp isPrefix)
    rw [steps_append, (before first List.prefix_rfl).2, nothing]
    exact ⟨stays, rfl⟩

/-- Lines that do not count lead nowhere. -/
theorem steps_blank {lines : List Line} (blank : ∀ line ∈ lines, line.isSignificant = false) :
    state.steps lines = (state, []) := by
  have none : lines.filter (·.isSignificant) = [] :=
    List.filter_eq_nil_iff.mpr fun line member => ne_true_of_eq_false (blank line member)
  rw [← steps_significant, none, steps_nil]

private theorem staysOpen_blank {lines : List Line} (isOpen : state.openBlock? = some block)
    (blank : ∀ line ∈ lines, line.isSignificant = false) : StaysOpen block state lines := by
  intro front isPrefix
  rw [steps_blank fun line member => blank line (isPrefix.mem member)]
  exact ⟨isOpen, rfl⟩

end

/-- A block that is skipped stays open along lines which close all levels that they open, and is as
deep behind them as before. -/
theorem nested_staysOpen {lines : List Line} (nested : Nested deepens lines) (origin : Coord)
    (depth : Nat) :
    (State.skipping origin depth).steps lines = (.skipping origin depth, []) ∧
      StaysOpen { kind := none, origin } (.skipping origin depth) lines := by
  induction nested generalizing depth with
  | nil => exact ⟨rfl, staysOpen_nil rfl⟩
  | @flat line rest opensNone closesNone _ ih =>
      have step := step_level origin depth opensNone closesNone
      obtain ⟨steps, stays⟩ := ih depth
      refine ⟨by rw [steps_cons, step, steps]; rfl, .cons rfl (by rw [step]) ?_⟩
      rw [step]
      exact stays
  | @level line ending inside rest opensOne closesNone _ closes _ within after =>
      have step := step_deeper origin depth opensOne closesNone
      have back := step_shallower origin depth closes
      obtain ⟨inner, staysInside⟩ := within (depth + 1)
      obtain ⟨outer, staysOutside⟩ := after depth
      constructor
      · rw [steps_cons, step, steps_append, inner, steps_cons, back, outer]
        rfl
      · refine .cons rfl (by rw [step]) ?_
        rw [step]
        refine staysInside.append ?_
        rw [inner]
        refine .cons rfl (by rw [back]) ?_
        rw [back]
        exact staysOutside

end State

/-- A header opens the block, which stays open up to its brace. -/
theorem OpensSkipped.opens {header : Line} {brace : List Line} (opens : OpensSkipped header brace) :
    ∃ state, State.idle.step header = (state, []) ∧
      state.steps brace = (.skipping header.coord 0, []) ∧
      State.StaysOpen { kind := none, origin := header.coord } state brace := by
  cases opens with
  | atOnce opened =>
      refine ⟨.skipping header.coord 0, ?_, rfl, State.staysOpen_nil rfl⟩
      rw [State.step_idle _ (isSignificant_of_header opened), State.stepIdle, opened]
      rfl
  | @onNextLine brace blank awaits insignificant isBrace =>
      have waits : (State.awaitingBrace none header.coord).steps blank =
          (.awaitingBrace none header.coord, []) := State.steps_blank insignificant
      have found : (State.awaitingBrace none header.coord).step brace =
          (.skipping header.coord 0, []) := by
        rw [State.step_awaitingBrace _ _ _ (isSignificant_of_isBrace isBrace), if_pos isBrace]
        rfl
      refine ⟨.awaitingBrace none header.coord, ?_, ?_,
        (State.staysOpen_blank rfl insignificant).append ?_⟩
      · rw [State.step_idle _ (isSignificant_of_header awaits), State.stepIdle, awaits]
      · rw [State.steps_append, waits, State.steps_cons, found]
        rfl
      · rw [waits]
        refine .cons rfl (by rw [found]) ?_
        rw [found]
        exact State.staysOpen_nil rfl

namespace SkippedBlock

variable (block : SkippedBlock)

/-- The lines between the header and the line that closes the block. -/
def inner : List Line := block.brace ++ block.body

theorem lines_eq : block.lines = block.header :: block.inner ++ [block.ending] := by
  rw [lines, inner, List.cons_append, List.append_assoc]

/-- The block stays open up to the line that closes it. -/
theorem staysOpen :
    ∃ state, State.idle.step block.header = (state, []) ∧
      state.steps block.inner = (.skipping block.header.coord 0, []) ∧
      State.StaysOpen block.openBlock state block.inner := by
  obtain ⟨state, step, brace, staysOpen⟩ := block.opens.opens
  obtain ⟨body, staysInside⟩ := State.nested_staysOpen block.nested block.header.coord 0
  refine ⟨state, step, ?_, staysOpen.append ?_⟩
  · rw [inner, State.steps_append, brace, body]
    rfl
  · rw [brace]
    exact staysInside

/-- Read where no block is open, the block leads to nothing. -/
theorem steps_lines : State.idle.steps block.lines = (.idle, []) := by
  obtain ⟨state, step, inner, -⟩ := block.staysOpen
  rw [lines_eq, List.cons_append, State.steps_cons, step, State.steps_append, inner,
    State.steps_cons, State.step_outermost _ block.closes]
  rfl

/-- It is open after each of its lines but the last. -/
theorem openBlock?_steps {front : List Line} (isPrefix : front <+: block.lines)
    (started : front ≠ []) (unfinished : front ≠ block.lines) :
    (State.idle.steps front).1.openBlock? = some block.openBlock ∧
      (State.idle.steps front).2 = [] := by
  obtain ⟨state, step, -, staysOpen⟩ := block.staysOpen
  rw [lines_eq] at isPrefix unfinished
  rcases List.prefix_concat_iff.mp isPrefix with rfl | shorter
  · exact absurd rfl unfinished
  rcases List.prefix_cons_iff.mp shorter with rfl | ⟨tail, rfl, isTail⟩
  · exact absurd rfl started
  obtain ⟨isOpen, nothing⟩ := staysOpen tail isTail
  rw [State.steps_cons, step, nothing]
  exact ⟨isOpen, rfl⟩

/-- No block is open in front of it and behind it, and nowhere in between. -/
theorem steps_front {front : List Line} (isPrefix : front <+: block.lines) :
    ((State.idle.steps front).1 = .idle ↔ front = [] ∨ front = block.lines) ∧
      (State.idle.steps front).2 = [] := by
  by_cases started : front = []
  · rw [started]
    exact ⟨iff_of_true rfl (.inl rfl), rfl⟩
  by_cases finished : front = block.lines
  · rw [finished, block.steps_lines]
    exact ⟨iff_of_true rfl (.inr rfl), rfl⟩
  obtain ⟨isOpen, nothing⟩ := block.openBlock?_steps isPrefix started finished
  refine ⟨iff_of_false ?_ (not_or.mpr ⟨started, finished⟩), nothing⟩
  intro idle
  rw [idle] at isOpen
  cases isOpen

/-- Around it, lines the first of which leave no block open lead to what they lead to without it. -/
theorem events_around {before : List Line} (outside : (State.idle.steps before).1 = .idle)
    (after : List Line) :
    events (before ++ (block.lines ++ after)) = events (before ++ after) := by
  rw [events, events, State.run_eq, State.run_eq, State.steps_append, State.steps_append,
    State.steps_append, outside, block.steps_lines]
  rfl

end SkippedBlock

/-- A block that is not decoded ends with the line that closes all that it opens, and with none
before that, and leads to nothing. So files in which it stands where no block is open, as behind a
complete block, are decoded to the same schema and the same diagnostics as files without it, but for
where things stand. -/
theorem skippedBlock_untraced (block : SkippedBlock) :
    (∀ front, front <+: block.lines →
        ((State.idle.steps front).1 = .idle ↔ front = [] ∨ front = block.lines) ∧
          (State.idle.steps front).2 = []) ∧
      ∀ (before after : List Line) (long short : List Input) (firstState secondState : State)
        (place : Coord), (State.idle.steps before).1 = .idle →
        linesOf long = before ++ (block.lines ++ after) →
        (linesOf short).map (·.text) = (before ++ after).map (·.text) →
          (firstState.decode long).schema.relocate (fun _ => place) =
              (secondState.decode short).schema.relocate (fun _ => place) ∧
            (firstState.decode long).diagnostics.map (Diagnostic.relocate fun _ => place) =
              (secondState.decode short).diagnostics.map (Diagnostic.relocate fun _ => place) := by
  refine ⟨fun front isPrefix => block.steps_front isPrefix, ?_⟩
  intro before after long short firstState secondState place outside split texts
  have untraced : decodeLines (linesOf long) = decodeLines (before ++ after) := by
    rw [decodeLines, decodeLines, split, block.events_around outside after]
  have decoded := decodeLines_of_texts _ _ texts place
  rw [← untraced] at decoded
  rw [State.decode_eq, State.decode_eq]
  exact ⟨(congrArg Decoded.schema decoded).symm, (congrArg Decoded.diagnostics decoded).symm⟩

/-- A block that is not decoded, with a level whose lines look like a declaration, and with comments
that end in braces. -/
def contextBlock : SkippedBlock :=
  { header := ⟨"set context c =".toList, ⟨0, 36, 51⟩⟩
    brace := [⟨"# open \x7b".toList, ⟨0, 52, 60⟩⟩] ++ [⟨"\x7b".toList, ⟨0, 61, 62⟩⟩]
    body :=
      ⟨"set attribute sn = \x7b".toList, ⟨0, 63, 83⟩⟩ ::
        ([⟨"name = sn".toList, ⟨0, 86, 95⟩⟩] ++
          ⟨"\x7d;".toList, ⟨0, 96, 98⟩⟩ :: [⟨"# nested \x7b".toList, ⟨0, 99, 109⟩⟩])
    ending := ⟨"\x7d".toList, ⟨0, 110, 111⟩⟩
    opens := .onNextLine (by decide) (by decide) (by decide)
    nested :=
      .level (by decide) (by decide) (.flat (by decide) (by decide) .nil) (by decide)
        (.flat (by decide) (by decide) .nil)
    closes := by decide }

/-- The block between an attribute and a line that is not recognized. -/
def aroundContext : List Input :=
  [⟨0, "set attribute cn = \x7b\n  name = cn\n\x7d;\nset context c =\n# open \x7b\n\x7b\n" ++
    "set attribute sn = \x7b\n  name = sn\n\x7d;\n# nested \x7b\n\x7d\nnonsense\n"⟩]

def withoutContext : List Input :=
  [⟨0, "set attribute cn = \x7b\n  name = cn\n\x7d;\nnonsense\n"⟩]

theorem contextBlock_untraced :
    ∃ before after, (State.idle.steps before).1 = .idle ∧
      linesOf aroundContext = before ++ (contextBlock.lines ++ after) ∧
      (linesOf withoutContext).map (·.text) = (before ++ after).map (·.text) ∧
      (State.idle.steps contextBlock.lines).1 = .idle ∧
      (State.idle.decode aroundContext).schema.relocate (fun _ => default) =
        (State.idle.decode withoutContext).schema.relocate (fun _ => default) ∧
      (State.idle.decode aroundContext).diagnostics.map (·.message) =
        ["unrecognized line was ignored"] := by
  have outside : (State.idle.steps ((linesOf aroundContext).take 3)).1 = .idle := by
    decide +kernel
  have split : linesOf aroundContext = (linesOf aroundContext).take 3 ++
      (contextBlock.lines ++ (linesOf aroundContext).drop 11) := by decide +kernel
  have texts : (linesOf withoutContext).map (·.text) =
      ((linesOf aroundContext).take 3 ++ (linesOf aroundContext).drop 11).map (·.text) := by
    decide +kernel
  obtain ⟨fronts, decoded⟩ := skippedBlock_untraced contextBlock
  have closed := (fronts contextBlock.lines List.prefix_rfl).1.mpr (.inr rfl)
  exact ⟨_, _, outside, split, texts, closed,
    (decoded _ _ _ _ .idle .idle default outside split texts).1, by decide +kernel⟩

/-- A block with a comment that ends in a brace and a line that closes a level behind it. -/
def commented : List Input := [⟨0, "set syntax s = \x7b\n# nested \x7b\n\x7d\n\x7d;\n"⟩]

/-- If comments opened levels the second brace would end the block. The first one does, and the
second is not recognized. -/
theorem commented_ended_early :
    ∃ header comment brace ending, linesOf commented = [header, comment, brace, ending] ∧
      Header.ofLine? header.text = some ⟨none, .opened⟩ ∧
      Nested (fun line => opensLevel line.text) [comment, brace] ∧
      isBlockEnd ending.text = true ∧
      (State.idle.steps [header, comment, brace]).1 = .idle ∧
      (diagnostics (events (linesOf commented))).map (·.message) =
        ["unrecognized line was ignored"] :=
  ⟨_, _, _, _, rfl, by decide +kernel,
    Nested.level (by decide +kernel) (by decide +kernel) Nested.nil (by decide +kernel) Nested.nil,
    by decide +kernel, by decide +kernel, by decide +kernel⟩

end DirSchema.Decoder
