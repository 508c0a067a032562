import DirSchema.Proofs.Decoder.Blocks
import DirSchema.Proofs.Source.Placement
import Mathlib.Data.List.Forall2
set_option autoImplicit false

/-!
Settlement. Every block that a run opens is settled once: it is declared, a warning drops it or, if
its kind is not decoded, it ends in silence. The settlements of a run follow the order in which the
blocks were opened, and all of them but an open one are settled at any time.
-/
namespace DirSchema.Decoder

open DirSchema.Source (Line)

/-- What becomes of a block. -/
inductive Settlement where
  | added (declaration : Declaration)
  | warned (diagnostic : Diagnostic)
  | ended (origin : Coord)

/-- Whether something that a run leads to is what becomes of a block. -/
def Settlement.Settles : Settlement → OpenBlock → Prop
  | .added declaration, block => declaration.origin? = some block.origin ∧
      ∃ kind, block.kind = some kind ∧ kind.declares declaration = true
  | .warned diagnostic, block => diagnostic.labels.map (·.coord) = [block.origin]
  | .ended origin, block => block = { kind := none, origin }

def Settlement.isAt (origin : Coord) : Settlement → Bool
  | .added declaration => declaration.origin? == some origin
  | .warned diagnostic => diagnostic.labels.map (·.coord) == [origin]
  | .ended header => header == origin

private theorem Settlement.Settles.isAt {settlement : Settlement} {block : OpenBlock}
    (settles : settlement.Settles block) (origin : Coord) :
    settlement.isAt origin = (block.origin == origin) := by
  cases settlement with
  | added declaration =>
      rw [Settlement.isAt, settles.1]
      rfl
  | warned diagnostic =>
      have label : diagnostic.labels.map (·.coord) = [block.origin] := settles
      rw [Settlement.isAt, label]
      by_cases same : block.origin = origin <;> simp [same]
  | ended header =>
      cases settles
      rfl

def Event.settlement? : Event → Option Settlement
  | .declared declaration => some (.added declaration)
  | .reported issue =>
    if issue.diagnostic.dropsBlock then some (.warned issue.diagnostic) else none

private theorem settlement?_reported {issues : List Issue}
    (keeps : ∀ issue ∈ issues, issue.diagnostic.dropsBlock = false) :
    (issues.map Event.reported).filterMap Event.settlement? = [] := by
  rw [List.filterMap_map, List.filterMap_eq_nil_iff]
  intro issue member
  simp [Event.settlement?, keeps issue member]

theorem settlement?_stepIdle (line : Line) :
    (State.stepIdle line).2.filterMap Event.settlement? = [] := by
  rw [State.stepIdle]
  split <;> rfl

/-- From one open block to the next: what was open or is opened is settled in order, but for the
block that is still open. -/
def Balanced (before : Option OpenBlock) (opened : List OpenBlock) (settled : List Settlement)
    (after : Option OpenBlock) : Prop :=
  ∃ closed, before.toList ++ opened = closed ++ after.toList ∧
    List.Forall₂ Settlement.Settles settled closed

namespace Balanced

theorem keeps (block : Option OpenBlock) : Balanced block [] [] block :=
  ⟨[], List.append_nil _, .nil⟩

theorem opens (block : Option OpenBlock) : Balanced none block.toList [] block :=
  ⟨[], rfl, .nil⟩

theorem closes {settlement : Settlement} {block : OpenBlock}
    (settles : settlement.Settles block) : Balanced (some block) [] [settlement] none :=
  ⟨[block], rfl, .cons settles .nil⟩

theorem trans {before between after : Option OpenBlock} {first second : List OpenBlock}
    {settledFirst settledSecond : List Settlement}
    (balancedFirst : Balanced before first settledFirst between)
    (balancedSecond : Balanced between second settledSecond after) :
    Balanced before (first ++ second) (settledFirst ++ settledSecond) after := by
  obtain ⟨closedFirst, splitFirst, settlesFirst⟩ := balancedFirst
  obtain ⟨closedSecond, splitSecond, settlesSecond⟩ := balancedSecond
  refine ⟨closedFirst ++ closedSecond, ?_, List.rel_append settlesFirst settlesSecond⟩
  calc before.toList ++ (first ++ second)
      = closedFirst ++ (between.toList ++ second) := by
        rw [← List.append_assoc, splitFirst, List.append_assoc]
    _ = closedFirst ++ closedSecond ++ after.toList := by
        rw [splitSecond, List.append_assoc]

/-- The settlements and the open block are as many as the blocks. -/
theorem length {before after : Option OpenBlock} {opened : List OpenBlock}
    {settled : List Settlement} (balanced : Balanced before opened settled after) :
    before.toList.length + opened.length = settled.length + after.toList.length := by
  obtain ⟨closed, split, settles⟩ := balanced
  rw [← List.length_append, split, List.length_append, settles.length_eq]

end Balanced

namespace State

/-- What a function of the single steps gives along a run. -/
def along {α : Type} (each : State → Line → List α) (state : State) : List Line → List α
  | [] => []
  | line :: rest => each state line ++ along each (state.step line).1 rest

theorem along_cons {α : Type} (each : State → Line → List α) (state : State) (line : Line)
    (rest : List Line) :
    state.along each (line :: rest) = each state line ++ (state.step line).1.along each rest := rfl

def openings (state : State) (lines : List Line) : List OpenBlock :=
  state.along (fun state line => (state.opening? line).toList) lines

/-- The headers of the blocks that end in silence, in order. -/
def silentEnds (state : State) (lines : List Line) : List Coord :=
  state.along (fun state line => (state.silentEnd? line).toList) lines

def settlementsAt (state : State) (line : Line) : List Settlement :=
  (state.step line).2.filterMap Event.settlement? ++
    (state.silentEnd? line).toList.map Settlement.ended

/-- What lines make of blocks, in order. -/
def settlements (state : State) (lines : List Line) : List Settlement :=
  state.along settlementsAt lines

/-- A line that stands outside of the open block drops that block. -/
theorem settles_unterminated (kind : Option BlockKind) (origin : Coord) (line : Line) :
    Balanced (some { kind, origin }) (stepIdle line).1.openBlock?.toList
      ((Event.reported (.unterminated kind origin) :: (stepIdle line).2).filterMap
        Event.settlement?)
      (stepIdle line).1.openBlock? := by
  have dropped : Event.settlement? (.reported (.unterminated kind origin)) =
      some (.warned (Issue.unterminated kind origin).diagnostic) := rfl
  have settles : (Settlement.warned (Issue.unterminated kind origin).diagnostic).Settles
      { kind, origin } := rfl
  rw [List.filterMap_cons_some dropped, settlement?_stepIdle]
  exact (Balanced.closes settles).trans (.opens (stepIdle line).1.openBlock?)

private theorem settles_awaitingBrace (kind : Option BlockKind) (origin : Coord) (line : Line)
    (significant : line.isSignificant = true) :
    Balanced (some { kind, origin }) ((State.awaitingBrace kind origin).opening? line).toList
      ((State.awaitingBrace kind origin).settlementsAt line)
      ((State.awaitingBrace kind origin).step line).1.openBlock? := by
  rw [settlementsAt, step_awaitingBrace _ _ _ significant, opening?, readsOutside, significant]
  by_cases brace : isBrace line.text = true
  · simp only [brace, openBlock?_opened, silentEnd?, ↓reduceIte]
    exact .keeps _
  · simpa [brace, silentEnd?] using settles_unterminated kind origin line

private theorem settles_reading (origin : Coord) (draft : Draft) (line : Line)
    (significant : line.isSignificant = true) :
    Balanced (some { kind := some draft.kind, origin })
      ((State.reading origin draft).opening? line).toList
      ((State.reading origin draft).settlementsAt line)
      ((State.reading origin draft).step line).1.openBlock? := by
  rw [settlementsAt, step_reading _ _ _ significant, opening?, readsOutside, significant,
    stepReading]
  by_cases ends : isBlockEnd line.text = true
  -- A line that ends the block settles it, and so does a header, which then opens another.
  · rcases draft.close_cases origin with ⟨declaration, closed, place, declares⟩ | ⟨missing, closed⟩
    · have settles : (Settlement.added declaration).Settles { kind := some draft.kind, origin } :=
        ⟨place, draft.kind, rfl, declares⟩
      simpa [ends, closed, silentEnd?, Event.settlement?] using Balanced.closes settles
    · have drops : (Issue.incomplete draft.kind missing origin).diagnostic.dropsBlock = true := rfl
      have settles : (Settlement.warned
          (Issue.incomplete draft.kind missing origin).diagnostic).Settles
          { kind := some draft.kind, origin } := rfl
      simpa [ends, closed, silentEnd?, Event.settlement?, drops] using Balanced.closes settles
  · by_cases header : (Header.ofLine? line.text).isSome = true
    · simpa [ends, header, silentEnd?] using settles_unterminated (some draft.kind) origin line
    · have nothing := settlement?_reported fun issue member =>
        (Issue.of_noted? (draft.read_notes line issue member)).2.2
      simpa [ends, header, silentEnd?, nothing, openBlock?, Draft.kind_read]
        using Balanced.keeps (some { kind := some draft.kind, origin })

private theorem settles_skipping (origin : Coord) (depth : Nat) (line : Line)
    (significant : line.isSignificant = true) :
    Balanced (some { kind := none, origin })
      ((State.skipping origin depth).opening? line).toList
      ((State.skipping origin depth).settlementsAt line)
      ((State.skipping origin depth).step line).1.openBlock? := by
  rw [settlementsAt, step_skipping _ _ _ significant, opening?, readsOutside, significant]
  by_cases ends : isBlockEnd line.text = true
  · cases depth with
    | zero =>
        have settles : (Settlement.ended origin).Settles { kind := none, origin } := rfl
        simpa [stepSkipping, ends, silentEnd?, significant] using Balanced.closes settles
    | succ depth =>
        simpa [stepSkipping, ends, silentEnd?] using
          Balanced.keeps (some { kind := none, origin })
  · have silent : (State.skipping origin depth).silentEnd? line = none := by
      cases depth <;> simp [silentEnd?, ends]
    by_cases deeper : opensLevel line.text = true <;>
      simpa [stepSkipping, ends, deeper, silent] using
        Balanced.keeps (some { kind := none, origin })

/-- One step settles the open block or goes on with it, and opens at most one other. -/
theorem step_settles (state : State) (line : Line) :
    Balanced state.openBlock? (state.opening? line).toList (state.settlementsAt line)
      (state.step line).1.openBlock? := by
  by_cases significant : line.isSignificant = true
  · cases state with
    | idle =>
        rw [settlementsAt, step_idle _ significant, settlement?_stepIdle]
        simpa [opening?, readsOutside, significant, silentEnd?] using
          Balanced.opens (stepIdle line).1.openBlock?
    | awaitingBrace kind origin => exact settles_awaitingBrace kind origin line significant
    | reading origin draft => exact settles_reading origin draft line significant
    | skipping origin depth => exact settles_skipping origin depth line significant
  · have skipped : line.isSignificant = false := Bool.eq_false_iff.mpr significant
    have silent : state.silentEnd? line = none := by
      cases state with
      | skipping origin depth => cases depth <;> simp [silentEnd?, skipped]
      | _ => rfl
    rw [settlementsAt, step_insignificant _ _ skipped]
    simpa [opening?, readsOutside, skipped, silent] using Balanced.keeps state.openBlock?

/-- A run settles every block that it opens, but for the one that is still open. -/
theorem steps_settle (state : State) (lines : List Line) :
    Balanced state.openBlock? (state.openings lines) (state.settlements lines)
      (state.steps lines).1.openBlock? := by
  induction lines generalizing state with
  | nil => exact .keeps state.openBlock?
  | cons line rest ih => exact (step_settles state line).trans (ih (state.step line).1)

/-- The end settles the block that is still open. -/
theorem finish_settles (state : State) :
    Balanced state.openBlock? [] (state.finish.filterMap Event.settlement?) none := by
  cases state with
  | idle => exact .keeps none
  | awaitingBrace kind origin => exact .closes rfl
  | reading origin draft => exact .closes rfl
  | skipping origin depth => exact .closes rfl

/-- What a run makes of blocks: what it leads to and what ends in silence. -/
theorem settlements_perm (state : State) (lines : List Line) :
    (state.settlements lines).Perm
      ((state.steps lines).2.filterMap Event.settlement? ++
        (state.silentEnds lines).map Settlement.ended) := by
  induction lines generalizing state with
  | nil => exact .nil
  | cons line rest ih =>
      rw [settlements, along_cons, ← settlements, settlementsAt, silentEnds, along_cons,
        ← silentEnds, steps_cons, List.filterMap_append, List.map_append, List.append_assoc,
        List.append_assoc]
      -- The silent end of the first step changes places with the events of the others.
      apply List.Perm.append_left
      exact ((ih _).append_left _).trans (List.perm_append_comm_assoc _ _ _)

def allSettlements (state : State) (lines : List Line) : List Settlement :=
  state.settlements lines ++ (state.steps lines).1.finish.filterMap Event.settlement?

theorem allSettlements_perm (state : State) (lines : List Line) :
    (state.allSettlements lines).Perm
      ((state.run lines).filterMap Event.settlement? ++
        (state.silentEnds lines).map Settlement.ended) := by
  rw [allSettlements, run_eq, List.filterMap_append, List.append_assoc]
  refine ((settlements_perm state lines).append_right _).trans ?_
  rw [List.append_assoc]
  exact List.perm_append_comm.append_left _

/-- From the start, the settlements of a whole run are those of the opened blocks, in order. -/
theorem run_settles (lines : List Line) :
    List.Forall₂ Settlement.Settles (State.idle.allSettlements lines)
      (State.idle.openings lines) := by
  obtain ⟨closed, split, settles⟩ :=
    (steps_settle .idle lines).trans (finish_settles (State.idle.steps lines).1)
  have all : State.idle.openings lines = closed := by simpa using split
  rw [all]
  exact settles

theorem headers_openings (state : State) (lines : List Line) :
    ((state.openings lines).map (·.origin)).Sublist (lines.map (·.coord)) := by
  induction lines generalizing state with
  | nil => exact .slnil
  | cons line rest ih =>
      rw [openings, along_cons, ← openings, List.map_append, List.map_cons]
      cases opens : state.opening? line with
      | none => exact .cons _ (ih _)
      | some block =>
          have place : block.origin = line.coord := origin_opening opens
          rw [Option.toList_some, List.map_singleton, place]
          exact .cons_cons _ (ih _)

end State

theorem countP_settlement? (p : Settlement → Bool) (events : List Event) :
    (events.filterMap Event.settlement?).countP p =
      (declarations events).countP (fun declaration => p (.added declaration)) +
        (diagnostics events).countP fun diagnostic =>
          diagnostic.dropsBlock && p (.warned diagnostic) := by
  induction events with
  | nil => rfl
  | cons event rest ih =>
      cases event with
      | declared declaration =>
          have first : declarations (.declared declaration :: rest) =
              declaration :: declarations rest := rfl
          have same : diagnostics (.declared declaration :: rest) = diagnostics rest := rfl
          have found : Event.settlement? (.declared declaration) = some (.added declaration) := rfl
          rw [List.filterMap_cons_some found, first, same, List.countP_cons, List.countP_cons, ih]
          omega
      | reported issue =>
          have same : declarations (.reported issue :: rest) = declarations rest := rfl
          have first : diagnostics (.reported issue :: rest) =
              issue.diagnostic :: diagnostics rest := rfl
          rw [same, first, List.countP_cons]
          by_cases drops : issue.diagnostic.dropsBlock = true
          · have found : Event.settlement? (.reported issue) =
                some (.warned issue.diagnostic) := by
              rw [Event.settlement?, if_pos drops]
            rw [List.filterMap_cons_some found, List.countP_cons, ih, drops, Bool.true_and]
            omega
          · have nothing : Event.settlement? (.reported issue) = none := by
              rw [Event.settlement?, if_neg drops]
            rw [List.filterMap_cons_none nothing, ih]
            simp [drops]

theorem mem_settlement?_of_declarations {events : List Event} {declaration : Declaration}
    (member : declaration ∈ declarations events) :
    Settlement.added declaration ∈ events.filterMap Event.settlement? := by
  obtain ⟨event, happened, declares⟩ := List.mem_filterMap.mp member
  refine List.mem_filterMap.mpr ⟨event, happened, ?_⟩
  cases event with
  | declared other =>
      cases declares
      rfl
  | reported issue => cases declares

theorem mem_settlement?_of_diagnostics {events : List Event} {diagnostic : Diagnostic}
    (member : diagnostic ∈ diagnostics events) (drops : diagnostic.dropsBlock = true) :
    Settlement.warned diagnostic ∈ events.filterMap Event.settlement? := by
  obtain ⟨event, happened, reports⟩ := List.mem_filterMap.mp member
  refine List.mem_filterMap.mpr ⟨event, happened, ?_⟩
  cases event with
  | declared declaration => cases reports
  | reported issue =>
      cases reports
      rw [Event.settlement?, if_pos drops]

theorem exists_settled {settlements : List Settlement} {blocks : List OpenBlock}
    (settle : List.Forall₂ Settlement.Settles settlements blocks) {settlement : Settlement}
    (member : settlement ∈ settlements) : ∃ block ∈ blocks, settlement.Settles block := by
  induction settle with
  | nil => cases member
  | @cons first block rest blocks settles _ ih =>
      rcases List.mem_cons.mp member with rfl | later
      · exact ⟨block, List.mem_cons_self, settles⟩
      · obtain ⟨found, among, settlesFound⟩ := ih later
        exact ⟨found, List.mem_cons_of_mem _ among, settlesFound⟩

/-- Blocks with headers at different places are settled once each. -/
theorem countP_isAt {settlements : List Settlement} {blocks : List OpenBlock}
    (settle : List.Forall₂ Settlement.Settles settlements blocks) (origin : Coord) :
    settlements.countP (Settlement.isAt origin) = (blocks.map (·.origin)).count origin := by
  induction settle with
  | nil => rfl
  | @cons settlement block rest blocks settles _ ih =>
      rw [List.countP_cons, List.map_cons, List.count_cons, ih, settles.isAt]

theorem nodup_coord_linesOf (inputs : List Input) (distinct : (inputs.map (·.file)).Nodup) :
    ((linesOf inputs).map (·.coord)).Nodup := by
  induction inputs with
  | nil => exact .nil
  | cons input rest ih =>
      rw [List.map_cons, List.nodup_cons] at distinct
      rw [linesOf, List.flatMap_cons, ← linesOf, List.map_append, List.nodup_append]
      refine ⟨Line.nodup_coord_ofText input.file input.text, ih distinct.2, ?_⟩
      intro coord here other there same
      obtain ⟨line, member, rfl⟩ := List.mem_map.mp here
      obtain ⟨later, laterMember, rfl⟩ := List.mem_map.mp there
      obtain ⟨laterInput, among, inside⟩ := List.mem_flatMap.mp laterMember
      apply distinct.1
      refine List.mem_map.mpr ⟨laterInput, among, ?_⟩
      rw [← Line.file_ofText laterInput.file laterInput.text later inside,
        ← Line.file_ofText input.file input.text line member, same]

/-- How a run accounts for the blocks that it opens. -/
structure Accounted (start : State) (lines : List Line) : Prop where
  /-- A block is declared, dropped with a warning or ended in silence, one of these and once. -/
  once : ∀ block ∈ start.openings lines,
    (declarations (start.run lines)).countP
          (fun declaration => declaration.origin? == some block.origin) +
        (diagnostics (start.run lines)).countP
          (fun diagnostic => diagnostic.dropsBlock &&
            diagnostic.labels.map (·.coord) == [block.origin]) +
        (start.silentEnds lines).count block.origin = 1
  headers : ((start.openings lines).map (·.origin)).Sublist (lines.map (·.coord))
  added : ∀ declaration ∈ declarations (start.run lines), ∃ block ∈ start.openings lines,
    declaration.origin? = some block.origin ∧
      ∃ kind, block.kind = some kind ∧ kind.declares declaration = true
  warned : ∀ diagnostic ∈ diagnostics (start.run lines), diagnostic.dropsBlock = true →
    ∃ block ∈ start.openings lines, diagnostic.labels.map (·.coord) = [block.origin]
  ended : ∀ origin ∈ start.silentEnds lines, { kind := none, origin } ∈ start.openings lines
  /-- At any time all blocks are settled but the one that is open. -/
  single : ∀ before, before <+: lines →
    (start.openings before).length =
      (declarations (start.steps before).2).length +
        (diagnostics (start.steps before).2).countP Diagnostic.dropsBlock +
        (start.silentEnds before).length + (start.steps before).1.openBlock?.toList.length
  /-- A line changes the schema by one declaration at most, and only one that ends a block does. -/
  changes : ∀ before line after, lines = before ++ line :: after → ∀ schema,
    declareAll schema (start.steps (before ++ [line])).2 =
        declareAll schema (start.steps before).2 ∨
      isBlockEnd line.text = true ∧ ∃ declaration,
        declareAll schema (start.steps (before ++ [line])).2 =
          (declareAll schema (start.steps before).2).declare declaration
  unchanged : ∀ schema, declareAll schema (start.run lines) =
    declareAll schema (start.steps lines).2

theorem openings_accounted (lines : List Line) (distinct : (lines.map (·.coord)).Nodup)
    {block : OpenBlock} (member : block ∈ State.idle.openings lines) :
    (declarations (State.idle.run lines)).countP
          (fun declaration => declaration.origin? == some block.origin) +
        (diagnostics (State.idle.run lines)).countP
          (fun diagnostic => diagnostic.dropsBlock &&
            diagnostic.labels.map (·.coord) == [block.origin]) +
        (State.idle.silentEnds lines).count block.origin = 1 := by
  have counted := countP_isAt (State.run_settles lines) block.origin
  have opened : ((State.idle.openings lines).map (·.origin)).count block.origin = 1 :=
    List.count_eq_one_of_mem ((State.headers_openings .idle lines).nodup distinct)
      (List.mem_map.mpr ⟨block, member, rfl⟩)
  rw [(State.allSettlements_perm .idle lines).countP_eq, List.countP_append,
    countP_settlement?, List.countP_map, opened] at counted
  exact counted

theorem declareAll_concat (schema : Schema) (start : State) (before : List Line) (line : Line) :
    declareAll schema (start.steps (before ++ [line])).2 =
      (declareAll schema (start.steps before).2).declareEach
        (declarations ((start.steps before).1.step line).2) := by
  rw [declareAll_eq, declareAll_eq, State.steps_append, declarations_append,
    Schema.declareEach_append, State.steps_cons, State.steps_nil, List.append_nil]

/-- A class, a block that is not decoded, an attribute without a name, a header that another one
follows, and a binding that never ends. -/
def untidy : List Input :=
  [{ file := 0
     text := "set object-class p = \x7b\nname = p\n\x7d;\nset rule r = \x7b\nif \x7b\n\x7d\n\x7d" },
   { file := 1
     text := "set attribute a =\n\x7b\n\x7d;\nset attribute b =\nset name-binding c =\n\x7b" }]

end DirSchema.Decoder
