import DirSchema.Proofs.Decoder.Run
set_option autoImplicit false

namespace DirSchema

def Declaration.origin? : Declaration → Option Coord
  | .attr declared => declared.origin
  | .objectClass declared => declared.origin
  | .binding declared => declared.origin

/-- Whether a diagnostic is the warning that a block was dropped. -/
def Diagnostic.dropsBlock (diagnostic : Diagnostic) : Bool :=
  diagnostic.code == some Code.incompleteDeclaration.name ||
    diagnostic.code == some Code.unterminatedBlock.name

namespace Decoder

open DirSchema.Source (Line)

def BlockKind.declares : BlockKind → Declaration → Bool
  | .attr, .attr _ => true
  | .objectClass, .objectClass _ => true
  | .binding _, .binding _ => true
  | _, _ => false

/-- A block that was opened: its kind, none if it is not decoded, and the place of its header. -/
structure OpenBlock where
  kind : Option BlockKind
  origin : Coord
deriving DecidableEq, Repr

/-- The line that a note is about; the other issues are warnings. -/
def Issue.noted? : Issue → Option Coord
  | .redundantParent _ _ place | .unknownSyntax _ place | .unrecognized place => some place
  | .incomplete .. | .unterminated .. => none

/-- A note marks its line and drops no block. -/
theorem Issue.of_noted? {issue : Issue} {place : Coord} (noted : issue.noted? = some place) :
    issue.diagnostic.severity = .note ∧ issue.diagnostic.labels.map (·.coord) = [place] ∧
      issue.diagnostic.dropsBlock = false := by
  cases issue <;> cases noted <;> exact ⟨rfl, rfl, rfl⟩

theorem Draft.kind_read (draft : Draft) (line : Line) : (draft.read line).1.kind = draft.kind := by
  cases draft <;> rfl

private theorem AttributeDraft.read_notes (draft : AttributeDraft) (line : Line) :
    ∀ issue ∈ (draft.read line).2, issue.noted? = some line.coord := by
  simp only [AttributeDraft.read]
  split
  · simp
  · simp
  · split <;> simp [Issue.noted?]
  · split <;> simp [Issue.noted?]
  · split <;> simp [Issue.noted?]
  · simp [Issue.noted?]

private theorem ClassDraft.readParents_notes (draft : ClassDraft) (place : Coord)
    (parents : List String) :
    ∀ issue ∈ (draft.readParents place parents).2, issue.noted? = some place := by
  induction parents generalizing draft with
  | nil => simp [ClassDraft.readParents]
  | cons parent rest ih =>
      rw [ClassDraft.readParents]
      split
      · intro issue member
        rcases List.mem_cons.mp member with rfl | later
        · rfl
        · exact ih draft issue later
      · exact ih _

private theorem ClassDraft.read_notes (draft : ClassDraft) (line : Line) :
    ∀ issue ∈ (draft.read line).2, issue.noted? = some line.coord := by
  simp only [ClassDraft.read]
  split
  · simp
  · split
    · simp
    · simp
    · simp
    · exact draft.readParents_notes line.coord _
    · simp
    · simp
    · simp [Issue.noted?]

private theorem BindingDraft.read_notes (draft : BindingDraft) (line : Line) :
    ∀ issue ∈ (draft.read line).2, issue.noted? = some line.coord := by
  simp only [BindingDraft.read]
  split
  · simp
  · simp
  · simp
  · simp
  · split <;> simp [Issue.noted?]

theorem Draft.read_notes (draft : Draft) (line : Line) :
    ∀ issue ∈ (draft.read line).2, issue.noted? = some line.coord := by
  cases draft with
  | attr draft => exact draft.read_notes line
  | objectClass draft => exact draft.read_notes line
  | binding kind draft => exact draft.read_notes line

/-- A block that is closed is declared, or found incomplete, where its header stands. -/
theorem Draft.close_cases (draft : Draft) (origin : Coord) :
    (∃ declaration, draft.close origin = .ok declaration ∧
      declaration.origin? = some origin ∧ draft.kind.declares declaration = true) ∨
      ∃ missing, draft.close origin = .error (.incomplete draft.kind missing origin) := by
  cases draft with
  | attr draft =>
      simp only [Draft.close, AttributeDraft.close]
      split
      · exact Or.inr ⟨_, rfl⟩
      · exact Or.inl ⟨_, rfl, rfl, rfl⟩
  | objectClass draft =>
      simp only [Draft.close, ClassDraft.close]
      split
      · exact Or.inr ⟨_, rfl⟩
      · exact Or.inl ⟨_, rfl, rfl, rfl⟩
  | binding kind draft =>
      simp only [Draft.close, BindingDraft.close]
      split
      · exact Or.inl ⟨_, rfl, rfl, rfl⟩
      · exact Or.inr ⟨_, rfl⟩

namespace State

def openBlock? : State → Option OpenBlock
  | .idle => none
  | .awaitingBrace kind origin => some { kind, origin }
  | .reading origin draft => some { kind := some draft.kind, origin }
  | .skipping origin _ => some { kind := none, origin }

@[simp] theorem openBlock?_idle : State.idle.openBlock? = none := rfl

@[simp] theorem openBlock?_awaitingBrace (kind : Option BlockKind) (origin : Coord) :
    (State.awaitingBrace kind origin).openBlock? = some { kind, origin } := rfl

@[simp] theorem openBlock?_reading (origin : Coord) (draft : Draft) :
    (State.reading origin draft).openBlock? = some { kind := some draft.kind, origin } := rfl

@[simp] theorem openBlock?_skipping (origin : Coord) (depth : Nat) :
    (State.skipping origin depth).openBlock? = some { kind := none, origin } := rfl

/-- Whether a line is read as one that stands outside of every block. -/
def readsOutside (state : State) (line : Line) : Bool :=
  line.isSignificant &&
    match state with
    | .idle => true
    | .awaitingBrace .. => !isBrace line.text
    | .reading .. => !isBlockEnd line.text && (Header.ofLine? line.text).isSome
    | .skipping .. => false

def opening? (state : State) (line : Line) : Option OpenBlock :=
  if state.readsOutside line then (stepIdle line).1.openBlock? else none

/-- The place of the header, if a line ends the block of one that is not decoded. -/
def silentEnd? (state : State) (line : Line) : Option Coord :=
  match state with
  | .skipping origin 0 =>
    if line.isSignificant && isBlockEnd line.text then some origin else none
  | _ => none

theorem openBlock?_opened (kind : Option BlockKind) (origin : Coord) :
    (opened kind origin).openBlock? = some { kind, origin } := by
  cases kind with
  | none => rfl
  | some kind => cases kind <;> rfl

/-- A line that stands outside of every block ends what is open, as the end of the stream does. -/
theorem step_eq_of_readsOutside {state : State} {line : Line}
    (outside : state.readsOutside line = true) :
    state.step line = ((stepIdle line).1, state.finish ++ (stepIdle line).2) := by
  obtain ⟨significant, apart⟩ := Bool.and_eq_true_iff.mp outside
  cases state with
  | idle => rw [step_idle _ significant]; rfl
  | awaitingBrace kind origin =>
      have other : ¬ isBrace line.text = true := by simpa using apart
      rw [step_awaitingBrace _ _ _ significant, if_neg other]
      rfl
  | reading origin draft =>
      obtain ⟨more, header⟩ := Bool.and_eq_true_iff.mp apart
      have inside : ¬ isBlockEnd line.text = true := by simpa using more
      rw [step_reading _ _ _ significant, stepReading, if_neg inside, if_pos header]
      rfl
  | skipping origin depth => cases apart

/-- A line that stands outside of every block parts a run into two. -/
theorem run_of_readsOutside {state : State} {before after : List Line} {line : Line}
    (outside : (state.steps before).1.readsOutside line = true) :
    state.run (before ++ line :: after) =
      state.run before ++ State.idle.run (line :: after) := by
  have significant := (Bool.and_eq_true_iff.mp outside).1
  rw [run_eq, run_eq, run_eq, steps_append, steps_cons, steps_cons,
    step_eq_of_readsOutside outside, step_idle line significant]
  simp only [List.append_assoc]

theorem origin_opening {state : State} {line : Line} {block : OpenBlock}
    (opens : state.opening? line = some block) : block.origin = line.coord := by
  rw [opening?] at opens
  split at opens
  · rw [stepIdle] at opens
    split at opens
    · rw [openBlock?_opened] at opens
      cases opens
      rfl
    · cases opens
      rfl
    · cases opens
    · cases opens
  · cases opens

private theorem declarations_stepIdle (line : Line) : declarations (stepIdle line).2 = [] := by
  rw [stepIdle]
  split <;> rfl

def draft? : State → Option Draft
  | .reading _ draft => some draft
  | _ => none

/-- What a line can make of drafts: it leaves the state as it is, leads on without a declaration to
no draft or to an empty one, is read into a draft, or closes it. -/
inductive Leads (line : Line) : State → State × List Event → Prop
  | unchanged (state : State) : Leads line state (state, [])
  | onward {state after : State} {events : List Event}
      (fresh : ∀ draft ∈ after.draft?, ∃ kind, draft = .empty kind)
      (nothing : declarations events = []) : Leads line state (after, events)
  | read (significant : line.isSignificant = true) (origin : Coord) (draft : Draft) :
      Leads line (.reading origin draft)
        (.reading origin (draft.read line).1, (draft.read line).2.map .reported)
  | closed (ends : isBlockEnd line.text = true) {origin : Coord} {draft : Draft}
      {declaration : Declaration} (made : draft.close origin = .ok declaration) :
      Leads line (.reading origin draft) (.idle, [.declared declaration])

theorem forall_of_draft?_eq_none {state : State} {holds : Draft → Prop}
    (without : state.draft? = none) : ∀ draft ∈ state.draft?, holds draft := by
  simp [without]

theorem fresh_opened (kind : Option BlockKind) (origin : Coord) :
    ∀ draft ∈ (opened kind origin).draft?, ∃ kind, draft = .empty kind := by
  cases kind with
  | none => exact forall_of_draft?_eq_none rfl
  | some kind =>
      rintro draft ⟨⟩
      exact ⟨kind, rfl⟩

private theorem fresh_stepIdle (line : Line) :
    ∀ draft ∈ (stepIdle line).1.draft?, ∃ kind, draft = .empty kind := by
  rw [stepIdle]
  split
  · exact fresh_opened _ _
  · exact forall_of_draft?_eq_none rfl
  · exact forall_of_draft?_eq_none rfl
  · exact forall_of_draft?_eq_none rfl

theorem step_leads (state : State) (line : Line) : Leads line state (state.step line) := by
  by_cases significant : line.isSignificant = true
  · cases state with
    | idle =>
        rw [step_idle _ significant]
        exact .onward (fresh_stepIdle line) (declarations_stepIdle line)
    | awaitingBrace kind origin =>
        rw [step_awaitingBrace _ _ _ significant]
        split
        · exact .onward (fresh_opened kind origin) rfl
        · exact .onward (fresh_stepIdle line) (declarations_stepIdle line)
    | reading origin draft =>
        rw [step_reading _ _ _ significant, stepReading]
        by_cases ends : isBlockEnd line.text = true
        · rw [if_pos ends]
          cases made : draft.close origin with
          | ok declaration => exact .closed ends made
          | error issue => exact .onward (forall_of_draft?_eq_none rfl) rfl
        · rw [if_neg ends]
          split
          · exact .onward (fresh_stepIdle line) (declarations_stepIdle line)
          · exact .read significant origin draft
    | skipping origin depth =>
        rw [step_skipping _ _ _ significant]
        refine .onward (forall_of_draft?_eq_none ?_) rfl
        simp only [stepSkipping]
        split
        · split <;> rfl
        · split <;> rfl
  · rw [step_insignificant _ _ (Bool.eq_false_iff.mpr significant)]
    exact .unchanged state

/-- Only the end of a block declares something, and then one thing. -/
theorem declarations_step (state : State) (line : Line) :
    declarations (state.step line).2 = [] ∨
      isBlockEnd line.text = true ∧
        ∃ declaration, declarations (state.step line).2 = [declaration] := by
  have leads := step_leads state line
  generalize state.step line = result at leads ⊢
  cases leads with
  | unchanged => exact Or.inl rfl
  | onward fresh nothing => exact Or.inl nothing
  | read significant origin draft => exact Or.inl (declarations_reported _)
  | @closed ends origin draft declaration made => exact Or.inr ⟨ends, declaration, rfl⟩

end State

/-- What holds of every draft that is read from given lines, and what it makes hold of every
declaration. -/
structure Kept (given : Line → Prop) (read : Draft → Prop) (made : Declaration → Prop) : Prop where
  empty : ∀ kind, read (Draft.empty kind)
  line : ∀ {draft}, read draft → ∀ line : Line, line.isSignificant = true → given line →
    read (draft.read line).1
  close : ∀ {draft origin declaration}, read draft → draft.close origin = .ok declaration →
    made declaration

namespace Kept

variable {given : Line → Prop} {read : Draft → Prop} {made : Declaration → Prop}
  (kept : Kept given read made)
include kept

theorem step {state : State} (keeps : ∀ draft ∈ state.draft?, read draft) {line : Line}
    (here : given line) :
    (∀ draft ∈ (state.step line).1.draft?, read draft) ∧
      ∀ declaration ∈ declarations (state.step line).2, made declaration := by
  have leads := state.step_leads line
  generalize state.step line = result at leads ⊢
  cases leads with
  | unchanged => exact ⟨keeps, List.forall_mem_nil made⟩
  | onward fresh nothing =>
      refine ⟨fun draft held => ?_, nothing ▸ List.forall_mem_nil made⟩
      obtain ⟨kind, rfl⟩ := fresh draft held
      exact kept.empty kind
  | read significant origin draft =>
      refine ⟨?_, declarations_reported _ ▸ List.forall_mem_nil made⟩
      rintro after ⟨⟩
      exact kept.line (keeps draft rfl) line significant here
  | closed ends closed =>
      have declared := kept.close (keeps _ rfl) closed
      exact ⟨State.forall_of_draft?_eq_none rfl, List.forall_mem_singleton.mpr declared⟩

private theorem steps {state : State} (keeps : ∀ draft ∈ state.draft?, read draft)
    {lines : List Line}
    (here : ∀ line ∈ lines, given line) :
    ∀ declaration ∈ declarations (state.steps lines).2, made declaration := by
  induction lines generalizing state with
  | nil => exact List.forall_mem_nil made
  | cons line rest ih =>
      rw [List.forall_mem_cons] at here
      obtain ⟨after, declared⟩ := kept.step keeps here.1
      rw [State.steps_cons, declarations_append, List.forall_mem_append]
      exact ⟨declared, ih after here.2⟩

/-- What is kept holds of all that a run declares. -/
theorem of_mem_declarations {lines : List Line} (here : ∀ line ∈ lines, given line)
    {declaration : Declaration} (member : declaration ∈ declarations (events lines)) :
    made declaration := by
  rw [events, State.run_eq, declarations_append, declarations_finish, List.append_nil] at member
  exact kept.steps (State.forall_of_draft?_eq_none rfl) here declaration member

end Kept
end Decoder
end DirSchema
