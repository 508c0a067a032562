import DirSchema.Proofs.Decoder.Clean
set_option autoImplicit false

namespace DirSchema

/-- Making an attribute asserts that it has a name. -/
def Attribute.assertNamed (name : String) : Option Unit := if name = "" then none else some ()

theorem Attribute.assertNamed_eq {name : String} (named : name ≠ "") :
    Attribute.assertNamed name = some () := if_neg named

namespace Schema

/-- The look-up that stops where an attribute is synthesized without a name. -/
def lookupOrSynthesize? : Lookup Option := fun schema owner name => do
  if (schema.attribute? name).isNone then Attribute.assertNamed name
  return schema.lookupOrSynthesize owner name

private theorem lookupOrSynthesize?_eq {name : String} (named : name ≠ "") (schema : Schema)
    (owner : ObjectClass) :
    lookupOrSynthesize? schema owner name = some (schema.lookupOrSynthesize owner name) := by
  rw [lookupOrSynthesize?, Attribute.assertNamed_eq named]
  split <;> rfl

private theorem lookupAll_asserted {names : List String} (named : ∀ name ∈ names, name ≠ "")
    (schema : Schema) (owner : ObjectClass) :
    lookupAll lookupOrSynthesize? schema owner names =
      some (lookupAll (m := Id) lookupOrSynthesize schema owner names) := by
  induction names generalizing schema with
  | nil => rfl
  | cons name rest ih =>
      rw [List.forall_mem_cons] at named
      rw [lookupAll, lookupOrSynthesize?_eq named.1, Option.bind_eq_bind, Option.bind_some]
      dsimp only
      rw [ih named.2]
      rfl

private theorem resolveClass_asserted {owner : ObjectClass}
    (named : ∀ name ∈ owner.requiredNames ++ owner.optionalNames, name ≠ "") (schema : Schema) :
    resolveClass lookupOrSynthesize? schema owner =
      some (resolveClass (m := Id) lookupOrSynthesize schema owner) := by
  rw [List.forall_mem_append] at named
  rw [resolveClass, lookupAll_asserted named.1, resolveClass_plain, Option.bind_eq_bind,
    Option.bind_some]
  rcases lookupAll (m := Id) lookupOrSynthesize schema owner owner.requiredNames with
    ⟨grown, required, warnings⟩
  dsimp only
  rw [lookupAll_asserted named.2]
  rfl

private theorem resolveClasses_asserted {owners : List ObjectClass}
    (named : ∀ owner ∈ owners, ∀ name ∈ owner.requiredNames ++ owner.optionalNames, name ≠ "")
    (schema : Schema) :
    resolveClasses lookupOrSynthesize? schema owners =
      some (resolveClasses (m := Id) lookupOrSynthesize schema owners) := by
  induction owners generalizing schema with
  | nil => rfl
  | cons owner rest ih =>
      rw [List.forall_mem_cons] at named
      rw [resolveClasses, resolveClass_asserted named.1, resolveClasses_cons, Option.bind_eq_bind,
        Option.bind_some]
      rcases resolveClass (m := Id) lookupOrSynthesize schema owner with
        ⟨grown, resolved, warnings⟩
      dsimp only
      rw [ih named.2]
      rfl

private theorem resolveWith_asserted {schema : Schema}
    (named : ∀ reference ∈ schema.references, reference.name ≠ "") :
    resolveWith lookupOrSynthesize? schema = some schema.resolve := by
  have owned : ∀ owner ∈ schema.objectClasses,
      ∀ name ∈ owner.requiredNames ++ owner.optionalNames, name ≠ "" := by
    intro owner among name written
    exact named { owner, name }
      (List.mem_flatMap.mpr ⟨owner, among, List.mem_map.mpr ⟨name, written, rfl⟩⟩)
  rw [resolveWith, resolveClasses_asserted owned]
  rfl

end Schema

namespace Decoder

open DirSchema.Source (Line)

/-- What is asserted of an event: the attribute that it declares was made with a name. -/
def Event.assert : Event → Option Unit
  | .declared (.attr attr) => Attribute.assertNamed attr.name
  | _ => some ()

private theorem forM_assert {events : List Event}
    (filled : ∀ declaration ∈ declarations events, ∀ given ∈ declaration.strings, given ≠ "") :
    events.forM Event.assert = some () := by
  induction events with
  | nil => rfl
  | cons event rest ih =>
      cases event with
      | reported issue => exact ih filled
      | declared declaration =>
          have each := List.forall_mem_cons.mp filled
          have asserted : Event.assert (.declared declaration) = some () := by
            cases declaration with
            | attr attr => exact Attribute.assertNamed_eq (each.1 _ List.mem_cons_self)
            | objectClass declared => rfl
            | binding declared => rfl
          rw [List.forM_eq_forM, List.forM_cons, asserted]
          exact ih each.2

/-- Whatever lines are read, no string of a draft or a declaration is empty. -/
theorem kept_filled :
    Kept (fun _ => True) (Draft.All (· ≠ ""))
      fun declaration => ∀ given ∈ declaration.strings, given ≠ "" where
  empty := Draft.all_empty
  line all _ _ _ := Draft.all_read all fun _ => Yields.ne_empty
  close := Draft.all_close

namespace State

/-- The step that stops where a line declares an attribute without a name. -/
def step? (state : State) (line : Line) : Option (State × List Event) := do
  (state.step line).2.forM Event.assert
  return state.step line

/-- Decoding that stops where an attribute is made without a name. -/
def decode? (state : State) (inputs : List Input) : Option Decoded :=
  decodeWith step? Schema.lookupOrSynthesize? state inputs

private theorem step?_eq {state : State} (keeps : ∀ draft ∈ state.draft?, draft.All (· ≠ ""))
    (line : Line) : state.step? line = some (state.step line) := by
  rw [step?, forM_assert (kept_filled.step keeps trivial).2]
  rfl

private theorem stepsWith_asserted {state : State}
    (keeps : ∀ draft ∈ state.draft?, draft.All (· ≠ ""))
    (lines : List Line) : stepsWith step? state lines = some (state.steps lines) := by
  induction lines generalizing state with
  | nil => rfl
  | cons line rest ih =>
      rw [stepsWith, step?_eq keeps, Option.bind_eq_bind, Option.bind_some]
      dsimp only
      rw [ih (kept_filled.step keeps trivial).1]
      rfl

end State

/-- What the decoder stores, at every moment of its work on texts. -/
structure StoresClean (earlier : State) (inputs : List Input) : Prop where
  /-- What has been read of the block that is open, after any number of lines. -/
  drafts : ∀ {before after}, linesOf inputs = before ++ after →
    ∀ draft ∈ (earlier.reset.steps before).1.draft?, draft.All Clean
  declared : ∀ declaration ∈ declarations (earlier.reset.run (linesOf inputs)),
    ∀ given ∈ declaration.strings, Clean given
  resolved : ∀ given ∈ (earlier.decode inputs).schema.strings, Clean given
  linked : ∀ owner ∈ (earlier.decode inputs).schema.objectClasses, ∀ linked ∈ owner.attributes,
    ∀ given ∈ linked.attr.strings, Clean given
  keys : ∀ entry ∈ (earlier.decode inputs).schema.attributes, entry.1 ≠ ""
  /-- No attribute is made without a name. -/
  asserted : earlier.decode? inputs = some (earlier.decode inputs)

section Stored

variable {inputs : List Input}

theorem declared_clean (inputs : List Input) :
    ∀ declaration ∈ declarations (events (linesOf inputs)),
      ∀ given ∈ declaration.strings, Clean given := fun _ =>
  (kept_all Clean).of_mem_declarations fun _ => clean_of_line

theorem stored_clean (inputs : List Input) :
    ∀ given ∈ (declareAll {} (events (linesOf inputs))).strings, Clean given := by
  intro given written
  obtain ⟨line, member, significant, yields⟩ := exists_line_of_mem_strings written
  exact clean_of_line member significant given yields

/-- Classes are declared without links. -/
theorem unlinked_of_declared {owner : ObjectClass}
    (member : owner ∈ (declareAll {} (events (linesOf inputs))).objectClasses) :
    owner.attributes = [] := by
  rw [declareAll_eq, Schema.objectClasses_declareEach, List.nil_append] at member
  obtain ⟨declaration, made, found⟩ := List.mem_filterMap.mp member
  have unlinked := kept_unlinked.of_mem_declarations (fun _ _ => trivial) made
  cases declaration with
  | objectClass declared =>
      cases found
      exact unlinked
  | attr declared => cases found
  | binding declared => cases found

theorem linked_clean {owner : ObjectClass} {linked : Instance} {given : String}
    (member : owner ∈ (decodeLines (linesOf inputs)).schema.objectClasses)
    (link : linked ∈ owner.attributes) (written : given ∈ linked.attr.strings) : Clean given := by
  rw [decodeLines, Schema.objectClasses_resolve] at member
  obtain ⟨declared, among, rfl⟩ := List.mem_map.mp member
  obtain ⟨key, registered⟩ := Schema.exists_entry_of_linked (unlinked_of_declared among) link
  exact stored_clean inputs given (Schema.mem_strings_of_grown registered written)

theorem key_ne_empty {entry : String × Instance}
    (member : entry ∈ (decodeLines (linesOf inputs)).schema.attributes) : entry.1 ≠ "" := by
  have sound : (decodeLines (linesOf inputs)).schema.Sound := by
    rw [decodeLines, declareAll_eq]
    exact (Schema.sound_empty.declareEach _).resolve
  have named : entry.2.attr.name ≠ "" := by
    rw [decodeLines, Schema.resolve_eq] at member
    have written := Schema.mem_strings_of_grown member (List.mem_cons_self ..)
    exact (stored_clean inputs _ written).ne_empty
  rw [sound.keyed entry member, Attribute.key, Text.fold]
  intro none
  rw [← String.toList_eq_nil_iff, String.toList_ofList, List.map_eq_nil_iff,
    String.toList_eq_nil_iff] at none
  exact named none

theorem decode?_eq (earlier : State) (inputs : List Input) :
    earlier.decode? inputs = some (earlier.decode inputs) := by
  have idle : ∀ draft ∈ earlier.reset.draft?, draft.All (· ≠ "") :=
    State.forall_of_draft?_eq_none rfl
  have named : ∀ reference ∈ (declareAll {} (events (linesOf inputs))).references,
      reference.name ≠ "" := fun reference member =>
    (stored_clean inputs _ (Schema.name_mem_strings member)).ne_empty
  have ran : State.runWith State.step? earlier.reset (linesOf inputs) =
      some (events (linesOf inputs)) := by
    rw [State.runWith, State.stepsWith_asserted idle]
    rfl
  rw [State.decode?, State.decodeWith, ran, Option.bind_eq_bind, Option.bind_some,
    Schema.resolveWith_asserted named]
  rfl

end Stored

/-- Whatever texts are decoded, what is stored of them is clean. -/
theorem decode_stores_clean (earlier : State) (inputs : List Input) :
    StoresClean earlier inputs where
  drafts := by
    intro before after split
    apply (kept_all Clean).draft (State.forall_of_draft?_eq_none rfl)
    intro line member
    exact clean_of_line (split ▸ List.mem_append_left after member)
  declared := declared_clean inputs
  resolved := fun given written =>
    stored_clean inputs given (Schema.mem_strings_resolve written)
  linked := fun _ member _ link _ written => linked_clean member link written
  keys := fun _ member => key_ne_empty member
  asserted := decode?_eq earlier inputs

end Decoder
end DirSchema
