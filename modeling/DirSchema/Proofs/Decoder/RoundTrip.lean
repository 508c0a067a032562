import DirSchema.Proofs.Decoder.Canonical.Fields
set_option autoImplicit false

namespace DirSchema.Decoder.Canonical

open DirSchema.Source (Line IsLine)

namespace Block

instance (block : AttributeBlock) : Decidable block.WellFormed :=
  inferInstanceAs (Decidable (_ ∧ _))

instance (block : ClassBlock) : Decidable block.WellFormed :=
  inferInstanceAs (Decidable (_ ∧ _))

instance (block : BindingBlock) : Decidable block.WellFormed :=
  inferInstanceAs (Decidable (_ ∧ _))

instance : (block : Block) → Decidable block.WellFormed
  | .attr block => inferInstanceAs (Decidable block.WellFormed)
  | .objectClass block => inferInstanceAs (Decidable block.WellFormed)
  | .binding block => inferInstanceAs (Decidable block.WellFormed)

private theorem isName_identifier (block : Block) (valid : block.WellFormed) :
    IsName block.identifier := by
  cases block with
  | attr block => exact valid.1
  | objectClass block => exact valid.1
  | binding block =>
      change IsName (block.name.getD block.ldapName)
      cases named : block.name with
      | none => exact valid.2.1
      | some name => exact valid.1 name named

theorem isName_word (kind : BlockKind) : IsName kind.word := by
  cases kind with
  | attr => decide
  | objectClass => decide
  | binding kind => cases kind <;> decide

private theorem ofWord?_word (kind : BlockKind) :
    BlockKind.ofWord? kind.word.toList = some kind := by
  cases kind with
  | attr => decide
  | objectClass => decide
  | binding kind => cases kind <;> decide

/-- The header of a block opens a block of its kind. -/
theorem ofLine?_header (block : Block) :
    Header.ofLine? block.header = some { kind := some block.kind, opening := .opened } := by
  have word := isName_word block.kind
  let rest := block.kind.word.toList ++ ' ' :: (block.identifier.toList ++ [' ', '=', ' '])
  have start : Text.trimStart (rest ++ ['\x7b']) = rest ++ ['\x7b'] := by
    apply Text.trimStart_eq_self
    rw [List.append_assoc, List.head?_append_of_ne_nil _ word.1]
    exact word.isValue.trimmed.start
  have after : Header.afterSet? block.header = some (rest ++ ['\x7b']) := by
    change (if Text.isBlank ' ' = true then some (Text.trimStart (rest ++ ['\x7b'])) else none) = _
    rw [start]
    rfl
  have opening : Header.openingOf (rest ++ ['\x7b']) = (.opened, rest) := by
    simp [Header.openingOf, Text.beforeLast?]
  have first : Text.firstWord? rest = some block.kind.word.toList :=
    Text.firstWord?_append _ _ _ word.1 (fun c member => (word.isKeyword c member).1) (by decide)
  simp [Header.ofLine?, after, opening, first, ofWord?_word]

private theorem isLine_header (block : Block) (valid : block.WellFormed) : IsLine block.header := by
  have word := isName_word block.kind
  have identifier := isName_identifier block valid
  refine ⟨by simp [header], ?_, ?_⟩
  · rw [header, List.append_assoc]
    have start := (Text.trim_eq_self_iff ['s', 'e', 't']).mp (by decide)
    have stop := (Text.trim_eq_self_iff ['\x7b']).mp (by decide)
    exact start.join (by simp) stop (by simp) _
  · simp [header, word.isValue.2.2.1, identifier.isValue.2.2.1]

private theorem isLine_lines (block : Block) (valid : block.WellFormed) :
    ∀ text ∈ block.lines, IsLine text := by
  have body : ∀ text ∈ block.body, IsLine text := by
    cases block with
    | attr block => exact block.isLine_body valid
    | objectClass block => exact block.isLine_body valid
    | binding block => exact block.isLine_body valid
  intro text member
  rcases List.mem_cons.mp member with rfl | later
  · exact isLine_header block valid
  · rcases List.mem_append.mp later with inside | closing
    · exact body text inside
    · rw [List.mem_singleton.mp closing]
      exact ⟨by simp, (Text.trim_eq_self_iff _).mp (by decide), by decide⟩

def draft : Block → Draft
  | .attr block => .attr block.draft
  | .objectClass block => .objectClass block.draft
  | .binding block => .binding block.kind block.draft

private theorem reads_body (block : Block) (valid : block.WellFormed) :
    Reads (Draft.empty block.kind) block.body block.draft := by
  cases block with
  | attr block => exact block.reads_body valid
  | objectClass block => exact block.reads_body valid
  | binding block => exact block.reads_body valid

private theorem close_draft (block : Block) (origin : Coord) :
    block.draft.close origin = .ok (block.declaration origin) := by
  cases block with
  | attr block => rfl
  | objectClass block =>
      simp only [draft, Draft.close, ClassDraft.close, ClassBlock.draft, foldl_insertName]
      rfl
  | binding block => rfl

/-- A block that is read from outside of every block declares itself and is left again. -/
theorem steps_lines (block : Block) (valid : block.WellFormed) (file offset : Nat) :
    State.idle.steps (Line.place file offset block.lines) =
      (.idle, [.declared (block.declaration
        { file, start := offset, stop := offset + Text.byteLength block.header })]) := by
  rw [lines, Line.place, State.steps_cons, State.step_idle _ rfl]
  simp only [State.stepIdle, ofLine?_header, State.opened]
  rw [Line.place_append, State.steps_append,
    reads_body block valid _ _ (Line.map_text_place _ _ _)]
  simp only [Line.place, State.steps_cons, State.steps_nil]
  rw [State.step_reading _ _ _ rfl, State.stepReading, if_pos (by rfl), close_draft]
  rfl

end Block

theorem steps_print (file offset : Nat) (blocks : List Block)
    (valid : ∀ block ∈ blocks, block.WellFormed) :
    State.idle.steps (Line.place file offset (blocks.flatMap Block.lines)) =
      (.idle, (declared file offset blocks).map .declared) := by
  induction blocks generalizing offset with
  | nil => rfl
  | cons block rest ih =>
      have first := block.steps_lines (valid block List.mem_cons_self) file offset
      have others := ih (offset + Text.byteLength (Line.written block.lines))
        fun block member => valid block (List.mem_cons_of_mem _ member)
      rw [List.flatMap_cons, Line.place_append, State.steps_append, first, others]
      rfl

theorem linesOf_print (file : Nat) (blocks : List Block)
    (valid : ∀ block ∈ blocks, block.WellFormed) :
    linesOf [{ file, text := print blocks }] =
      Line.place file 0 (blocks.flatMap Block.lines) := by
  rw [linesOf, List.flatMap_singleton, print]
  apply Line.ofText_written
  intro text member
  obtain ⟨block, known, inside⟩ := List.mem_flatMap.mp member
  exact block.isLine_lines (valid block known) text inside

/-- Decoding is the inverse of printing. A text of canonical blocks leads to their declarations, in
order and with nothing to report. The schema has every class, and one attribute for each folded name
and one binding for each class name, which stands where the name came first and is the last one
declared with it. -/
theorem decode_print (file : Nat) (blocks : List Block)
    (valid : ∀ block ∈ blocks, block.WellFormed) :
    let events := events (linesOf [{ file, text := print blocks }])
    let schema := declareAll {} events
    let declared := declared file 0 blocks
    let attributes := declared.filterMap Declaration.attr?
    let bindings := declared.filterMap Declaration.binding?
    diagnostics events = [] ∧
      declarations events = declared ∧
      schema = declared.foldl Schema.declare {} ∧
      schema.objectClasses = declared.filterMap Declaration.objectClass? ∧
      schema.attributes.map Prod.fst = (attributes.map fun attr => Text.fold attr.name).eraseDups ∧
      (∀ name, (schema.attribute? name).map Instance.attr =
        attributes.reverse.find? fun attr => Text.sameName attr.name name) ∧
      schema.bindings.map Prod.fst = (bindings.map Binding.ldapName).eraseDups ∧
      ∀ name, schema.bindingFor? name =
        bindings.reverse.find? fun binding => binding.ldapName == name := by
  have run : events (linesOf [{ file, text := print blocks }]) =
      (declared file 0 blocks).map .declared := by
    rw [events, linesOf_print file blocks valid, State.run_eq, steps_print file 0 blocks valid]
    exact List.append_nil _
  simp only [run, diagnostics_declared, declarations_declared, declareAll_eq]
  have attributes := Schema.attributes_declareEach {} (declared file 0 blocks)
  have bindings := Schema.bindings_declareEach {} (declared file 0 blocks)
  refine ⟨trivial, trivial, rfl, ?_, ?_, ?_, ?_, ?_⟩
  · exact Schema.objectClasses_declareEach {} (declared file 0 blocks)
  · have keys := congrArg (List.map Prod.fst) attributes
    rw [List.map_map, List.map_nil, keys_register] at keys
    exact keys
  · intro name
    rw [Schema.attribute?, ← lookup_map, attributes, List.map_nil, lookup_register]
    rfl
  · rw [bindings, keys_register]
  · intro name
    rw [Schema.bindingFor?, bindings, lookup_register]

/-- An attribute that is declared twice, a class with a name listed twice, and a binding that is
named for its class. -/
def sample : List Block :=
  [.attr { name := "cn", alternateNames := some "common name; = 2.5.4.3" },
    .objectClass
      { name := "person", subclassOf := some "top", kind := some "structural"
        required := ["sn", "cn", "sn"] },
    .attr { name := "CN", valueSyntax := .octetString, multiValued := some false },
    .binding
      { kind := .nameBinding, ldapName := "person", allowableParent := "organization"
        namedBy := "cn" }]

theorem decode_print_sample :
    let events := events (linesOf [{ file := 0, text := print sample }])
    let schema := declareAll {} events
    (∀ block ∈ sample, block.WellFormed) ∧
      diagnostics events = [] ∧
      schema.objectClasses =
        [{ name := "person", subclassOf := some "top", kind := some "structural"
           requiredNames := ["sn", "cn"], origin := some ⟨0, 70, 97⟩ }] ∧
      schema.attributes.map Prod.fst = ["cn"] ∧
      (schema.attribute? "cN").map Instance.attr =
        some { name := "CN", valueSyntax := .octetString, multiValued := false
               origin := some ⟨0, 175, 195⟩ } ∧
      schema.bindingFor? "person" =
        some { bindingName := "person", ldapName := "person", allowableParent := "organization"
               namedBy := "cn", origin := some ⟨0, 244, 271⟩ } := by
  have valid : ∀ block ∈ sample, block.WellFormed := by decide
  obtain ⟨silent, -, -, classes, keys, attributes, -, bindings⟩ := decode_print 0 sample valid
  refine ⟨valid, silent, classes.trans ?_, keys.trans ?_, (attributes "cN").trans ?_,
    (bindings "person").trans ?_⟩
  all_goals decide

end DirSchema.Decoder.Canonical
