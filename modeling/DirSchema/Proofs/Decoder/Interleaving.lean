import DirSchema.Proofs.Decoder.Blocks
import DirSchema.Proofs.Decoder.Significance
import DirSchema.Proofs.Model.Relocation
import DirSchema.Proofs.Schema.Resolution
set_option autoImplicit false

/-!
Interleavings of blocks. What a complete block leads to depends on the block alone, and declarations
of different kinds commute; so of the order of complete blocks only the order within each kind
matters, and a class may refer to attributes and classes that are declared after it.
-/
namespace DirSchema

/-- Whether a diagnostic is the warning that an attribute was synthesized. -/
def Diagnostic.synthesizes (diagnostic : Diagnostic) : Bool :=
  diagnostic.code == some Code.synthesizedAttribute.name

namespace Decoder

open DirSchema.Source (Line)

/-- The lines of a header that opens a block: one that ends in a brace, or one that a brace follows
on a line of its own. -/
inductive Opens (kind : BlockKind) : List (List Char) → Prop
  | atOnce {header : List Char} (opened : Header.ofLine? header = some ⟨some kind, .opened⟩) :
      Opens kind [header]
  | onNextLine {header : List Char}
      (awaits : Header.ofLine? header = some ⟨some kind, .awaitingBrace⟩) {brace : List Char}
      (isBrace : isBrace brace = true) : Opens kind [header, brace]

theorem Opens.isSome_header {kind : BlockKind} {header : List Char} {rest : List (List Char)}
    (opens : Opens kind (header :: rest)) : (Header.ofLine? header).isSome = true := by
  cases opens with
  | atOnce opened => rw [opened]; rfl
  | onNextLine awaits _ => rw [awaits]; rfl

/-- A complete block: a header that opens it, lines none of which ends it or is a header, and a line
that ends it. -/
structure Block where
  kind : BlockKind
  opening : List (List Char)
  body : List (List Char)
  ending : List Char
  opens : Opens kind opening
  inside : ∀ text ∈ body, isBlockEnd text = false ∧ Header.ofLine? text = none
  ends : isBlockEnd ending = true

def Block.texts (block : Block) : List (List Char) :=
  block.opening ++ (block.body ++ [block.ending])

def linesAt (place : Coord) (texts : List (List Char)) : List Line :=
  texts.map fun text => { text, coord := place }

/-- Three sequences of blocks, of attributes, classes and bindings, in one sequence that keeps the
order of each. -/
inductive Interleaving : List Block → List Block → List Block → List Block → Prop
  | nil : Interleaving [] [] [] []
  | attr {block : Block} {attrs classes bindings woven : List Block} (kind : block.kind = .attr)
      (rest : Interleaving attrs classes bindings woven) :
      Interleaving (block :: attrs) classes bindings (block :: woven)
  | objectClass {block : Block} {attrs classes bindings woven : List Block}
      (kind : block.kind = .objectClass) (rest : Interleaving attrs classes bindings woven) :
      Interleaving attrs (block :: classes) bindings (block :: woven)
  | binding {block : Block} {attrs classes bindings woven : List Block} {spelling : BindingKind}
      (kind : block.kind = .binding spelling)
      (rest : Interleaving attrs classes bindings woven) :
      Interleaving attrs classes (block :: bindings) (block :: woven)

theorem isSignificant_of_header {line : Line} {header : Header}
    (found : Header.ofLine? line.text = some header) : line.isSignificant = true := by
  have starts : ∃ rest, Header.afterSet? line.text = some rest := by
    cases after : Header.afterSet? line.text with
    | none =>
        rw [Header.ofLine?, after] at found
        cases found
    | some rest => exact ⟨rest, rfl⟩
  obtain ⟨rest, starts⟩ := starts
  rw [Line.isSignificant]
  rw [Header.afterSet?] at starts
  cases chars : line.text with
  | nil =>
      rw [chars] at starts
      cases starts
  | cons first others =>
      by_cases comment : first = '#'
      · rw [chars, comment] at starts
        cases starts
      · simpa using comment

theorem isSignificant_of_isBlockEnd {line : Line} (ends : isBlockEnd line.text = true) :
    line.isSignificant = true := by
  rw [isBlockEnd, Bool.or_eq_true, beq_iff_eq, beq_iff_eq] at ends
  rcases ends with same | same <;> rw [Line.isSignificant, same] <;> rfl

theorem isSignificant_of_isBrace {line : Line} (brace : isBrace line.text = true) :
    line.isSignificant = true := by
  rw [isBrace, beq_iff_eq] at brace
  rw [Line.isSignificant, brace]
  rfl

/-- A header that opens a block leads from outside of every block into it. -/
theorem steps_opens {kind : BlockKind} (header : Line) (rest : List Line)
    (opens : Opens kind (header.text :: rest.map (·.text))) :
    State.idle.steps (header :: rest) = (.reading header.coord (.empty kind), []) := by
  generalize shape : header.text :: rest.map (·.text) = texts at opens
  cases opens with
  | @atOnce text opened =>
      obtain ⟨rfl, none⟩ := List.cons_eq_cons.mp shape
      have significant : header.isSignificant = true := isSignificant_of_header opened
      rw [List.map_eq_nil_iff.mp none, State.steps_cons, State.step_idle _ significant,
        State.stepIdle, opened]
      rfl
  | @onNextLine text awaits brace isBrace =>
      obtain ⟨rfl, one⟩ := List.cons_eq_cons.mp shape
      obtain ⟨second, rfl, rfl⟩ := List.map_eq_singleton_iff.mp one
      have significant : header.isSignificant = true := isSignificant_of_header awaits
      have following : second.isSignificant = true := isSignificant_of_isBrace isBrace
      have waiting : State.idle.step header = (.awaitingBrace (some kind) header.coord, []) := by
        rw [State.step_idle _ significant, State.stepIdle, awaits]
      rw [State.steps_cons, waiting, State.steps_cons,
        State.step_awaitingBrace _ _ _ following, if_pos isBrace]
      rfl

private theorem steps_opening {kind : BlockKind} {opening : List (List Char)}
    (opens : Opens kind opening)
    (place : Coord) :
    State.idle.steps (linesAt place opening) = (.reading place (.empty kind), []) := by
  obtain ⟨header, rest, rfl⟩ : ∃ header rest, opening = header :: rest := by
    cases opens <;> exact ⟨_, _, rfl⟩
  have same : (linesAt place rest).map (·.text) = rest := by simp [linesAt, Function.comp_def]
  exact steps_opens ⟨header, place⟩ (linesAt place rest) (same.symm ▸ opens)

/-- Lines inside of a block keep it open and declare nothing; what they lead to are notes about
them. -/
theorem steps_body {body : List Line}
    (inside : ∀ line ∈ body, isBlockEnd line.text = false ∧ Header.ofLine? line.text = none)
    (origin : Coord) (draft : Draft) :
    ∃ (read : Draft) (issues : List Issue), read.kind = draft.kind ∧
      (∀ issue ∈ issues, ∃ line ∈ body, issue.noted? = some line.coord) ∧
      (State.reading origin draft).steps body = (.reading origin read, issues.map .reported) := by
  induction body generalizing draft with
  | nil => exact ⟨draft, [], rfl, nofun, rfl⟩
  | cons line rest ih =>
      rw [List.forall_mem_cons] at inside
      have step : ∃ (read : Draft) (issues : List Issue), read.kind = draft.kind ∧
          (∀ issue ∈ issues, issue.noted? = some line.coord) ∧
          (State.reading origin draft).step line =
            (.reading origin read, issues.map .reported) := by
        by_cases significant : line.isSignificant = true
        · refine ⟨(draft.read line).1, (draft.read line).2, draft.kind_read _,
            draft.read_notes line, ?_⟩
          rw [State.step_reading _ _ _ significant, State.stepReading, inside.1.1, inside.1.2]
          rfl
        · exact ⟨draft, [], rfl, nofun,
            State.step_insignificant _ _ (Bool.eq_false_iff.mpr significant)⟩
      obtain ⟨read, issues, kind, notes, stepped⟩ := step
      obtain ⟨last, more, sameKind, moreNotes, steps⟩ := ih inside.2 read
      refine ⟨last, issues ++ more, sameKind.trans kind, ?_, ?_⟩
      · intro issue member
        rcases List.mem_append.mp member with here | later
        · exact ⟨line, List.mem_cons_self, notes issue here⟩
        · obtain ⟨other, among, noted⟩ := moreNotes issue later
          exact ⟨other, List.mem_cons_of_mem _ among, noted⟩
      · rw [State.steps_cons, stepped, steps, List.map_append]

def Block.events (place : Coord) (block : Block) : List Event :=
  (State.idle.steps (linesAt place block.texts)).2

/-- A complete block leaves no block open, and declares only what blocks of its kind do. -/
theorem Block.steps_eq (place : Coord) (block : Block) :
    State.idle.steps (linesAt place block.texts) = (.idle, block.events place) ∧
      ∀ declaration ∈ declarations (block.events place),
        block.kind.declares declaration = true := by
  have inside : ∀ line ∈ linesAt place block.body,
      isBlockEnd line.text = false ∧ Header.ofLine? line.text = none :=
    List.forall_mem_map.mpr block.inside
  obtain ⟨read, issues, kind, -, body⟩ := steps_body inside place (.empty block.kind)
  have sameKind : read.kind = block.kind := by
    rw [kind]
    cases block.kind <;> rfl
  have significant : (Line.mk block.ending place).isSignificant = true :=
    isSignificant_of_isBlockEnd block.ends
  have closed : ∃ last : Event, (State.reading place read).step ⟨block.ending, place⟩ =
      (.idle, [last]) ∧ ∀ declaration ∈ declarations [last],
        block.kind.declares declaration = true := by
    rw [State.step_reading _ _ _ significant, State.stepReading, if_pos block.ends]
    rcases read.close_cases place with ⟨declared, close, -, declares⟩ | ⟨missing, close⟩
    · rw [close]
      refine ⟨.declared declared, rfl, ?_⟩
      rw [← sameKind]
      exact List.forall_mem_singleton.mpr declares
    · rw [close]
      exact ⟨.reported _, rfl, fun declaration member => absurd member List.not_mem_nil⟩
  obtain ⟨last, step, declares⟩ := closed
  have whole : State.idle.steps (linesAt place block.texts) =
      (.idle, issues.map .reported ++ [last]) := by
    rw [linesAt, Block.texts, List.map_append, List.map_append, State.steps_append]
    have opening := steps_opening block.opens place
    rw [linesAt] at opening body
    rw [opening, State.steps_append, body, List.map_singleton, State.steps_cons, step]
    rfl
  rw [Block.events, whole]
  refine ⟨rfl, ?_⟩
  rw [declarations_append, declarations_reported, List.nil_append]
  exact declares

private theorem linesAt_append (place : Coord) (first second : List (List Char)) :
    linesAt place (first ++ second) = linesAt place first ++ linesAt place second :=
  List.map_append

/-- Complete blocks lead, one after another, to what each leads to. -/
theorem steps_blocks (place : Coord) (blocks : List Block) :
    State.idle.steps (linesAt place (blocks.flatMap Block.texts)) =
      (.idle, blocks.flatMap (Block.events place)) := by
  induction blocks with
  | nil => rfl
  | cons block rest ih =>
      rw [List.flatMap_cons, List.flatMap_cons, linesAt_append, State.steps_append,
        (block.steps_eq place).1, ih]

theorem events_blocks (place : Coord) (blocks : List Block) :
    events (linesAt place (blocks.flatMap Block.texts)) = blocks.flatMap (Block.events place) := by
  rw [events, State.run_eq, steps_blocks]
  exact List.append_nil _

def declaredBy (place : Coord) (blocks : List Block) : List Declaration :=
  declarations (blocks.flatMap (Block.events place))

private theorem declaredBy_cons (place : Coord) (block : Block) (rest : List Block) :
    declaredBy place (block :: rest) =
      declarations (block.events place) ++ declaredBy place rest := by
  rw [declaredBy, List.flatMap_cons, declarations_append]
  rfl

/-- A block of one kind declares nothing of another. -/
theorem filterMap_declarations (place : Coord) (block : Block) :
    (block.kind ≠ .attr →
        (declarations (block.events place)).filterMap Declaration.attr? = []) ∧
      (block.kind ≠ .objectClass →
        (declarations (block.events place)).filterMap Declaration.objectClass? = []) ∧
      ((∀ spelling, block.kind ≠ .binding spelling) →
        (declarations (block.events place)).filterMap Declaration.binding? = []) := by
  have declares := (block.steps_eq place).2
  refine ⟨fun other => ?_, fun other => ?_, fun other => ?_⟩ <;>
  · refine List.filterMap_eq_nil_iff.mpr fun declaration member => ?_
    have own := declares declaration member
    cases kind : block.kind <;> cases declaration <;>
      simp_all [BlockKind.declares, Declaration.attr?, Declaration.objectClass?,
        Declaration.binding?]

section
variable {attrs classes bindings blocks : List Block}

/-- Each kind of declaration is made in an interleaving as in the sequence of its blocks. -/
theorem Interleaving.declaredBy_eq (woven : Interleaving attrs classes bindings blocks)
    (place : Coord) :
    (declaredBy place blocks).filterMap Declaration.attr? =
        (declaredBy place attrs).filterMap Declaration.attr? ∧
      (declaredBy place blocks).filterMap Declaration.objectClass? =
        (declaredBy place classes).filterMap Declaration.objectClass? ∧
      (declaredBy place blocks).filterMap Declaration.binding? =
        (declaredBy place bindings).filterMap Declaration.binding? := by
  induction woven with
  | nil => exact ⟨rfl, rfl, rfl⟩
  | @attr block _ _ _ _ kind rest ih =>
      obtain ⟨-, classes, bindings⟩ := filterMap_declarations place block
      rw [kind] at classes bindings
      simp only [declaredBy_cons, List.filterMap_append, classes nofun, bindings nofun,
        List.nil_append, ih, and_self]
  | @objectClass block _ _ _ _ kind rest ih =>
      obtain ⟨attrs, -, bindings⟩ := filterMap_declarations place block
      rw [kind] at attrs bindings
      simp only [declaredBy_cons, List.filterMap_append, attrs nofun, bindings nofun,
        List.nil_append, ih, and_self]
  | @binding block _ _ _ _ spelling kind rest ih =>
      obtain ⟨attrs, classes, -⟩ := filterMap_declarations place block
      rw [kind] at attrs classes
      simp only [declaredBy_cons, List.filterMap_append, attrs nofun, classes nofun,
        List.nil_append, ih, and_self]

/-- An interleaving has the blocks of the three sequences. -/
theorem Interleaving.perm (woven : Interleaving attrs classes bindings blocks) :
    blocks.Perm (attrs ++ (classes ++ bindings)) := by
  induction woven with
  | nil => exact .nil
  | attr _ _ ih => exact ih.cons _
  | objectClass _ _ ih => exact (ih.cons _).trans List.perm_middle.symm
  | @binding block attrs classes bindings woven _ _ _ ih =>
      rw [← List.append_assoc] at ih ⊢
      exact (ih.cons _).trans List.perm_middle.symm

variable {others : List Block} (woven : Interleaving attrs classes bindings blocks)
  (otherwise : Interleaving attrs classes bindings others) (place : Coord)
include woven otherwise

/-- Interleavings of the same sequences declare the same schema. -/
theorem declareAll_interleavings :
    declareAll {} (blocks.flatMap (Block.events place)) =
      declareAll {} (others.flatMap (Block.events place)) := by
  obtain ⟨attr, objectClass, binding⟩ := woven.declaredBy_eq place
  obtain ⟨otherAttr, otherClass, otherBinding⟩ := otherwise.declaredBy_eq place
  have split (blocks : List Block) : declareAll {} (blocks.flatMap (Block.events place)) =
      Schema.declareEach {} (declaredBy place blocks) := declareAll_eq _ _
  rw [split, split, Schema.declareEach_eq, Schema.declareEach_eq, attr, objectClass, binding,
    otherAttr, otherClass, otherBinding]

/-- Interleavings of the same sequences give the same issues, in some order. -/
theorem diagnostics_interleavings :
    (diagnostics (blocks.flatMap (Block.events place))).Perm
      (diagnostics (others.flatMap (Block.events place))) :=
  ((woven.perm.trans otherwise.perm.symm).flatMap_right _).filterMap _

end

/-- The texts that are neither blank nor comments. -/
def significantOf (texts : List (List Char)) : List (List Char) :=
  texts.filter fun text => text ≠ [] ∧ text.head? ≠ some '#'

/-- Blank lines and comments may stand anywhere, also inside of blocks. -/
theorem decodeLines_significantOf (place : Coord) (texts : List (List Char)) :
    decodeLines (linesAt place (significantOf texts)) = decodeLines (linesAt place texts) := by
  rw [← decodeLines_significant (linesAt place texts), linesAt, linesAt, significantOf,
    List.filter_map]
  congr 2
  refine List.filter_congr fun text _ => ?_
  rw [Function.comp_apply, Line.isSignificant_eq]

/-- Files are decoded, but for where things stand, as if their significant lines all stood at one
place. -/
theorem decode_relocate_eq (state : State) (inputs : List Input) (place : Coord) :
    (state.decode inputs).relocate (fun _ => place) =
      decodeLines (linesAt place (significantTexts inputs)) := by
  rw [State.decode_eq, ← decodeLines_significant, ← decodeLines_relocate, significantTexts_eq,
    linesAt, List.map_map]
  rfl

/-- What the decoder itself reports is never that an attribute was synthesized, and resolution
reports nothing else; so diagnostics tell which of the two reported them. -/
theorem filter_synthesizes (lines : List Line) :
    (decodeLines lines).diagnostics.filter (!·.synthesizes) = diagnostics (events lines) ∧
      (decodeLines lines).diagnostics.filter (·.synthesizes) =
        (declareAll {} (events lines)).resolve.2 := by
  have own : ∀ diagnostic ∈ diagnostics (events lines), diagnostic.synthesizes = false := by
    intro diagnostic member
    obtain ⟨event, -, reported⟩ := List.mem_filterMap.mp member
    cases event with
    | declared declaration => cases reported
    | reported issue =>
        cases reported
        cases issue <;> rfl
  have warnings : ∀ diagnostic ∈ (declareAll {} (events lines)).resolve.2,
      diagnostic.synthesizes = true := by
    intro diagnostic member
    rw [Schema.resolve_eq] at member
    obtain ⟨reference, -, rfl⟩ := List.mem_map.mp member
    rfl
  rw [decodeLines, List.filter_append, List.filter_append]
  constructor
  · rw [List.filter_eq_self.mpr fun diagnostic member => by rw [own diagnostic member]; rfl,
      List.filter_eq_nil_iff.mpr fun diagnostic member => by simp [warnings diagnostic member],
      List.append_nil]
  · rw [List.filter_eq_self.mpr warnings,
      List.filter_eq_nil_iff.mpr fun diagnostic member => by simp [own diagnostic member],
      List.nil_append]

/-- The diagnostics of files with complete blocks, but for where things stand. -/
theorem diagnostics_decode_blocks (state : State) {inputs : List Input} {blocks : List Block}
    (texts : significantTexts inputs = significantOf (blocks.flatMap Block.texts))
    (place : Coord) :
    ((state.decode inputs).diagnostics.filter (!·.synthesizes)).map
          (Diagnostic.relocate fun _ => place) =
        diagnostics (blocks.flatMap (Block.events place)) ∧
      ((state.decode inputs).diagnostics.filter (·.synthesizes)).map
          (Diagnostic.relocate fun _ => place) =
        (declareAll {} (blocks.flatMap (Block.events place))).resolve.2 := by
  have decoded := decode_relocate_eq state inputs place
  rw [texts, decodeLines_significantOf] at decoded
  have moved : (state.decode inputs).diagnostics.map (Diagnostic.relocate fun _ => place) =
      (decodeLines (linesAt place (blocks.flatMap Block.texts))).diagnostics :=
    congrArg Decoded.diagnostics decoded
  obtain ⟨own, warnings⟩ := filter_synthesizes (linesAt place (blocks.flatMap Block.texts))
  rw [events_blocks] at own warnings
  rw [← own, ← warnings, ← moved, List.filter_map, List.filter_map]
  exact ⟨rfl, rfl⟩

/-- The schema of files with complete blocks, but for where things stand. -/
theorem schema_decode_blocks (state : State) {inputs : List Input} {blocks : List Block}
    (texts : significantTexts inputs = significantOf (blocks.flatMap Block.texts))
    (place : Coord) :
    (state.decode inputs).schema.relocate (fun _ => place) =
      (declareAll {} (blocks.flatMap (Block.events place))).resolve.1 := by
  have decoded := decode_relocate_eq state inputs place
  rw [texts, decodeLines_significantOf] at decoded
  rw [← events_blocks]
  exact congrArg Decoded.schema decoded

/-- Models do not tell where things stand. -/
theorem models_relocate (schema : Schema) (move : Coord → Coord) (package : String)
    (kind : ArtifactKind) :
    (schema.relocate move).objectClasses.map
        (fun owner => Model.ofClass (schema.relocate move) owner package kind) =
      schema.objectClasses.map fun owner => Model.ofClass schema owner package kind := by
  rw [Schema.relocate, List.map_map]
  exact List.map_congr_left fun owner _ => Model.ofClass_relocate move schema owner package kind

/-- Files with the same sequences of blocks, however these are interleaved, are decoded to the same
schema but for where things stand. The decoder reports the same in some order, resolution in this
order, and the models are equal. -/
theorem decode_interleavings (firstState secondState : State)
    {attrs classes bindings firstBlocks secondBlocks : List Block}
    (firstWoven : Interleaving attrs classes bindings firstBlocks)
    (secondWoven : Interleaving attrs classes bindings secondBlocks) {first second : List Input}
    (firstTexts : significantTexts first = significantOf (firstBlocks.flatMap Block.texts))
    (secondTexts : significantTexts second = significantOf (secondBlocks.flatMap Block.texts))
    (place : Coord) :
    (firstState.decode first).schema.relocate (fun _ => place) =
        (secondState.decode second).schema.relocate (fun _ => place) ∧
      (((firstState.decode first).diagnostics.filter (!·.synthesizes)).map
          (Diagnostic.relocate fun _ => place)).Perm
        (((secondState.decode second).diagnostics.filter (!·.synthesizes)).map
          (Diagnostic.relocate fun _ => place)) ∧
      ((firstState.decode first).diagnostics.filter (·.synthesizes)).map
          (Diagnostic.relocate fun _ => place) =
        ((secondState.decode second).diagnostics.filter (·.synthesizes)).map
          (Diagnostic.relocate fun _ => place) ∧
      ∀ (package : String) (kind : ArtifactKind),
        (firstState.decode first).schema.objectClasses.map
            (fun owner => Model.ofClass (firstState.decode first).schema owner package kind) =
          (secondState.decode second).schema.objectClasses.map
            fun owner => Model.ofClass (secondState.decode second).schema owner package kind := by
  have declared := declareAll_interleavings firstWoven secondWoven place
  have schemas : (firstState.decode first).schema.relocate (fun _ => place) =
      (secondState.decode second).schema.relocate fun _ => place := by
    rw [schema_decode_blocks firstState firstTexts, schema_decode_blocks secondState secondTexts,
      declared]
  obtain ⟨firstOwn, firstWarnings⟩ := diagnostics_decode_blocks firstState firstTexts place
  obtain ⟨secondOwn, secondWarnings⟩ := diagnostics_decode_blocks secondState secondTexts place
  refine ⟨schemas, ?_, ?_, fun package kind => ?_⟩
  · rw [firstOwn, secondOwn]
    exact diagnostics_interleavings firstWoven secondWoven place
  · rw [firstWarnings, secondWarnings, declared]
  · rw [← models_relocate (firstState.decode first).schema fun _ => place, schemas, models_relocate]

def nameBlock : Block :=
  { kind := .attr
    opening := ["set attribute cn = \x7b".toList]
    body := ["name = cn".toList, "syntax = text".toList]
    ending := "\x7d;".toList
    opens := .atOnce (by decide)
    inside := by decide
    ends := by decide }

/-- A class with the attribute, one that is not declared, and a line that is not recognized, among
lines that do not count. -/
def personBlock : Block :=
  { kind := .objectClass
    opening := ["set object-class p =".toList, "\x7b".toList]
    body := ["name = person".toList, [], "must-contain CN,".toList, "# surname".toList,
      "sn".toList, "nonsense".toList]
    ending := "\x7d".toList
    opens := .onNextLine (by decide) (by decide)
    inside := by decide
    ends := by decide }

def declaredBefore : List Input :=
  [⟨0, "set attribute cn = \x7b\nname = cn\nsyntax = text\n\x7d;\n"⟩,
    ⟨1, "set object-class p =\n\x7b\nname = person\nmust-contain CN,\n sn\nnonsense\n\x7d\n"⟩]

def declaredAfter : List Input := declaredBefore.reverse

theorem declaredAfter_decoded :
    (State.idle.decode declaredAfter).schema.relocate (fun _ => default) =
        (State.idle.decode declaredBefore).schema.relocate (fun _ => default) ∧
      (State.idle.decode declaredAfter).diagnostics.map (·.message) =
        ["unrecognized line was ignored", "unknown syntax 'text', values are treated as opaque",
          "attribute 'sn' referenced by object class 'person' is not declared"] ∧
      (State.idle.decode declaredBefore).diagnostics.map (·.message) =
        ["unknown syntax 'text', values are treated as opaque", "unrecognized line was ignored",
          "attribute 'sn' referenced by object class 'person' is not declared"] := by
  have after : Interleaving [nameBlock] [personBlock] [] [personBlock, nameBlock] :=
    .objectClass rfl (.attr rfl .nil)
  have before : Interleaving [nameBlock] [personBlock] [] [nameBlock, personBlock] :=
    .attr rfl (.objectClass rfl .nil)
  have afterTexts : significantTexts declaredAfter =
      significantOf ([personBlock, nameBlock].flatMap Block.texts) := by
    decide +kernel
  have beforeTexts : significantTexts declaredBefore =
      significantOf ([nameBlock, personBlock].flatMap Block.texts) := by
    decide +kernel
  have alike := decode_interleavings .idle .idle after before afterTexts beforeTexts default
  exact ⟨alike.1, by decide +kernel, by decide +kernel⟩

end Decoder
end DirSchema
