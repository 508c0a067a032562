import DirSchema.Proofs.Decoder.Canonical.Fields
set_option autoImplicit false

namespace DirSchema.Decoder

open DirSchema.Source (Line)
open Canonical (Reads)

def NameList.keyword : NameList → String
  | .required => "must-contain"
  | .optional => "may-contain"

def NameList.ofKey? (key : List Char) : Option NameList :=
  if String.ofList key = "must-contain" then some .required
  else if String.ofList key = "may-contain" then some .optional
  else none

private theorem NameList.ofKey?_keyword (list : NameList) :
    NameList.ofKey? list.keyword.toList = some list := by
  cases list <;> decide

namespace ClassDraft

def names (draft : ClassDraft) : NameList → List String
  | .required => draft.required
  | .optional => draft.optional

def collect (draft : ClassDraft) (list : NameList) (more : List String) : ClassDraft :=
  match list with
  | .required => { draft with required := draft.required ++ more }
  | .optional => { draft with optional := draft.optional ++ more }

/-- The next line is no part of a list: if it does not begin one, it adds no names. -/
def AwaitsEntry (draft : ClassDraft) : Prop :=
  ∀ (line : Line) (list : NameList), NameList.ofKey? (Entry.ofLine line.text).key ≠ some list →
    (draft.read line).1.names list = draft.names list

theorem names_collect (draft : ClassDraft) (list other : NameList) (more : List String) :
    (draft.collect list more).names other =
      draft.names other ++ if other = list then more else [] := by
  cases list <;> cases other <;> simp [collect, names]

theorem collect_collect (draft : ClassDraft) (list : NameList) (more others : List String)
    (pending : Option NameList) :
    { draft.collect list more with pending }.collect list others =
      { draft.collect list (more ++ others) with pending } := by
  cases list <;> simp [collect]

theorem pending_collect (draft : ClassDraft) (list : NameList) (more : List String) :
    (draft.collect list more).pending = draft.pending := by
  cases list <;> rfl

theorem unlisted_collect (draft : ClassDraft) (list : NameList) (more : List String) :
    { draft.collect list more with required := draft.required, optional := draft.optional } =
      draft := by
  cases list <;> rfl

private theorem collect_settled {draft : ClassDraft} (settled : draft.pending = none)
    (list : NameList)
    (more : List String) :
    { draft.collect list more with pending := none } = draft.collect list more := by
  rw [← settled, ← pending_collect draft list more]

theorem readNames_eq (draft : ClassDraft) (list : NameList) (raw : List Char) :
    draft.readNames list raw =
      { draft.collect list (NameLine.ofText raw).names with
        pending := if (NameLine.ofText raw).continues then some list else none } := by
  cases list <;> rfl

theorem read_continued {draft : ClassDraft} {list : NameList} (waits : draft.pending = some list)
    (line : Line) : draft.read line = (draft.readNames list line.text, []) := by
  simp only [read, waits]

theorem read_begun {draft : ClassDraft} {list : NameList} (settled : draft.pending = none)
    {line : Line} (begins : NameList.ofKey? (Entry.ofLine line.text).key = some list) :
    draft.read line = (draft.readNames list (Entry.ofLine line.text).value, []) := by
  rw [NameList.ofKey?] at begins
  split at begins
  · rename_i key
    cases begins
    simp [read, settled, key]
  · split at begins
    · rename_i key
      cases begins
      simp [read, settled, key]
    · cases begins

private theorem names_readParents (draft : ClassDraft) (place : Coord) (parents : List String)
    (list : NameList) : (draft.readParents place parents).1.names list = draft.names list := by
  induction parents generalizing draft with
  | nil => rfl
  | cons parent rest ih =>
      rw [readParents]
      split
      · exact ih draft
      · rw [ih]
        cases list <;> rfl

/-- An entry is awaited exactly if no list is pending. -/
theorem awaitsEntry_iff (draft : ClassDraft) : draft.AwaitsEntry ↔ draft.pending = none := by
  constructor
  · intro awaits
    cases waits : draft.pending with
    | none => rfl
    | some list =>
        have noKey : NameList.ofKey? (Entry.ofLine ['x']).key = none := by decide
        have unchanged := awaits ⟨['x'], default⟩ list (by rw [noKey]; nofun)
        have one : (NameLine.ofText ['x']).names = ["x"] := by decide
        rw [read_continued waits, readNames_eq, one] at unchanged
        have grown := names_collect draft list list ["x"]
        rw [if_pos rfl] at grown
        have same : draft.names list ++ ["x"] = draft.names list := by
          rw [← grown, ← unchanged]
          cases list <;> rfl
        simp at same
  · intro settled line list other
    simp only [read, settled]
    split
    · cases list <;> rfl
    · cases list <;> rfl
    · cases list <;> rfl
    · exact names_readParents draft line.coord _ list
    · rename_i key
      cases list with
      | required => exact absurd (by simp [NameList.ofKey?, key]) other
      | optional => rfl
    · rename_i key
      cases list with
      | required => rfl
      | optional => exact absurd (by simp [NameList.ofKey?, key]) other
    · rfl

end ClassDraft

/-- A name that can stand on any line of a list. -/
structure Listable (name : String) : Prop where
  nonempty : name.toList ≠ []
  solid : ∀ c ∈ name.toList, Text.isBlank c = false ∧ c ≠ ',' ∧ c ≠ ';' ∧ c ≠ '='
  noComment : name.toList.head? ≠ some '#'
  noHeader : name.toList ≠ ['s', 'e', 't']
  noEnd : name.toList ≠ ['\x7d']

instance (name : String) : Decidable (Listable name) :=
  decidable_of_iff
    (name.toList ≠ [] ∧
      (name.toList.all fun c => Text.isBlank c = false ∧ c ≠ ',' ∧ c ≠ ';' ∧ c ≠ '=') = true ∧
      name.toList.head? ≠ some '#' ∧ name.toList ≠ ['s', 'e', 't'] ∧ name.toList ≠ ['\x7d'])
    ⟨fun ⟨nonempty, solid, noComment, noHeader, noEnd⟩ =>
        ⟨nonempty, by simpa using solid, noComment, noHeader, noEnd⟩,
      fun listable => ⟨listable.nonempty, by simpa using listable.solid, listable.noComment,
        listable.noHeader, listable.noEnd⟩⟩

/-- Names with commas between them and any white space around these. -/
inductive Joined : List String → List Char → Prop
  | single (name : String) : Joined [name] name.toList
  | cons (name : String) {names : List String} {left right text : List Char}
      (blankLeft : Text.Blank left) (blankRight : Text.Blank right) (rest : Joined names text) :
      Joined (name :: names) (name.toList ++ (left ++ ',' :: (right ++ text)))

/-- What may stand behind the names of a line, and whether the list goes on with the next line. -/
inductive EndsLine : List Char → Bool → Prop
  | nothing : EndsLine [] false
  | semicolon {gap : List Char} (blank : Text.Blank gap) : EndsLine (gap ++ [';']) false
  | comma {gap : List Char} (blank : Text.Blank gap) : EndsLine (gap ++ [',']) true

/-- A list that is cut into lines: each but the last ends in a comma. -/
inductive Cut : List String → List (List Char) → Prop
  | last {names : List String} {text tail : List Char} (joined : Joined names text)
      (ends : EndsLine tail false) : Cut names [text ++ tail]
  | more {first rest : List String} {text tail : List Char} {lines : List (List Char)}
      (joined : Joined first text) (ends : EndsLine tail true) (others : Cut rest lines) :
      Cut (first ++ rest) ((text ++ tail) :: lines)

/-- What may part a keyword from a name on its line. -/
inductive Divides : List Char → Prop
  | gap {gap : List Char} (nonempty : gap ≠ []) (blank : Text.Blank gap) : Divides gap
  | equals {left right : List Char} (blankLeft : Text.Blank left)
      (blankRight : Text.Blank right) : Divides (left ++ '=' :: right)

/-- A list with its keyword, on whose line or below which the names begin. -/
inductive LaidOut (list : NameList) : List String → List (List Char) → Prop
  | beside {names : List String} {between first : List Char} {rest : List (List Char)}
      (divides : Divides between) (cut : Cut names (first :: rest)) :
      LaidOut list names ((list.keyword.toList ++ (between ++ first)) :: rest)
  | below {names : List String} {lines : List (List Char)} (cut : Cut names lines) :
      LaidOut list names (list.keyword.toList :: lines)

/-- Whether a text can stand behind a name without being part of it. -/
def Follows (text : List Char) : Prop :=
  ∀ c ∈ text.head?, Text.isBlank c = true ∨ isTerminator c = true

theorem Follows.append {gap text : List Char} (blank : Text.Blank gap) (follows : Follows text) :
    Follows (gap ++ text) := by
  cases gap with
  | nil => exact follows
  | cons first gap =>
      intro c head
      cases head
      exact Or.inl (blank first List.mem_cons_self)

private theorem EndsLine.follows {tail : List Char} {continues : Bool}
    (ends : EndsLine tail continues) :
    Follows tail := by
  cases ends with
  | nothing => exact nofun
  | semicolon blank => exact .append blank fun c head => Or.inr (by cases head; rfl)
  | comma blank => exact .append blank fun c head => Or.inr (by cases head; rfl)

private theorem Listable.isListed {name : String} (listable : Listable name) : IsListed name :=
  ⟨listable.nonempty, fun c member => ⟨(listable.solid c member).1, (listable.solid c member).2.1⟩⟩

/-- No line that begins with a name is of another sort. -/
theorem Listable.isEntry {name : String} (listable : Listable name) {rest : List Char}
    (follows : Follows rest) : IsEntry (name.toList ++ rest) where
  nonempty := by simp [listable.nonempty]
  noComment := by
    rw [List.head?_append_of_ne_nil _ listable.nonempty]
    exact listable.noComment
  noEnd := by
    rw [isBlockEnd, Bool.or_eq_false_iff, beq_eq_false_iff_ne, beq_eq_false_iff_ne]
    refine ⟨fun brace => ?_, fun terminated => ?_⟩
    · rcases List.append_eq_singleton_iff.mp brace with ⟨none, -⟩ | ⟨own, -⟩
      · exact listable.nonempty none
      · exact listable.noEnd own
    · rcases List.append_eq_cons_iff.mp terminated with ⟨none, -⟩ | ⟨more, own, split⟩
      · exact listable.nonempty none
      · rcases List.append_eq_singleton_iff.mp split.symm with ⟨rfl, -⟩ | ⟨rfl, -⟩
        · exact listable.noEnd own
        · exact (listable.solid ';' (by simp [own])).2.2.1 rfl
  noHeader := by
    cases found : Header.ofLine? (name.toList ++ rest) with
    | none => rfl
    | some header =>
        have word := Header.firstWord_of_ofLine? found
        rw [List.takeWhile_append_of_pos
          fun c member => by rw [(listable.solid c member).1]; rfl] at word
        -- A name is not the word itself, and what follows it is no letter of the word.
        cases rest with
        | nil => exact absurd (by simpa using word) listable.noHeader
        | cons c rest =>
            rcases follows c rfl with blank | terminator
            · exact absurd (by simpa [blank] using word) listable.noHeader
            · have inWord : c ∈ ['s', 'e', 't'] := by
                rw [← word, List.mem_append]
                right
                rw [isTerminator, Bool.or_eq_true, beq_iff_eq, beq_iff_eq] at terminator
                rcases terminator with rfl | rfl <;> simp [Text.isBlank]
              rw [isTerminator, Bool.or_eq_true, beq_iff_eq, beq_iff_eq] at terminator
              rcases terminator with rfl | rfl <;> simp at inWord

namespace Joined

variable {names : List String} {text : List Char} (joined : Joined names text)
  (listable : ∀ name ∈ names, Listable name)
include joined listable

private theorem isEntry {tail : List Char} (follows : Follows tail) : IsEntry (text ++ tail) := by
  cases joined with
  | single name => exact (listable name List.mem_cons_self).isEntry follows
  | @cons name names left right text blankLeft blankRight rest =>
      rw [List.append_assoc, List.append_assoc]
      refine (listable name List.mem_cons_self).isEntry (.append blankLeft ?_)
      exact fun c head => Or.inr (by cases head; rfl)

private theorem namesOf_append {gap : List Char} (blank : Text.Blank gap) :
    namesOf (text ++ gap) = names := by
  induction joined with
  | single name => exact namesOf_name name gap (listable name List.mem_cons_self).isListed blank
  | @cons name names left right text blankLeft blankRight rest ih =>
      rw [List.forall_mem_cons] at listable
      have split : name.toList ++ (left ++ ',' :: (right ++ text)) ++ gap =
          name.toList ++ left ++ ',' :: (right ++ (text ++ gap)) := by
        simp only [List.append_assoc, List.cons_append]
      rw [split, namesOf_comma, namesOf_name name left listable.1.isListed blankLeft,
        namesOf_blank right _ blankRight, ih listable.2]
      rfl

theorem ne_nil : text ≠ [] := by
  cases joined with
  | single name => exact (listable name List.mem_cons_self).nonempty
  | cons name blankLeft blankRight rest => simp

private theorem head : ∀ c ∈ text.head?, Text.isBlank c = false := by
  cases joined with
  | single name =>
      exact fun c head =>
        ((listable name List.mem_cons_self).solid c (List.mem_of_mem_head? head)).1
  | cons name blankLeft blankRight rest =>
      have first := listable name List.mem_cons_self
      rw [List.head?_append_of_ne_nil _ first.nonempty]
      exact fun c head => (first.solid c (List.mem_of_mem_head? head)).1

/-- The last character is that of the last name. -/
theorem last : ∀ c ∈ text.getLast?, Text.isBlank c = false ∧ c ≠ ',' ∧ c ≠ ';' := by
  induction joined with
  | single name =>
      intro c last
      have solid := (listable name List.mem_cons_self).solid c (List.mem_of_mem_getLast? last)
      exact ⟨solid.1, solid.2.1, solid.2.2.1⟩
  | @cons name names left right text blankLeft blankRight rest ih =>
      rw [List.forall_mem_cons] at listable
      have nonempty := rest.ne_nil listable.2
      have split : name.toList ++ (left ++ ',' :: (right ++ text)) =
          name.toList ++ (left ++ ',' :: right) ++ text := by simp
      rw [split, List.getLast?_append_of_ne_nil _ nonempty]
      exact ih listable.2

private theorem noEquals : ∀ c ∈ text, c ≠ '=' := by
  induction joined with
  | single name => exact fun c member => ((listable name List.mem_cons_self).solid c member).2.2.2
  | @cons name names left right text blankLeft blankRight rest ih =>
      rw [List.forall_mem_cons] at listable
      rintro c member rfl
      simp only [List.mem_append, List.mem_cons] at member
      rcases member with inName | inLeft | comma | inRight | inText
      · exact (listable.1.solid '=' inName).2.2.2 rfl
      · exact absurd (blankLeft '=' inLeft) (by decide)
      · exact absurd comma (by decide)
      · exact absurd (blankRight '=' inRight) (by decide)
      · exact ih listable.2 '=' inText rfl

/-- Neither names nor the white space behind them end in a semicolon. -/
theorem dropEndWhile_append {gap : List Char} (blank : Text.Blank gap) :
    Text.dropEndWhile (· == ';') (text ++ gap) = text ++ gap := by
  apply Text.dropEndWhile_eq_self
  intro c last
  rw [beq_eq_false_iff_ne]
  rw [List.getLast?_append] at last
  cases ends : gap.getLast? with
  | none =>
      rw [ends] at last
      exact (joined.last listable c last).2.2
  | some other =>
      rw [ends] at last
      cases last
      rintro rfl
      exact absurd (blank ';' (List.mem_of_getLast? ends)) (by decide)

private theorem trimEnd_append {gap : List Char} (blank : Text.Blank gap) :
    Text.trimEnd (text ++ gap) = text := by
  rw [Text.trimEnd_append text blank]
  exact Text.trimEnd_eq_self text fun c last => (joined.last listable c last).1

private theorem endsWith_eq_false {mark : Char} (isMark : mark = ',' ∨ mark = ';') :
    Text.endsWith mark text = false := by
  rw [Text.endsWith, beq_eq_false_iff_ne]
  intro ends
  have last := joined.last listable mark ends
  rcases isMark with rfl | rfl
  · exact last.2.1 rfl
  · exact last.2.2 rfl

/-- What is read on a line of a list. -/
theorem ofText_append {tail : List Char} {continues : Bool} (ends : EndsLine tail continues) :
    NameLine.ofText (text ++ tail) = { names, continues } := by
  have noGap : Text.Blank [] := nofun
  have read := joined.namesOf_append listable noGap
  have whole := joined.dropEndWhile_append listable noGap
  have trimmed := joined.trimEnd_append listable noGap
  have noComma := joined.endsWith_eq_false listable (Or.inl rfl)
  cases ends with
  | nothing =>
      have noSemicolon := joined.endsWith_eq_false listable (Or.inr rfl)
      rw [NameLine.ofText, whole, trimmed, List.append_nil, noSemicolon, noComma]
      rw [List.append_nil] at read
      simp [read, joined.ne_nil listable]
  | @semicolon gap blank =>
      have inner : Text.trimEnd (Text.dropEndWhile (· == ';') (text ++ (gap ++ [';']))) = text := by
        rw [← List.append_assoc, Text.dropEndWhile_append _ (by simp),
          joined.dropEndWhile_append listable blank, joined.trimEnd_append listable blank]
      have terminated : Text.endsWith ';' (text ++ (gap ++ [';'])) = true := by
        simp [Text.endsWith]
      rw [List.append_nil] at read
      rw [NameLine.ofText, inner, terminated, read]
      rfl
  | @comma gap blank =>
      have last : (text ++ (gap ++ [','])).getLast? = some ',' := by simp
      have inner : Text.trimEnd (Text.dropEndWhile (· == ';') (text ++ (gap ++ [',']))) =
          text ++ (gap ++ [',']) := by
        rw [Text.dropEndWhile_eq_self _ _ (by rw [last]; simp),
          Text.trimEnd_eq_self _ (by rw [last]; simp [Text.isBlank])]
      have listed : namesOf (text ++ (gap ++ [','])) = names := by
        rw [← List.append_assoc, namesOf_comma, joined.namesOf_append listable blank]
        exact List.append_nil names
      rw [NameLine.ofText, inner, listed, Text.endsWith, Text.endsWith, last]
      simp

end Joined

/-- The lines of a list that waits for them. -/
theorem Cut.reads {names : List String} {texts : List (List Char)} (cut : Cut names texts)
    (listable : ∀ name ∈ names, Listable name) (list : NameList) (draft : ClassDraft)
    (waits : draft.pending = some list) :
    Reads (.objectClass draft) texts
      (.objectClass { draft.collect list names with pending := none }) := by
  induction cut generalizing draft with
  | @last names text tail joined ends =>
      refine Reads.line (joined.isEntry listable ends.follows) fun coord => ?_
      simp only [Draft.read, ClassDraft.read_continued waits, ClassDraft.readNames_eq,
        joined.ofText_append listable ends]
      rfl
  | @more first rest text tail lines joined ends others ih =>
      rw [List.forall_mem_append] at listable
      have line : Reads (.objectClass draft) [text ++ tail]
          (.objectClass { draft.collect list first with pending := some list }) := by
        refine Reads.line (joined.isEntry listable.1 ends.follows) fun coord => ?_
        simp only [Draft.read, ClassDraft.read_continued waits, ClassDraft.readNames_eq,
          joined.ofText_append listable.1 ends]
        rfl
      have below := ih listable.2 { draft.collect list first with pending := some list } rfl
      rw [ClassDraft.collect_collect] at below
      exact line.append below

private theorem Divides.ofLine {between : List Char} (divides : Divides between)
    (key value : List Char)
    (keyword : IsKeyword key) (noEquals : ∀ c ∈ value, c ≠ '=')
    (head : ∀ c ∈ value.head?, Text.isBlank c = false) :
    Entry.ofLine (key ++ (between ++ value)) = { key, value } := by
  cases divides with
  | gap nonempty blank =>
      exact Entry.ofLine_keyword key between value keyword nonempty blank noEquals head
  | @equals left right blankLeft blankRight =>
      rw [List.append_assoc, List.cons_append]
      exact Entry.ofLine_assignment key left right value keyword blankLeft blankRight head

private theorem NameList.isKeyword (list : NameList) : IsKeyword list.keyword.toList := by
  have key : Canonical.IsKey list.keyword := by cases list <;> decide
  exact key.1.isKeyword

private theorem NameList.isEntry (list : NameList) (rest : List Char) :
    IsEntry (list.keyword.toList ++ rest) := by
  cases list with
  | required => exact .of_head 'm' _ (by decide)
  | optional => exact .of_head 'm' _ (by decide)

/-- The first line of a list leaves the block waiting for the others, if there are any. -/
theorem Reads.begun {draft : ClassDraft} (settled : draft.pending = none) (list : NameList)
    {text value : List Char} (entry : IsEntry text)
    (cut : Entry.ofLine text = { key := list.keyword.toList, value }) :
    Reads (.objectClass draft) [text] (.objectClass (draft.readNames list value)) := by
  refine Reads.line entry fun coord => ?_
  have begins : NameList.ofKey? (Entry.ofLine text).key = some list := by
    rw [cut, NameList.ofKey?_keyword]
  have read : draft.read ⟨text, coord⟩ = _ := ClassDraft.read_begun settled begins
  simp only [Draft.read, read, cut]

private theorem EndsLine.noEquals {tail : List Char} {continues : Bool}
    (ends : EndsLine tail continues) :
    ∀ c ∈ tail, c ≠ '=' := by
  rintro c member rfl
  cases ends with
  | nothing => cases member
  | semicolon blank =>
      rcases List.mem_append.mp member with inGap | mark
      · exact absurd (blank '=' inGap) (by decide)
      · exact absurd mark (by decide)
  | comma blank =>
      rcases List.mem_append.mp member with inGap | mark
      · exact absurd (blank '=' inGap) (by decide)
      · exact absurd mark (by decide)

/-- The lines of a list, with that of its keyword. -/
theorem LaidOut.reads {list : NameList} {names : List String} {texts : List (List Char)}
    (laidOut : LaidOut list names texts) (listable : ∀ name ∈ names, Listable name)
    {draft : ClassDraft} (settled : draft.pending = none) :
    Reads (.objectClass draft) texts (.objectClass (draft.collect list names)) := by
  rw [← ClassDraft.collect_settled settled list names]
  cases laidOut with
  | @beside between first rest divides cut =>
      -- The names on the line of the keyword, and whether the list goes on.
      have begun {names : List String} {text tail : List Char} {continues : Bool}
          (joined : Joined names text) (listable : ∀ name ∈ names, Listable name)
          (ends : EndsLine tail continues) :
          Reads (.objectClass draft) [list.keyword.toList ++ (between ++ (text ++ tail))]
            (.objectClass { draft.collect list names with
              pending := if continues then some list else none }) := by
        have noEquals : ∀ c ∈ text ++ tail, c ≠ '=' :=
          List.forall_mem_append.mpr ⟨joined.noEquals listable, ends.noEquals⟩
        have head : ∀ c ∈ (text ++ tail).head?, Text.isBlank c = false := by
          rw [List.head?_append_of_ne_nil _ (joined.ne_nil listable)]
          exact joined.head listable
        have line := Reads.begun settled list (list.isEntry _)
          (divides.ofLine list.keyword.toList (text ++ tail) list.isKeyword noEquals head)
        rwa [ClassDraft.readNames_eq, joined.ofText_append listable ends] at line
      cases cut with
      | last joined ends => exact begun joined listable ends
      | @more firstNames restNames text tail _ joined ends others =>
          rw [List.forall_mem_append] at listable
          have below := others.reads listable.2 list
            { draft.collect list firstNames with pending := some list } rfl
          rw [ClassDraft.collect_collect] at below
          exact (begun joined listable.1 ends).append below
  | below cut =>
      have alone : Reads (.objectClass draft) [list.keyword.toList]
          (.objectClass { draft.collect list [] with pending := some list }) := by
        have line := Reads.begun settled list (by simpa using list.isEntry [])
          (Entry.ofLine_word list.keyword.toList list.isKeyword)
        rwa [ClassDraft.readNames_eq] at line
      have others := cut.reads listable list
        { draft.collect list [] with pending := some list } rfl
      rw [ClassDraft.collect_collect, List.nil_append] at others
      exact alone.append others

/-- A list as it stands in a block, among blank lines and comments. -/
structure WrittenList where
  list : NameList
  names : List String
  lines : List Line
  listable : ∀ name ∈ names, Listable name
  laidOut : LaidOut list names ((lines.filter (·.isSignificant)).map (·.text))

theorem WrittenList.steps_lines (written : WrittenList) (origin : Coord) {draft : ClassDraft}
    (settled : draft.pending = none) :
    (State.reading origin (.objectClass draft)).steps written.lines =
      (.reading origin (.objectClass (draft.collect written.list written.names)), []) := by
  rw [← State.steps_significant]
  exact written.laidOut.reads written.listable settled origin _ rfl

/-- Lists are read name by name, however each of them is cut into lines and whatever was listed
before: nothing is reported, and the next line is read as an entry again. -/
theorem steps_writtenLists (origin : Coord) (draft : ClassDraft) (awaits : draft.AwaitsEntry)
    (written : List WrittenList) :
    ∃ after : ClassDraft,
      (State.reading origin (.objectClass draft)).steps (written.flatMap (·.lines)) =
        (.reading origin (.objectClass after), []) ∧
      after.AwaitsEntry ∧
      (∀ list, after.names list = draft.names list ++
        (written.filter (·.list = list)).flatMap (·.names)) ∧
      { after with required := draft.required, optional := draft.optional } = draft := by
  rw [ClassDraft.awaitsEntry_iff] at awaits
  induction written generalizing draft with
  | nil => exact ⟨draft, rfl, draft.awaitsEntry_iff.mpr awaits, by simp, rfl⟩
  | cons first rest ih =>
      have settled := (draft.pending_collect first.list first.names).trans awaits
      obtain ⟨after, steps, awaitsAfter, names, others⟩ :=
        ih (draft.collect first.list first.names) settled
      refine ⟨after, ?_, awaitsAfter, fun list => ?_, ?_⟩
      · rw [List.flatMap_cons, State.steps_append, first.steps_lines origin awaits, steps]
        rfl
      · rw [names list, ClassDraft.names_collect, List.append_assoc]
        by_cases same : first.list = list
        · simp [same]
        · simp [same, Ne.symm same]
      · -- A list only changes the names, so what is left without them is the same.
        have unlisted := congrArg (fun other : ClassDraft =>
          { other with required := draft.required, optional := draft.optional }) others
        exact unlisted.trans (draft.unlisted_collect first.list first.names)

/-- A list that begins beside its keyword and goes on below a comment. -/
def indentedList : WrittenList :=
  { list := .required
    names := ["cn", "set-id", "sn", "mail"]
    lines := Line.ofText 0 "must-contain = cn ,set-id,\n\n # names\n\tsn\t,\n mail ;\n"
    listable := by decide
    laidOut := by
      have texts : ((Line.ofText 0
            "must-contain = cn ,set-id,\n\n # names\n\tsn\t,\n mail ;\n").filter
              (·.isSignificant)).map (·.text) =
          (NameList.required.keyword.toList ++ (([' '] ++ '=' :: [' ']) ++
              ("cn".toList ++ ([' '] ++ ',' :: ([] ++ "set-id".toList)) ++ ([] ++ [','])))) ::
            [("sn".toList ++ (['\t'] ++ [','])), ("mail".toList ++ ([' '] ++ [';']))] := by
        decide +kernel
      rw [texts]
      exact .beside (.equals (by decide) (by decide))
        (.more (.cons "cn" (by decide) (by decide) (.single "set-id")) (.comma (by decide))
          (.more (.single "sn") (.comma (by decide))
            (.last (.single "mail") (.semicolon (by decide))))) }

def loweredList : WrittenList :=
  { list := .required
    names := ["uid"]
    lines := Line.ofText 1 "must-contain\n\u3000uid"
    listable := by decide
    laidOut := by
      have texts : ((Line.ofText 1 "must-contain\n\u3000uid").filter
            (·.isSignificant)).map (·.text) =
          NameList.required.keyword.toList :: ["uid".toList ++ []] := by
        decide +kernel
      rw [texts]
      exact .below (.last (.single "uid") .nothing) }

theorem indentedList_read :
    ({} : ClassDraft).AwaitsEntry ∧
      ∃ after : ClassDraft,
        (State.reading default (.objectClass {})).steps
            ([indentedList, loweredList].flatMap (·.lines)) =
          (.reading default (.objectClass after), []) ∧
        after.AwaitsEntry ∧ after.names .required = ["cn", "set-id", "sn", "mail", "uid"] ∧
        after.names .optional = [] := by
  have awaits : ({} : ClassDraft).AwaitsEntry := (ClassDraft.awaitsEntry_iff {}).mpr rfl
  obtain ⟨after, steps, awaitsAfter, names, -⟩ :=
    steps_writtenLists default {} awaits [indentedList, loweredList]
  exact ⟨awaits, after, steps, awaitsAfter, (names .required).trans (by decide),
    (names .optional).trans (by decide)⟩

theorem continues_of_endsWith {raw : List Char} (semicolon : Text.endsWith ';' raw = true) :
    (NameLine.ofText raw).continues = false := by
  simp [NameLine.ofText, semicolon]

theorem ClassDraft.awaitsEntry_readNames (draft : ClassDraft) (list : NameList)
    (raw : List Char) :
    (draft.readNames list raw).AwaitsEntry ↔ (NameLine.ofText raw).continues = false := by
  rw [awaitsEntry_iff, readNames_eq]
  cases (NameLine.ofText raw).continues <;> simp

/-- A semicolon at the end of a line ends the list that the line begins or continues, unless the
line is its keyword with nothing but terminators: these go with the keyword, and so the list is
taken for one that begins below. -/
theorem list_ended_iff (origin : Coord) (draft : ClassDraft) (line : Line)
    (entry : IsEntry line.text) (semicolon : Text.endsWith ';' line.text = true)
    (listed : ¬ draft.AwaitsEntry ∨
      (NameList.ofKey? (Entry.ofLine line.text).key).isSome = true) :
    ∃ after : ClassDraft,
      (State.reading origin (.objectClass draft)).step line =
        (.reading origin (.objectClass after), []) ∧
      (after.AwaitsEntry ↔
        ¬ draft.AwaitsEntry ∨ ∃ c ∈ line.text, c = '=' ∨ Text.isBlank c = true) := by
  have step {list : NameList} {raw : List Char}
      (read : draft.read line = (draft.readNames list raw, [])) :
      (State.reading origin (.objectClass draft)).step line =
        (.reading origin (.objectClass (draft.readNames list raw)), []) := by
    rw [step_entry origin (.objectClass draft) line entry, Draft.read, read]
    rfl
  rw [ClassDraft.awaitsEntry_iff] at listed ⊢
  cases waits : draft.pending with
  | some list =>
      refine ⟨_, step (ClassDraft.read_continued waits line), ?_⟩
      rw [ClassDraft.awaitsEntry_readNames, continues_of_endsWith semicolon]
      simp
  | none =>
      obtain ⟨list, begins⟩ := Option.isSome_iff_exists.mp (listed.resolve_left (by simp [waits]))
      refine ⟨_, step (ClassDraft.read_begun waits begins), ?_⟩
      rw [ClassDraft.awaitsEntry_readNames]
      rcases Entry.ofLine_cases line.text with
        ⟨whole, cut⟩ | ⟨front, mark, rest, split, isMark, cut⟩
      · -- The semicolon went with the keyword, and nothing is left to be read as names.
        have continued : (NameLine.ofText []).continues = true := by decide
        rw [cut, continued]
        have nowhere : ¬ ∃ c ∈ line.text, c = '=' ∨ Text.isBlank c = true := by
          rintro ⟨c, member, equals | blank⟩
          · exact (whole c member).1 equals
          · exact absurd blank (by simp [(whole c member).2])
        simp [nowhere]
      · -- The semicolon is the last character of what is read as names.
        have last : line.text.getLast? = some ';' := by simpa [Text.endsWith] using semicolon
        have nonempty : rest ≠ [] := by
          rintro rfl
          rw [split, List.getLast?_concat, Option.some.injEq] at last
          rw [last] at isMark
          exact absurd isMark (by decide)
        have lastRest : rest.getLast? = some ';' := by
          rw [← last, split, List.getLast?_append_of_ne_nil _ (List.cons_ne_nil mark rest),
            List.getLast?_cons_of_ne_nil nonempty]
        have kept : Text.endsWith ';' (Text.trimStart rest) = true := by
          rw [Text.endsWith, Text.getLast?_trimStart lastRest (by decide)]
          rfl
        rw [cut, continues_of_endsWith kept]
        have somewhere : ∃ c ∈ line.text, c = '=' ∨ Text.isBlank c = true :=
          ⟨mark, by simp [split], isMark⟩
        simp [somewhere]

def spacedEnd : Line := ⟨"may-contain sn ;".toList, ⟨0, 0, 16⟩⟩

theorem spacedEnd_ended :
    IsEntry spacedEnd.text ∧ Text.endsWith ';' spacedEnd.text = true ∧
      (NameList.ofKey? (Entry.ofLine spacedEnd.text).key).isSome = true ∧
      ∃ after : ClassDraft,
        (State.reading default (.objectClass {})).step spacedEnd =
          (.reading default (.objectClass after), []) ∧ after.AwaitsEntry := by
  have entry : IsEntry spacedEnd.text := .of_head 'm' _ (by decide)
  have semicolon : Text.endsWith ';' spacedEnd.text = true := by decide
  have begins : (NameList.ofKey? (Entry.ofLine spacedEnd.text).key).isSome = true := by decide
  obtain ⟨after, step, ended⟩ :=
    list_ended_iff default {} spacedEnd entry semicolon (Or.inr begins)
  have blank : ∃ c ∈ spacedEnd.text, c = '=' ∨ Text.isBlank c = true :=
    ⟨' ', by decide, Or.inr (by decide)⟩
  exact ⟨entry, semicolon, begins, after, step, ended.mpr (Or.inr blank)⟩

/-- A list whose semicolon stands at its keyword, and an entry below it. -/
def bareKeyword : List Input :=
  [⟨0, "set object-class c = \x7b\nname = c\nmust-contain;\nmay-contain description\n\x7d;\n"⟩]

/-- The entry below is listed as a name. -/
theorem bareKeyword_not_ended :
    IsEntry "must-contain;".toList ∧ Text.endsWith ';' "must-contain;".toList = true ∧
      NameList.ofKey? (Entry.ofLine "must-contain;".toList).key = some .required ∧
      ¬ (({} : ClassDraft).read ⟨"must-contain;".toList, default⟩).1.AwaitsEntry ∧
      (declareAll {} (events (linesOf bareKeyword))).objectClasses.map (·.requiredNames) =
        [["may-contain description"]] := by
  refine ⟨.of_head 'm' _ (by decide), by decide, by decide, ?_, by decide +kernel⟩
  rw [ClassDraft.awaitsEntry_iff]
  decide

end DirSchema.Decoder
