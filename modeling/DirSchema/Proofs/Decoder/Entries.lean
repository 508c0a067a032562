import DirSchema.Proofs.Decoder.Run
import DirSchema.Proofs.Text.Cutting
set_option autoImplicit false

namespace DirSchema.Decoder

open DirSchema.Source (Line)

theorem afterStart?_eq_some {start cs rest : List Char}
    (found : Text.afterStart? start cs = some rest) : cs = start ++ rest := by
  induction start generalizing cs with
  | nil => exact Option.some.inj found
  | cons s start ih =>
      cases cs with
      | nil => cases found
      | cons c cs =>
          rw [Text.afterStart?] at found
          split at found
          · rename_i same
            rw [List.cons_append, same, ih found]
          · cases found

/-- A header begins with the word `set`. -/
theorem Header.firstWord_of_ofLine? {line : List Char} {header : Header}
    (found : Header.ofLine? line = some header) :
    line.takeWhile (fun c => !Text.isBlank c) = ['s', 'e', 't'] := by
  cases after : Header.afterSet? line with
  | none => simp [Header.ofLine?, after] at found
  | some rest =>
      rw [Header.afterSet?] at after
      split at after
      · rename_i c tail start
        rw [afterStart?_eq_some start]
        by_cases blank : Text.isBlank c = true
        · have letters : Text.isBlank 's' = false ∧ Text.isBlank 'e' = false ∧
              Text.isBlank 't' = false := by decide
          simp [letters, blank]
        · simp [blank] at after
      · cases after

/-- A text that stands on a line of a block and neither ends it nor opens another one. -/
structure IsEntry (text : List Char) : Prop where
  nonempty : text ≠ []
  noComment : text.head? ≠ some '#'
  noEnd : isBlockEnd text = false
  noHeader : Header.ofLine? text = none

private theorem IsEntry.isSignificant {line : Line} (entry : IsEntry line.text) :
    line.isSignificant = true := by
  have nonempty := entry.nonempty
  have noComment := entry.noComment
  rw [Line.isSignificant]
  cases shape : line.text with
  | nil => exact absurd shape nonempty
  | cons first rest =>
      rw [shape, List.head?_cons] at noComment
      simpa using noComment

theorem step_entry (origin : Coord) (draft : Draft) (line : Line) (entry : IsEntry line.text) :
    (State.reading origin draft).step line =
      (.reading origin (draft.read line).1, (draft.read line).2.map .reported) := by
  rw [State.step_reading origin draft line entry.isSignificant]
  simp [State.stepReading, entry.noEnd, entry.noHeader]

/-- A line is an entry if its first word, which ends at white space or with the line, could not
begin a line of another sort. -/
theorem IsEntry.of_word (word rest : List Char) (nonempty : word ≠ [])
    (solid : ∀ c ∈ word, Text.isBlank c = false) (noSet : word ≠ ['s', 'e', 't'])
    (noMark : word.head? ≠ some '#' ∧ word.head? ≠ some '\x7d')
    (ends : ∀ c ∈ rest.head?, Text.isBlank c = true) : IsEntry (word ++ rest) := by
  have head : (word ++ rest).head? = word.head? := List.head?_append_of_ne_nil word nonempty
  refine ⟨by simp [nonempty], head ▸ noMark.1, ?_, ?_⟩
  · have other (closing : List Char) (brace : closing.head? = some '\x7d') :
        word ++ rest ≠ closing := by
      intro same
      exact noMark.2 (head ▸ same ▸ brace)
    simp [isBlockEnd, other ['\x7d'] rfl, other ['\x7d', ';'] rfl]
  · cases found : Header.ofLine? (word ++ rest) with
    | none => rfl
    | some header =>
        have first := Header.firstWord_of_ofLine? found
        rw [List.takeWhile_append_of_pos (by simpa using solid)] at first
        have stop : rest.takeWhile (fun c => !Text.isBlank c) = [] := by
          cases rest with
          | nil => rfl
          | cons c rest => simp [ends c rfl]
        rw [stop, List.append_nil] at first
        exact absurd first noSet

/-- A line is an entry if its first character begins no other sort of line. -/
theorem IsEntry.of_head (first : Char) (rest : List Char)
    (other : first ≠ 's' ∧ first ≠ '#' ∧ first ≠ '\x7d') : IsEntry (first :: rest) := by
  refine ⟨List.cons_ne_nil first rest, by simpa using other.2.1, ?_, ?_⟩
  · simp [isBlockEnd, other.2.2]
  · cases found : Header.ofLine? (first :: rest) with
    | none => rfl
    | some header =>
        have word := Header.firstWord_of_ofLine? found
        rw [List.takeWhile_cons] at word
        split at word
        · exact absurd (List.cons_eq_cons.mp word).1 other.1
        · cases word

theorem stripTerminators_eq_self (cs : List Char)
    (unterminated : ∀ c ∈ cs.getLast?, isTerminator c = false)
    (trimmed : ∀ c ∈ cs.getLast?, Text.isBlank c = false) : stripTerminators cs = cs := by
  rw [stripTerminators, Text.dropEndWhile_eq_self isTerminator cs unterminated,
    Text.trimEnd_eq_self cs trimmed]

theorem value?_eq_some (value : String) (nonempty : value.toList ≠ [])
    (unterminated : ∀ c ∈ value.toList.getLast?, isTerminator c = false)
    (trimmed : ∀ c ∈ value.toList.getLast?, Text.isBlank c = false) :
    value? value.toList = some value := by
  rw [value?, stripTerminators_eq_self _ unterminated trimmed]
  split
  · rename_i empty
    exact absurd empty nonempty
  · rw [String.ofList_toList]

theorem toList_of_value? {raw : List Char} {value : String} (given : value? raw = some value) :
    value.toList = stripTerminators raw ∧ stripTerminators raw ≠ [] := by
  rw [value?] at given
  split at given
  · cases given
  · rename_i solid
    cases given
    exact ⟨String.toList_ofList, solid⟩

theorem stripTerminators_isPrefix (cs : List Char) : stripTerminators cs <+: cs :=
  (Text.dropEndWhile_isPrefix Text.isBlank _).trans (Text.dropEndWhile_isPrefix isTerminator cs)

/-- A word that is a key as it stands. -/
def IsKeyword (key : List Char) : Prop :=
  ∀ c ∈ key, Text.isBlank c = false ∧ isTerminator c = false ∧ c ≠ '='

theorem stripTerminators_keyword {key : List Char} (keyword : IsKeyword key) :
    stripTerminators key = key :=
  stripTerminators_eq_self key
    (fun c last => (keyword c (List.mem_of_mem_getLast? last)).2.1)
    (fun c last => (keyword c (List.mem_of_mem_getLast? last)).1)

/-- The key and the value on both sides of an equals sign, with any white space around it. -/
theorem Entry.ofLine_assignment (key left right value : List Char) (keyword : IsKeyword key)
    (blankLeft : Text.Blank left) (blankRight : Text.Blank right)
    (head : ∀ c ∈ value.head?, Text.isBlank c = false) :
    Entry.ofLine (key ++ (left ++ '=' :: (right ++ value))) = { key, value } := by
  have absent : ∀ c ∈ key ++ left, (c == '=') = false := by
    intro c member
    rcases List.mem_append.mp member with inKey | space
    · simpa using (keyword c inKey).2.2
    · rw [beq_eq_false_iff_ne]
      rintro rfl
      exact absurd (blankLeft '=' space) (by decide)
  have split := Text.splitOnce?_append (· == '=') (key ++ left) (right ++ value) '=' absent rfl
  rw [List.append_assoc] at split
  have keyEnd : Text.trimEnd (key ++ left) = key := by
    rw [Text.trimEnd_append key blankLeft]
    exact Text.trimEnd_eq_self key
      fun c last => (keyword c (List.mem_of_mem_getLast? last)).1
  have valueStart : Text.trimStart (right ++ value) = value := by
    rw [Text.trimStart_append blankRight]
    exact Text.trimStart_eq_self value head
  simp only [Entry.ofLine, split, keyEnd, valueStart, stripTerminators_keyword keyword]

/-- A keyword, white space and what follows it on a line without an equals sign. -/
theorem Entry.ofLine_keyword (key gap value : List Char) (keyword : IsKeyword key)
    (parts : gap ≠ []) (blank : Text.Blank gap) (noEquals : ∀ c ∈ value, c ≠ '=')
    (head : ∀ c ∈ value.head?, Text.isBlank c = false) :
    Entry.ofLine (key ++ (gap ++ value)) = { key, value } := by
  obtain ⟨first, rest, rfl⟩ := List.exists_cons_of_ne_nil parts
  have whole := Text.splitOnce?_eq_none (· == '=') (key ++ (first :: rest ++ value)) (by
    intro c member
    rw [beq_eq_false_iff_ne]
    rintro rfl
    rcases List.mem_append.mp member with inKey | later
    · exact (keyword '=' inKey).2.2 rfl
    · rcases List.mem_append.mp later with inGap | inValue
      · exact absurd (blank '=' inGap) (by decide)
      · exact noEquals '=' inValue rfl)
  have split := Text.splitOnce?_append Text.isBlank key (rest ++ value) first
    (fun c member => (keyword c member).1) (blank first List.mem_cons_self)
  have start : Text.trimStart (rest ++ value) = value := by
    rw [Text.trimStart_append fun c member => blank c (List.mem_cons_of_mem first member)]
    exact Text.trimStart_eq_self value head
  rw [List.cons_append] at whole ⊢
  simp only [Entry.ofLine, whole, split, start, stripTerminators_keyword keyword]

/-- What an entry is, on any line: without an equals sign and white space the line is its key, else
it is cut at one of these. -/
theorem Entry.ofLine_cases (text : List Char) :
    (∀ c ∈ text, c ≠ '=' ∧ Text.isBlank c = false) ∧
        Entry.ofLine text = { key := stripTerminators text, value := [] } ∨
      ∃ front mark rest, text = front ++ mark :: rest ∧ (mark = '=' ∨ Text.isBlank mark = true) ∧
        Entry.ofLine text =
          { key := stripTerminators (Text.trimEnd front), value := Text.trimStart rest } := by
  cases equals : Text.splitOnce? (· == '=') text with
  | some parts =>
      obtain ⟨front, rest⟩ := parts
      obtain ⟨mark, whole, isEquals, -⟩ := Text.splitOnce?_eq_some equals
      refine Or.inr ⟨front, mark, rest, whole, Or.inl (by simpa using isEquals), ?_⟩
      simp only [Entry.ofLine, equals]
  | none =>
      have noEquals := Text.absent_of_splitOnce?_eq_none equals
      cases blank : Text.splitOnce? Text.isBlank text with
      | some parts =>
          obtain ⟨front, rest⟩ := parts
          obtain ⟨mark, whole, isBlank, solid⟩ := Text.splitOnce?_eq_some blank
          refine Or.inr ⟨front, mark, rest, whole, Or.inr isBlank, ?_⟩
          have kept := Text.trimEnd_eq_self front
            fun c last => solid c (List.mem_of_mem_getLast? last)
          simp only [Entry.ofLine, equals, blank, kept]
      | none =>
          have solid := Text.absent_of_splitOnce?_eq_none blank
          refine Or.inl ⟨fun c member => ⟨by simpa using noEquals c member, solid c member⟩, ?_⟩
          simp only [Entry.ofLine, equals, blank]

theorem Entry.key_isPrefix (text : List Char) : (Entry.ofLine text).key <+: text := by
  rcases Entry.ofLine_cases text with ⟨-, same⟩ | ⟨front, mark, rest, rfl, -, same⟩
  · rw [same]
    exact stripTerminators_isPrefix text
  · rw [same]
    have inFront := Text.dropEndWhile_isPrefix Text.isBlank front
    exact ((stripTerminators_isPrefix _).trans inFront).trans
      (List.prefix_append front (mark :: rest))

theorem Entry.last_key (text : List Char) :
    ∀ c ∈ (Entry.ofLine text).key.getLast?, Text.isBlank c = false := by
  rcases Entry.ofLine_cases text with ⟨-, same⟩ | ⟨front, mark, rest, -, -, same⟩ <;> rw [same] <;>
    exact Text.last_dropEndWhile Text.isBlank _

theorem Entry.value_isSuffix (text : List Char) : (Entry.ofLine text).value <:+ text := by
  rcases Entry.ofLine_cases text with ⟨-, same⟩ | ⟨front, mark, rest, rfl, -, same⟩
  · rw [same]
    exact List.nil_suffix
  · rw [same]
    exact ((List.dropWhile_suffix Text.isBlank).trans (List.suffix_cons mark rest)).trans
      (List.suffix_append front (mark :: rest))

/-- A keyword that stands alone. -/
theorem Entry.ofLine_word (key : List Char) (keyword : IsKeyword key) :
    Entry.ofLine key = { key, value := [] } := by
  have noEquals := Text.splitOnce?_eq_none (· == '=') key
    (fun c member => by simpa using (keyword c member).2.2)
  have noBlank := Text.splitOnce?_eq_none Text.isBlank key
    (fun c member => (keyword c member).1)
  simp only [Entry.ofLine, noEquals, noBlank, stripTerminators_keyword keyword]

theorem mem_namesOf {raw : List Char} {name : String} :
    name ∈ namesOf raw ↔
      name.toList ≠ [] ∧ ∃ piece ∈ Text.fields (· == ',') raw, Text.trim piece = name.toList := by
  rw [namesOf, List.mem_filterMap]
  constructor
  · rintro ⟨text, among, kept⟩
    obtain ⟨piece, cut, rfl⟩ := List.mem_map.mp among
    split at kept
    · cases kept
    · rename_i solid
      cases kept
      rw [String.toList_ofList]
      exact ⟨solid, piece, cut, rfl⟩
  · rintro ⟨solid, piece, cut, same⟩
    refine ⟨name.toList, List.mem_map.mpr ⟨piece, cut, same⟩, ?_⟩
    rw [if_neg solid, String.ofList_toList]

/-- A name stands in its list without a comma, and behind it white space and a comma or nothing. -/
theorem exists_of_mem_namesOf {raw : List Char} {name : String} (member : name ∈ namesOf raw) :
    ',' ∉ name.toList ∧ ∃ before gap after, raw = before ++ (name.toList ++ (gap ++ after)) ∧
      Text.Blank gap ∧ ∀ c ∈ after.head?, c = ',' := by
  obtain ⟨-, piece, cut, trimmed⟩ := mem_namesOf.mp member
  obtain ⟨before, after, whole, ends⟩ := Text.exists_of_mem_fields cut
  obtain ⟨gap, parts, blank⟩ := Text.exists_blank_trim piece
  rw [trimmed] at parts
  constructor
  · intro comma
    have inPiece : ',' ∈ piece := by
      rw [parts]
      exact List.mem_append_left gap (List.mem_append_right _ comma)
    have noComma := (Text.mem_of_mem_fields cut inPiece).2
    cases noComma
  · refine ⟨before ++ piece.takeWhile Text.isBlank, gap, after, ?_, blank, ?_⟩
    · rw [whole]
      nth_rewrite 1 [parts]
      simp only [List.append_assoc]
    · exact fun c head => by simpa using ends c head

theorem namesOf_comma (before after : List Char) :
    namesOf (before ++ ',' :: after) = namesOf before ++ namesOf after := by
  rw [namesOf, Text.fields_append _ _ _ _ (by rfl), List.map_append, List.filterMap_append]
  rfl

theorem namesOf_blank (gap raw : List Char) (blank : Text.Blank gap) :
    namesOf (gap ++ raw) = namesOf raw := by
  induction gap with
  | nil => rfl
  | cons c gap ih =>
      have isBlank := blank c List.mem_cons_self
      have noComma : (c == ',') = false := by
        rw [beq_eq_false_iff_ne]
        rintro rfl
        exact absurd isBlank (by decide)
      obtain ⟨field, more, found⟩ :=
        List.exists_cons_of_ne_nil (Text.fields_ne_nil (· == ',') (gap ++ raw))
      have indented : Text.fields (· == ',') (c :: (gap ++ raw)) = (c :: field) :: more := by
        rw [Text.fields, found, noComma]
        rfl
      have trimmed : Text.trim (c :: field) = Text.trim field := by
        rw [Text.trim, Text.trimStart, List.dropWhile_cons_of_pos isBlank]
        rfl
      rw [← ih fun c member => blank c (List.mem_cons_of_mem _ member), List.cons_append, namesOf,
        namesOf, found, indented, List.map_cons, List.map_cons, trimmed]

/-- What can stand between the commas of a list. -/
def IsListed (name : String) : Prop :=
  name.toList ≠ [] ∧ ∀ c ∈ name.toList, Text.isBlank c = false ∧ c ≠ ','

/-- A name is read without the white space around it. -/
theorem namesOf_name (name : String) (gap : List Char) (listed : IsListed name)
    (blank : Text.Blank gap) : namesOf (name.toList ++ gap) = [name] := by
  have noComma : ∀ c ∈ name.toList ++ gap, (c == ',') = false := by
    intro c member
    rw [beq_eq_false_iff_ne]
    rcases List.mem_append.mp member with inName | inGap
    · exact (listed.2 c inName).2
    · rintro rfl
      exact absurd (blank ',' inGap) (by decide)
  have solid (c : Char) (member : c ∈ name.toList) := (listed.2 c member).1
  have trimmed : Text.trim (name.toList ++ gap) = name.toList := by
    rw [Text.trim, Text.trimStart_eq_self, Text.trimEnd_append _ blank]
    · exact Text.trimEnd_eq_self _ fun c last => solid c (List.mem_of_mem_getLast? last)
    · rw [List.head?_append_of_ne_nil _ listed.1]
      exact fun c head => solid c (List.mem_of_mem_head? head)
  rw [namesOf, Text.fields_eq_singleton _ _ noComma, List.map_cons, trimmed, List.map_nil]
  simp [listed.1]

/-- Names that are joined by commas are read back. -/
theorem namesOf_intercalate (names : List String) (listed : ∀ name ∈ names, IsListed name) :
    namesOf (List.intercalate [',', ' '] (names.map String.toList)) = names := by
  induction names with
  | nil => rfl
  | cons first rest ih =>
      have head : namesOf first.toList = [first] := by
        simpa using namesOf_name first [] (listed first List.mem_cons_self) nofun
      cases rest with
      | nil => simpa using head
      | cons second rest =>
          rw [List.map_cons, List.map_cons, List.intercalate_cons_cons, ← List.map_cons,
            List.append_assoc, List.cons_append, namesOf_comma,
            namesOf_blank [' '] _ (by decide), head,
            ih fun name member => listed name (List.mem_cons_of_mem _ member)]
          rfl

end DirSchema.Decoder
