import DirSchema.Proofs.Decoder.Entries
import DirSchema.Proofs.Decoder.Significance
import DirSchema.Proofs.Decoder.Strings
set_option autoImplicit false

namespace DirSchema.Decoder

/-- A string that ends in a semicolon or a comma. -/
def EndsTerminated (value : String) : Prop :=
  ∃ c ∈ value.toList.getLast?, isTerminator c = true

/-- A string that stands in a text before terminators that are not all stripped with its own. -/
inductive Unstripped : List Char → String → Prop
  /-- White space parts the string from a terminator. -/
  | parted {value : String} {gap : List Char} {mark : Char} (before after : List Char)
      (parts : gap ≠ []) (blank : Text.Blank gap) (terminates : isTerminator mark = true) :
      Unstripped (before ++ (value.toList ++ (gap ++ mark :: after))) value
  /-- The string ends in a semicolon and a comma follows. -/
  | divided {value : String} (before after : List Char) (ends : value.toList.getLast? = some ';') :
      Unstripped (before ++ (value.toList ++ ',' :: after)) value

namespace Unstripped

theorem of_isInfix {inner text : List Char} {value : String} (unstripped : Unstripped inner value)
    (inside : inner <:+: text) : Unstripped text value := by
  obtain ⟨front, back, rfl⟩ := inside
  cases unstripped with
  | parted before after parts blank terminates =>
      simpa using parted (front ++ before) (after ++ back) parts blank terminates
  | divided before after ends =>
      simpa using divided (front ++ before) (after ++ back) ends

/-- One run of characters is dropped at the end of a text: if what is left ends in such a
character, there was a second run. -/
theorem of_trimEnd {p : Char → Bool} (stops : ∀ c, p c = true → isTerminator c = true)
    {raw front : List Char} {value : String} {c : Char}
    (solid : ∀ c ∈ raw.getLast?, Text.isBlank c = false)
    (left : Text.trimEnd (Text.dropEndWhile p raw) = front ++ value.toList)
    (last : value.toList.getLast? = some c) (dropped : p c = true) : Unstripped raw value := by
  have ends : (Text.trimEnd (Text.dropEndWhile p raw)).getLast? = some c := by
    rw [left, List.getLast?_append, last, Option.some_or]
  obtain ⟨gap, mark, after, whole, parts, blank, marks⟩ :=
    Text.exists_gap_of_last_trimEnd solid ends dropped
  rw [left, List.append_assoc] at whole
  rw [whole]
  exact parted front after parts blank (stops mark marks)

private theorem of_value? {raw : List Char} {value : String}
    (solid : ∀ c ∈ raw.getLast?, Text.isBlank c = false) (read : value? raw = some value)
    (ends : EndsTerminated value) : Unstripped raw value := by
  obtain ⟨c, last, terminates⟩ := ends
  have left : stripTerminators raw = [] ++ value.toList := (toList_of_value? read).1.symm
  exact of_trimEnd (fun _ => id) solid left last terminates

/-- A name of a list that is left ends in a terminator, which can only be a semicolon: it is the
last name, or a comma divides it from the next one. -/
theorem of_mem_namesOf {p : Char → Bool} (semicolon : p ';' = true)
    (stops : ∀ c, p c = true → isTerminator c = true) {raw : List Char} {value : String}
    (solid : ∀ c ∈ raw.getLast?, Text.isBlank c = false)
    (listed : value ∈ namesOf (Text.trimEnd (Text.dropEndWhile p raw)))
    (ends : EndsTerminated value) : Unstripped raw value := by
  obtain ⟨noComma, before, gap, after, left, blank, divides⟩ := exists_of_mem_namesOf listed
  have last : value.toList.getLast? = some ';' := by
    obtain ⟨c, last, terminates⟩ := ends
    simp only [isTerminator, Bool.or_eq_true, beq_iff_eq] at terminates
    rcases terminates with rfl | rfl
    · exact last
    · exact absurd (List.mem_of_mem_getLast? last) noComma
  have inside : Text.trimEnd (Text.dropEndWhile p raw) <:+: raw :=
    ((Text.dropEndWhile_isPrefix Text.isBlank _).trans (Text.dropEndWhile_isPrefix p raw)).isInfix
  cases after with
  | cons c after =>
      cases divides c rfl
      refine of_isInfix ?_ inside
      rw [left]
      by_cases parts : gap = []
      · rw [parts, List.nil_append]
        exact divided before after last
      · exact parted before after parts blank rfl
  | nil =>
      -- Nothing follows the last name, since what is left has no white space at its end.
      have solidLeft := Text.last_dropEndWhile Text.isBlank (Text.dropEndWhile p raw)
      rw [← Text.trimEnd, left, List.append_nil, ← List.append_assoc] at solidLeft
      have noGap := blank.eq_nil_of_last solidLeft
      rw [noGap, List.append_nil, List.append_nil] at left
      exact of_trimEnd stops solid left last semicolon

end Unstripped

theorem BindingDraft.parentAfter?_isSuffix {raw parent : List Char}
    (behind : BindingDraft.parentAfter? raw = some parent) : parent <:+ raw := by
  rw [BindingDraft.parentAfter?] at behind
  split at behind
  · rename_i word rest cut
    obtain ⟨mark, rfl, -⟩ := Text.splitOnce?_eq_some cut
    split at behind
    · cases behind
      exact (List.suffix_cons mark parent).trans (List.suffix_append word (mark :: parent))
    · cases behind
  · cases behind

/-- A line gives a string that ends in a terminator only where one is not stripped. -/
theorem Yields.unstripped {text : List Char} {given : String} (yields : Yields text given)
    (trimmed : Text.Trimmed text) (ends : EndsTerminated given) : Unstripped text given := by
  have suffix := Entry.value_isSuffix text
  have solid : ∀ c ∈ (Entry.ofLine text).value.getLast?, Text.isBlank c = false := by
    intro c last
    obtain ⟨front, whole⟩ := suffix
    refine trimmed.stop c ?_
    rw [← whole, List.getLast?_append, Option.mem_def.mp last]
    rfl
  have semicolons (c : Char) (same : (c == ';') = true) : isTerminator c = true := by
    rw [beq_iff_eq.mp same]
    rfl
  cases yields with
  | value read => exact (Unstripped.of_value? solid read ends).of_isInfix suffix.isInfix
  | key read =>
      have inKey := Unstripped.of_value? (Entry.last_key text) read ends
      exact inKey.of_isInfix (Entry.key_isPrefix text).isInfix
  | @parent raw _ behind read =>
      have inParent := Unstripped.of_value? (Text.trimmed_trim raw).stop read ends
      have after := (BindingDraft.parentAfter?_isSuffix behind).isInfix
      exact inParent.of_isInfix (((Text.trim_isInfix raw).trans after).trans suffix.isInfix)
  | reference listed =>
      have inValue := Unstripped.of_mem_namesOf rfl (fun _ => id) solid listed ends
      exact inValue.of_isInfix suffix.isInfix
  | begun listed =>
      have inValue := Unstripped.of_mem_namesOf (p := (· == ';')) rfl semicolons solid listed ends
      exact inValue.of_isInfix suffix.isInfix
  | continued listed =>
      exact Unstripped.of_mem_namesOf (p := (· == ';')) rfl semicolons trimmed.stop listed ends

/-- A string of a schema that was decoded ends in a terminator only if a line has another one that
is not stripped with it. -/
theorem unstripped_of_mem_strings (inputs : List Input) {value : String}
    (stored : value ∈ (declareAll {} (events (linesOf inputs))).strings)
    (ends : EndsTerminated value) : ∃ text ∈ significantTexts inputs, Unstripped text value := by
  obtain ⟨line, among, significant, yields⟩ := exists_line_of_mem_strings stored
  have trimmed : Text.Trimmed line.text := by
    have member := List.mem_map_of_mem (f := (·.text)) among
    rw [map_text_linesOf, List.mem_flatMap] at member
    obtain ⟨input, -, cut⟩ := member
    obtain ⟨raw, -, same⟩ := List.mem_map.mp cut
    exact same ▸ Text.trimmed_trim raw
  refine ⟨line.text, ?_, yields.unstripped trimmed ends⟩
  rw [significantTexts_eq]
  exact List.mem_map.mpr ⟨line, List.mem_filter.mpr ⟨among, significant⟩, rfl⟩

/-- An attribute whose name has two runs of terminators behind it. -/
def doubled : Input :=
  { file := 0, text := "set attribute a = \x7b\nname = cn; ;\n\x7d;\n" }

theorem mem_strings_doubled :
    "cn;" ∈ (declareAll {} (events (linesOf [doubled]))).strings := by decide +kernel

theorem doubled_unstripped :
    "cn;" ∈ (declareAll {} (events (linesOf [doubled]))).strings ∧ EndsTerminated "cn;" ∧
      ∃ text ∈ significantTexts [doubled], Unstripped text "cn;" := by
  have ends : EndsTerminated "cn;" := ⟨';', rfl, rfl⟩
  exact ⟨mem_strings_doubled, ends, unstripped_of_mem_strings [doubled] mem_strings_doubled ends⟩

/-- The run that is kept survives into the schema. -/
theorem doubled_not_clean :
    ¬ ∀ (inputs : List Input) (value : String),
      value ∈ (declareAll {} (events (linesOf inputs))).strings → ¬ EndsTerminated value := by
  intro clean
  exact clean [doubled] "cn;" mem_strings_doubled ⟨';', rfl, rfl⟩

end DirSchema.Decoder
