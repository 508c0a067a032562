import DirSchema.Text.Basic
import Mathlib.Data.List.DropRight
set_option autoImplicit false

namespace DirSchema.Text

theorem dropEndWhile_eq_rdropWhile (p : Char → Bool) (cs : List Char) :
    dropEndWhile p cs = cs.rdropWhile p := rfl

/-- No white space at either end. -/
structure Trimmed (cs : List Char) : Prop where
  start : ∀ c ∈ cs.head?, isBlank c = false
  stop : ∀ c ∈ cs.getLast?, isBlank c = false

private theorem dropWhile_eq_self_of_head (p : Char → Bool) (cs : List Char)
    (head : ∀ c ∈ cs.head?, p c = false) : cs.dropWhile p = cs := by
  cases cs with
  | nil => rfl
  | cons c cs => simp [head c rfl]

theorem dropEndWhile_eq_self (p : Char → Bool) (cs : List Char)
    (last : ∀ c ∈ cs.getLast?, p c = false) : dropEndWhile p cs = cs := by
  rw [dropEndWhile_eq_rdropWhile, List.rdropWhile_eq_self_iff]
  intro nonempty
  simp [last _ (List.getLast?_eq_some_getLast nonempty)]

theorem last_dropEndWhile (p : Char → Bool) (cs : List Char) :
    ∀ c ∈ (dropEndWhile p cs).getLast?, p c = false := by
  intro c last
  rw [dropEndWhile_eq_rdropWhile] at last
  obtain ⟨nonempty, rfl⟩ := List.mem_getLast?_eq_getLast last
  simpa using List.rdropWhile_last_not p cs nonempty

theorem trimStart_eq_self (cs : List Char) (head : ∀ c ∈ cs.head?, isBlank c = false) :
    trimStart cs = cs := dropWhile_eq_self_of_head isBlank cs head

theorem trimEnd_eq_self (cs : List Char) (last : ∀ c ∈ cs.getLast?, isBlank c = false) :
    trimEnd cs = cs := dropEndWhile_eq_self isBlank cs last

/-- White space throughout. -/
def Blank (cs : List Char) : Prop := ∀ c ∈ cs, isBlank c = true

instance (cs : List Char) : Decidable (Blank cs) :=
  decidable_of_iff (cs.all isBlank = true) List.all_eq_true

/-- No white space stands behind a text that has none at its end. -/
theorem Blank.eq_nil_of_last {front gap : List Char} (blank : Blank gap)
    (solid : ∀ c ∈ (front ++ gap).getLast?, isBlank c = false) : gap = [] := by
  by_contra nonempty
  have last := List.getLast?_eq_some_getLast nonempty
  rw [← List.getLast?_append_of_ne_nil front nonempty] at last
  have noBlank := solid _ last
  rw [blank _ (List.getLast_mem nonempty)] at noBlank
  cases noBlank

theorem dropEndWhile_append {p : Char → Bool} (cs : List Char) {tail : List Char}
    (dropped : ∀ c ∈ tail, p c = true) : dropEndWhile p (cs ++ tail) = dropEndWhile p cs := by
  rw [dropEndWhile, List.reverse_append, List.dropWhile_append_of_pos (by simpa using dropped)]
  rfl

theorem trimEnd_append (cs : List Char) {gap : List Char} (blank : Blank gap) :
    trimEnd (cs ++ gap) = trimEnd cs := dropEndWhile_append cs blank

theorem trimStart_append {gap : List Char} (blank : Blank gap) (cs : List Char) :
    trimStart (gap ++ cs) = trimStart cs := List.dropWhile_append_of_pos blank

/-- White space at the start does not matter to the end. -/
theorem getLast?_trimStart {cs : List Char} {c : Char} (last : cs.getLast? = some c)
    (solid : isBlank c = false) : (trimStart cs).getLast? = some c := by
  have nonempty : trimStart cs ≠ [] := by
    intro nothing
    have blank := List.dropWhile_eq_nil_iff.mp nothing c (List.mem_of_getLast? last)
    rw [solid] at blank
    cases blank
  obtain ⟨gap, whole⟩ := List.dropWhile_suffix (l := cs) isBlank
  rw [← trimStart] at whole
  rw [← last, ← List.getLast?_append_of_ne_nil gap nonempty, whole]

theorem head_trimStart (cs : List Char) : ∀ c ∈ (trimStart cs).head?, isBlank c = false := by
  intro c head
  have found := List.head?_dropWhile_not isBlank cs
  rw [trimStart] at head
  rw [Option.mem_def] at head
  simpa [head] using found

/-- Trimming keeps exactly the texts without white space at their ends. -/
theorem trim_eq_self_iff (cs : List Char) : trim cs = cs ↔ Trimmed cs := by
  constructor
  · intro same
    have start : trimStart cs = cs := by
      apply (List.dropWhile_suffix isBlank).eq_of_length_le
      have shorter := (List.rdropWhile_prefix isBlank (trimStart cs)).length_le
      have kept := congrArg List.length same
      rw [trim, trimEnd, dropEndWhile_eq_rdropWhile] at kept
      exact Nat.le_trans (Nat.le_of_eq kept.symm) shorter
    refine ⟨?_, ?_⟩
    · intro c head
      rw [← start] at head
      exact head_trimStart cs c head
    · intro c last
      rw [← same] at last
      exact last_dropEndWhile isBlank (trimStart cs) c last
  · intro trimmed
    rw [trim, trimStart_eq_self cs trimmed.start, trimEnd_eq_self cs trimmed.stop]

/-- Only the ends of a text matter, whatever stands between them. -/
theorem Trimmed.join {front back : List Char} (trimmedFront : Trimmed front) (hasFront : front ≠ [])
    (trimmedBack : Trimmed back) (hasBack : back ≠ []) (middle : List Char) :
    Trimmed (front ++ (middle ++ back)) := by
  refine ⟨?_, ?_⟩
  · rw [List.head?_append_of_ne_nil front hasFront]
    exact trimmedFront.start
  · rw [← List.append_assoc, List.getLast?_append_of_ne_nil _ hasBack]
    exact trimmedBack.stop

/-- One more blank behind a text changes nothing. -/
theorem trim_append_blank (cs : List Char) (c : Char) (blank : isBlank c = true) :
    trim (cs ++ [c]) = trim cs := by
  have start : trimStart (cs ++ [c]) = trimStart cs ++ [c] ∨
      trimStart (cs ++ [c]) = trimStart cs := by
    rw [trimStart, trimStart, List.dropWhile_append]
    split
    · rename_i empty
      right
      rw [List.isEmpty_iff.mp empty]
      simp [blank]
    · left
      rfl
  rw [trim, trim]
  rcases start with later | gone
  · rw [later, trimEnd, dropEndWhile_eq_rdropWhile, List.rdropWhile_concat_pos _ _ _ blank]
    rfl
  · rw [gone]

private theorem beforeLast?_eq_some {last : Char} {cs before : List Char}
    (found : beforeLast? last cs = some before) : cs = before ++ [last] := by
  rw [beforeLast?] at found
  split at found
  · rename_i ends
    obtain ⟨initial, rfl⟩ := List.getLast?_eq_some_iff.mp ends
    rw [List.dropLast_concat, Option.some.injEq] at found
    rw [found]
  · cases found

/-- The lines of a text are its pieces, when neither ends nor indentation count. -/
theorem map_trim_lines (cs : List Char) : (lines cs).map trim = (pieces cs).map trim := by
  rw [lines, List.map_map]
  refine List.map_congr_left fun piece _ => ?_
  rw [Function.comp]
  cases newline : beforeLast? '\n' piece with
  | none => rfl
  | some line =>
      rw [beforeLast?_eq_some newline, trim_append_blank line '\n' (by decide)]
      simp only
      cases carriage : beforeLast? '\r' line with
      | none => rfl
      | some text =>
          rw [Option.getD_some, beforeLast?_eq_some carriage,
            trim_append_blank text '\r' (by decide)]

theorem splitOnce?_append (p : Char → Bool) (before after : List Char) (c : Char)
    (absent : ∀ c ∈ before, p c = false) (separates : p c = true) :
    splitOnce? p (before ++ c :: after) = some (before, after) := by
  induction before with
  | nil => simp [splitOnce?, separates]
  | cons first rest ih =>
      have absentFirst : p first = false := absent first (by simp)
      have split := ih (fun c member => absent c (by simp [member]))
      simp [splitOnce?, absentFirst, split]

theorem splitOnce?_eq_none (p : Char → Bool) (cs : List Char) (absent : ∀ c ∈ cs, p c = false) :
    splitOnce? p cs = none := by
  induction cs with
  | nil => rfl
  | cons first rest ih =>
      have absentFirst : p first = false := absent first (by simp)
      have split := ih (fun c member => absent c (by simp [member]))
      simp [splitOnce?, absentFirst, split]

theorem splitOnce?_eq_some {p : Char → Bool} {cs before after : List Char}
    (split : splitOnce? p cs = some (before, after)) :
    ∃ c, cs = before ++ c :: after ∧ p c = true ∧ ∀ c ∈ before, p c = false := by
  induction cs generalizing before with
  | nil => cases split
  | cons first rest ih =>
      rw [splitOnce?] at split
      by_cases separates : p first = true
      · rw [if_pos separates] at split
        cases split
        exact ⟨first, rfl, separates, nofun⟩
      · rw [if_neg separates, Option.map_eq_some_iff] at split
        obtain ⟨⟨front, back⟩, found, same⟩ := split
        cases same
        obtain ⟨c, rfl, separatesLater, absent⟩ := ih found
        exact ⟨c, rfl, separatesLater,
          List.forall_mem_cons.mpr ⟨Bool.eq_false_iff.mpr separates, absent⟩⟩

theorem absent_of_splitOnce?_eq_none {p : Char → Bool} {cs : List Char}
    (whole : splitOnce? p cs = none) : ∀ c ∈ cs, p c = false := by
  induction cs with
  | nil => exact nofun
  | cons first rest ih =>
      rw [splitOnce?] at whole
      by_cases separates : p first = true
      · rw [if_pos separates] at whole
        cases whole
      · rw [if_neg separates, Option.map_eq_none_iff] at whole
        exact List.forall_mem_cons.mpr ⟨Bool.eq_false_iff.mpr separates, ih whole⟩

theorem fields_eq_singleton (p : Char → Bool) (cs : List Char) (absent : ∀ c ∈ cs, p c = false) :
    fields p cs = [cs] := by
  induction cs with
  | nil => rfl
  | cons first rest ih =>
      have absentFirst : p first = false := absent first (by simp)
      have split := ih (fun c member => absent c (by simp [member]))
      simp [fields, absentFirst, split]

theorem fields_ne_nil (p : Char → Bool) (cs : List Char) : fields p cs ≠ [] := by
  cases cs with
  | nil => simp [fields]
  | cons c cs =>
      rw [fields]
      split
      · simp
      · split <;> simp

/-- A separator cuts a text into the fields of what precedes and of what follows it. -/
theorem fields_append (p : Char → Bool) (before after : List Char) (c : Char)
    (separates : p c = true) :
    fields p (before ++ c :: after) = fields p before ++ fields p after := by
  induction before with
  | nil => simp [fields, separates]
  | cons first rest ih =>
      rw [List.cons_append, fields, fields, ih]
      by_cases cut : p first = true
      · simp [cut]
      · obtain ⟨field, more, found⟩ := List.exists_cons_of_ne_nil (fields_ne_nil p rest)
        simp [cut, found]

/-- The fields of a text are made of its characters that do not separate. -/
theorem mem_of_mem_fields {p : Char → Bool} {cs piece : List Char} {c : Char}
    (member : piece ∈ fields p cs) (inside : c ∈ piece) : c ∈ cs ∧ p c = false := by
  induction cs generalizing piece with
  | nil =>
      rw [fields, List.mem_singleton] at member
      rw [member] at inside
      cases inside
  | cons first rest ih =>
      rw [fields] at member
      split at member
      · rcases List.mem_cons.mp member with rfl | later
        · cases inside
        · exact ⟨List.mem_cons_of_mem _ (ih later inside).1, (ih later inside).2⟩
      rename_i solid
      split at member
      · rw [List.mem_singleton] at member
        rw [member, List.mem_singleton] at inside
        rw [inside]
        exact ⟨List.mem_cons_self, by simpa using solid⟩
      · rename_i head tail cut
        rw [cut] at ih
        rcases List.mem_cons.mp member with rfl | later
        · rcases List.mem_cons.mp inside with rfl | inside
          · exact ⟨List.mem_cons_self, by simpa using solid⟩
          · have known := ih List.mem_cons_self inside
            exact ⟨List.mem_cons_of_mem _ known.1, known.2⟩
        · have known := ih (List.mem_cons_of_mem _ later) inside
          exact ⟨List.mem_cons_of_mem _ known.1, known.2⟩

private theorem exists_of_head_fields {p : Char → Bool} {cs first : List Char}
    {more : List (List Char)}
    (found : fields p cs = first :: more) :
    ∃ after, cs = first ++ after ∧ ∀ c ∈ after.head?, p c = true := by
  induction cs generalizing first more with
  | nil =>
      cases found
      exact ⟨[], rfl, nofun⟩
  | cons c rest ih =>
      rw [fields] at found
      split at found
      · rename_i separates
        cases found
        exact ⟨c :: rest, rfl, by rintro c ⟨⟩; exact separates⟩
      · split at found
        · rename_i nothing
          exact absurd nothing (fields_ne_nil p rest)
        · rename_i head tail cut
          cases found
          obtain ⟨after, whole, ends⟩ := ih cut
          exact ⟨after, by rw [whole, List.cons_append], ends⟩

/-- A field stands in its text, and a separator follows it unless it is the last. -/
theorem exists_of_mem_fields {p : Char → Bool} {cs piece : List Char}
    (member : piece ∈ fields p cs) :
    ∃ before after, cs = before ++ (piece ++ after) ∧ ∀ c ∈ after.head?, p c = true := by
  induction cs with
  | nil =>
      cases List.mem_singleton.mp member
      exact ⟨[], [], rfl, nofun⟩
  | cons c rest ih =>
      obtain ⟨first, more, found⟩ := List.exists_cons_of_ne_nil (fields_ne_nil p (c :: rest))
      have tail : more ⊆ fields p rest := by
        rw [fields] at found
        split at found
        · cases found
          exact List.Subset.refl _
        · split at found <;> cases found
          · exact List.nil_subset _
          · rename_i cut
            rw [cut]
            exact List.subset_cons_self _ _
      rcases List.mem_cons.mp (found ▸ member) with rfl | later
      · obtain ⟨after, whole, ends⟩ := exists_of_head_fields found
        exact ⟨[], after, whole, ends⟩
      · obtain ⟨before, after, whole, ends⟩ := ih (tail later)
        exact ⟨c :: before, after, by rw [whole, List.cons_append], ends⟩

theorem firstWord?_append (word rest : List Char) (c : Char) (nonempty : word ≠ [])
    (absent : ∀ c ∈ word, isBlank c = false) (blank : isBlank c = true) :
    firstWord? (word ++ c :: rest) = some word := by
  have start : trimStart (word ++ c :: rest) = word ++ c :: rest := by
    apply trimStart_eq_self
    rw [List.head?_append_of_ne_nil word nonempty]
    exact fun c head => absent c (List.mem_of_mem_head? head)
  have run : (word ++ c :: rest).takeWhile (fun c => !isBlank c) = word := by
    rw [List.takeWhile_append_of_pos (by simpa using absent)]
    simp [blank]
  rw [firstWord?, start, run]
  cases word with
  | nil => exact absurd rfl nonempty
  | cons first rest => rfl

theorem pieces_append_newline (line rest : List Char) (single : '\n' ∉ line) :
    pieces (line ++ '\n' :: rest) = (line ++ ['\n']) :: pieces rest := by
  induction line with
  | nil => simp [pieces]
  | cons first line ih =>
      simp only [List.mem_cons, not_or] at single
      have first_ne : first ≠ '\n' := Ne.symm single.1
      simp [pieces, first_ne, ih single.2]

theorem byteLength_append (front back : List Char) :
    byteLength (front ++ back) = byteLength front + byteLength back := by
  have shifted (cs : List Char) (start : Nat) :
      cs.foldl (fun length c => length + c.utf8Size) start = start + byteLength cs := by
    induction cs generalizing start with
    | nil => rfl
    | cons c cs ih =>
        simp only [byteLength, List.foldl_cons, Nat.zero_add] at ih ⊢
        rw [ih, ih c.utf8Size, Nat.add_assoc]
  rw [byteLength, List.foldl_append, shifted back]
  rfl

theorem byteLength_pos {cs : List Char} (nonempty : cs ≠ []) : 0 < byteLength cs := by
  cases cs with
  | nil => exact absurd rfl nonempty
  | cons c rest =>
      have first : byteLength [c] = c.utf8Size := by simp [byteLength]
      have positive := c.utf8Size_pos
      have length := byteLength_append [c] rest
      rw [List.singleton_append] at length
      omega

/-- What is trimmed stands behind the white space at the start and fits into the text. -/
theorem byteLength_trim (cs : List Char) :
    byteLength (cs.takeWhile isBlank) + byteLength (trim cs) ≤ byteLength cs := by
  obtain ⟨blank, ends⟩ := List.rdropWhile_prefix isBlank (trimStart cs)
  have start := byteLength_append (cs.takeWhile isBlank) (trimStart cs)
  have stop := byteLength_append (trim cs) blank
  rw [trimStart, List.takeWhile_append_dropWhile, ← trimStart] at start
  rw [trim, trimEnd, dropEndWhile_eq_rdropWhile, ends] at stop
  rw [trim, trimEnd, dropEndWhile_eq_rdropWhile]
  omega

/-- A text of which nothing is left is white space throughout. -/
theorem takeWhile_isBlank_of_trim_nil {cs : List Char} (nothing : trim cs = []) :
    cs.takeWhile isBlank = cs := by
  have blank : ∀ c ∈ trimStart cs, isBlank c = true := by
    rw [trim, trimEnd, dropEndWhile_eq_rdropWhile, List.rdropWhile_eq_nil_iff] at nothing
    exact nothing
  have start : trimStart cs = [] := by
    cases rest : trimStart cs with
    | nil => rfl
    | cons c more =>
        have solid := head_trimStart cs c (by rw [rest]; rfl)
        rw [blank c (by rw [rest]; exact List.mem_cons_self)] at solid
        cases solid
  have split := List.takeWhile_append_dropWhile (p := isBlank) (l := cs)
  rwa [← trimStart, start, List.append_nil] at split

theorem ne_nil_of_mem_pieces {cs piece : List Char} (member : piece ∈ pieces cs) :
    piece ≠ [] := by
  induction cs generalizing piece with
  | nil => cases member
  | cons c rest ih =>
      rw [pieces] at member
      split at member
      · rcases List.mem_cons.mp member with rfl | later
        · exact List.cons_ne_nil c []
        · exact ih later
      · split at member
        · rw [List.mem_singleton.mp member]
          exact List.cons_ne_nil c []
        · rename_i first more found
          rcases List.mem_cons.mp member with rfl | later
          · exact List.cons_ne_nil c first
          · exact ih (by rw [found]; exact List.mem_cons_of_mem _ later)

/-- The pieces of a text make up the text. -/
theorem flatten_pieces (cs : List Char) : (pieces cs).flatten = cs := by
  induction cs with
  | nil => rfl
  | cons c rest ih =>
      rw [pieces]
      split
      · rw [List.flatten_cons, ih, List.singleton_append]
      · split
        · rename_i nothing
          rw [nothing, List.flatten_nil] at ih
          rw [← ih]
          rfl
        · rename_i first more found
          rw [found, List.flatten_cons] at ih
          rw [List.flatten_cons, List.cons_append, ih]

/-- A newline can only end a piece. -/
theorem newline_not_mem_dropLast {cs piece : List Char} (member : piece ∈ pieces cs) :
    '\n' ∉ piece.dropLast := by
  induction cs generalizing piece with
  | nil => cases member
  | cons c rest ih =>
      rw [pieces] at member
      split at member
      · rcases List.mem_cons.mp member with rfl | later
        · simp
        · exact ih later
      · rename_i other
        split at member
        · rw [List.mem_singleton.mp member]
          simp
        · rename_i first more found
          rcases List.mem_cons.mp member with rfl | later
          · have nonempty : first ≠ [] :=
              ne_nil_of_mem_pieces (by rw [found]; exact List.mem_cons_self)
            have inFirst := ih (by rw [found]; exact List.mem_cons_self)
            rw [List.dropLast_cons_of_ne_nil nonempty]
            simp [inFirst, Ne.symm other]
          · exact ih (by rw [found]; exact List.mem_cons_of_mem _ later)

/-- Every piece but the last ends in a newline. -/
theorem getLast?_of_mem_pieces {cs piece : List Char} {front back : List (List Char)}
    (split : pieces cs = front ++ piece :: back) (more : back ≠ []) :
    piece.getLast? = some '\n' := by
  induction cs generalizing front piece with
  | nil =>
      rw [pieces] at split
      simp at split
  | cons c rest ih =>
      rw [pieces] at split
      split at split
      · rename_i newline
        cases front with
        | nil =>
            cases split
            simp [newline]
        | cons first front => exact ih (List.cons_eq_cons.mp split).2
      · split at split
        · cases front <;> simp_all
        · rename_i first others found
          cases front with
          | nil =>
              obtain ⟨rfl, rfl⟩ := List.cons_eq_cons.mp split
              have nonempty : first ≠ [] :=
                ne_nil_of_mem_pieces (by rw [found]; exact List.mem_cons_self)
              have cut : pieces rest = [] ++ first :: others := found
              rw [List.getLast?_cons_of_ne_nil nonempty]
              exact ih cut
          | cons other front =>
              obtain ⟨-, rfl⟩ := List.cons_eq_cons.mp split
              have cut : pieces rest = (first :: front) ++ piece :: back := found
              exact ih cut

theorem trimmed_trim (cs : List Char) : Trimmed (trim cs) where
  start := by
    intro c head
    obtain ⟨blank, ends⟩ := List.rdropWhile_prefix isBlank (trimStart cs)
    rw [← dropEndWhile_eq_rdropWhile, ← trimEnd, ← trim] at ends
    apply head_trimStart cs
    rw [← ends, List.head?_append, Option.mem_def.mp head]
    rfl
  stop := last_dropEndWhile isBlank (trimStart cs)

theorem exists_of_dropEndWhile (p : Char → Bool) (cs : List Char) :
    ∃ tail, cs = dropEndWhile p cs ++ tail ∧ ∀ c ∈ tail, p c = true :=
  ⟨cs.rtakeWhile p, List.rdropWhile_append_rtakeWhile.symm, fun _ => List.mem_rtakeWhile_imp⟩

theorem dropEndWhile_isPrefix (p : Char → Bool) (cs : List Char) : dropEndWhile p cs <+: cs := by
  obtain ⟨tail, whole, -⟩ := exists_of_dropEndWhile p cs
  exact ⟨tail, whole.symm⟩

theorem trim_isInfix (cs : List Char) : trim cs <:+: cs :=
  (dropEndWhile_isPrefix isBlank _).isInfix.trans (List.dropWhile_suffix isBlank).isInfix

/-- If what is left of a text ends in a character that is dropped at its end, it is because white
space parts that end from the characters that were dropped. -/
theorem exists_gap_of_last_trimEnd {p : Char → Bool} {cs : List Char} {c : Char}
    (solid : ∀ c ∈ cs.getLast?, isBlank c = false)
    (last : (trimEnd (dropEndWhile p cs)).getLast? = some c) (dropped : p c = true) :
    ∃ gap mark after, cs = trimEnd (dropEndWhile p cs) ++ (gap ++ mark :: after) ∧ gap ≠ [] ∧
      Blank gap ∧ p mark = true := by
  obtain ⟨tail, whole, dropsTail⟩ := exists_of_dropEndWhile p cs
  obtain ⟨gap, inner, blank⟩ := exists_of_dropEndWhile isBlank (dropEndWhile p cs)
  rw [← trimEnd] at inner
  have parts : gap ≠ [] := by
    rintro rfl
    rw [← List.append_nil (trimEnd _), ← inner] at last
    rw [last_dropEndWhile p cs c last] at dropped
    cases dropped
  rw [inner, List.append_assoc] at whole
  cases tail with
  | nil =>
      rw [List.append_nil] at whole
      rw [whole] at solid
      exact absurd (Blank.eq_nil_of_last blank solid) parts
  | cons mark after =>
      exact ⟨gap, mark, after, whole, parts, blank, dropsTail mark List.mem_cons_self⟩

/-- A text is the white space at its start, what trimming leaves, and white space. -/
theorem exists_blank_trim (cs : List Char) :
    ∃ blank, cs = cs.takeWhile isBlank ++ trim cs ++ blank ∧ Blank blank := by
  obtain ⟨blank, whole, isBlank⟩ := exists_of_dropEndWhile isBlank (trimStart cs)
  refine ⟨blank, ?_, isBlank⟩
  rw [trim, trimEnd, List.append_assoc, ← whole, trimStart, List.takeWhile_append_dropWhile]

end DirSchema.Text
