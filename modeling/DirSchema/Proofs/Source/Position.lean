import DirSchema.Source.Registry
import DirSchema.Proofs.Text.Cutting
set_option autoImplicit false

namespace DirSchema

namespace Text

theorem byteLength_cons (c : Char) (cs : List Char) :
    byteLength (c :: cs) = c.utf8Size + byteLength cs := by
  have first : byteLength [c] = c.utf8Size := by simp [byteLength]
  rw [← first, ← byteLength_append, List.singleton_append]

/-- Skipping as many bytes as a part has leaves what follows it. -/
theorem slice?_go_append (offset : Nat) (front rest : List Char) :
    slice?.go (offset + byteLength front) offset (front ++ rest) = some rest := by
  induction front generalizing offset with
  | nil => cases rest <;> simp [slice?.go, byteLength]
  | cons c front ih =>
      have positive := c.utf8Size_pos
      have later := ih (offset + c.utf8Size)
      rw [byteLength_cons, List.cons_append, slice?.go, if_neg (by omega), if_neg (by omega),
        ← Nat.add_assoc]
      exact later

private theorem slice?_takeBytes_append (part rest : List Char) :
    slice?.takeBytes (byteLength part) (part ++ rest) = some part := by
  induction part with
  | nil => simp [byteLength, slice?.takeBytes]
  | cons c part ih =>
      have positive := c.utf8Size_pos
      obtain ⟨n, length⟩ : ∃ n, byteLength (c :: part) = n + 1 :=
        Nat.exists_eq_add_one.mpr (byteLength_pos (List.cons_ne_nil c part))
      have split := byteLength_cons c part
      have left : n + 1 - c.utf8Size = byteLength part := by omega
      rw [length, List.cons_append, slice?.takeBytes, if_pos (by omega), left, ih]
      rfl

/-- The bytes of a part of a text are that part. -/
theorem slice?_append (front part rest : List Char) :
    slice? (byteLength front) (byteLength (front ++ part)) (front ++ part ++ rest) = some part := by
  have skipped := slice?_go_append 0 front (part ++ rest)
  have length : byteLength (front ++ part) - byteLength front = byteLength part := by
    rw [byteLength_append]
    omega
  rw [Nat.zero_add] at skipped
  rw [slice?, List.append_assoc, skipped, Option.bind_some, if_pos, length,
    slice?_takeBytes_append]
  rw [byteLength_append]
  omega

end Text

namespace Source

open Text (byteLength byteLength_append byteLength_cons)

theorem startsFrom_append (offset : Nat) (front rest : List Char) :
    startsFrom offset (front ++ rest) =
      startsFrom offset front ++ startsFrom (offset + byteLength front) rest := by
  induction front generalizing offset with
  | nil => rfl
  | cons c front ih =>
      simp only [List.cons_append, startsFrom, ih, byteLength_cons, Nat.add_assoc]
      split <;> rfl

theorem length_startsFrom (offset : Nat) (cs : List Char) :
    (startsFrom offset cs).length = cs.count '\n' := by
  induction cs generalizing offset with
  | nil => rfl
  | cons c cs ih =>
      by_cases newline : c = '\n'
      · simp [startsFrom, newline, ih]
      · simp [startsFrom, newline, ih]

theorem mem_startsFrom {offset start : Nat} {cs : List Char}
    (member : start ∈ startsFrom offset cs) :
    offset < start ∧ start ≤ offset + byteLength cs := by
  induction cs generalizing offset with
  | nil => cases member
  | cons c cs ih =>
      have positive := c.utf8Size_pos
      rw [byteLength_cons]
      rw [startsFrom] at member
      split at member
      · rcases List.mem_cons.mp member with rfl | later
        · omega
        · have := ih later
          omega
      · have := ih member
        omega

private theorem pairwise_startsFrom (offset : Nat) (cs : List Char) :
    (startsFrom offset cs).Pairwise (· < ·) := by
  induction cs generalizing offset with
  | nil => exact .nil
  | cons c cs ih =>
      rw [startsFrom]
      split
      · exact .cons (fun start member => (mem_startsFrom member).1) (ih _)
      · exact ih _

theorem pairwise_startsOf (text : String) : (startsOf text).Pairwise (· < ·) :=
  .cons (fun _ member => (mem_startsFrom member).1) (pairwise_startsFrom 0 text.toList)

theorem length_startsOf (text : String) :
    (startsOf text).length = text.toList.count '\n' + 1 := by
  rw [startsOf, List.length_cons, length_startsFrom]

/-- Among ascending offsets, one more is up to an offset than is below it if the offset is one of
them. -/
theorem takeWhile_le {offsets : List Nat} (ascending : offsets.Pairwise (· < ·)) (offset : Nat) :
    offsets.takeWhile (· ≤ offset) =
      offsets.takeWhile (· < offset) ++
        if offsets[(offsets.takeWhile (· < offset)).length]? = some offset then [offset]
        else [] := by
  induction ascending with
  | nil => rfl
  | @cons first rest above _ ih =>
      rcases Nat.lt_trichotomy first offset with below | rfl | behind
      · have upTo : first ≤ offset := Nat.le_of_lt below
        simp only [List.takeWhile_cons, below, upTo, decide_true, if_true, List.length_cons,
          List.getElem?_cons_succ, List.cons_append]
        rw [ih]
      · have none : rest.takeWhile (· ≤ first) = [] := by
          rw [List.takeWhile_eq_nil_iff]
          intro nonempty
          have := above _ (List.getElem_mem nonempty)
          simp only [List.get_eq_getElem, decide_eq_true_eq]
          omega
        simp [none]
      · have notBelow : ¬ first < offset := by omega
        have notUpTo : ¬ first ≤ offset := by omega
        have other : first ≠ offset := by omega
        simp [notBelow, notUpTo, other]

namespace File

/-- The line that holds a byte is the last one that starts up to the byte. -/
theorem lineIndex_eq {file : File} (indexed : file.Indexed) (index : Nat) :
    file.lineIndex index = (file.lineStarts.takeWhile (· ≤ index)).length - 1 := by
  have ascending : file.lineStarts.Pairwise (· < ·) := by
    rw [indexed]
    exact pairwise_startsOf file.text
  rw [lineIndex, search, takeWhile_le ascending index]
  by_cases here : file.lineStarts[(file.lineStarts.takeWhile (· < index)).length]? = some index
  · simp [here]
  · simp [here]

/-- The line starts up to an offset are as many as the newlines before it, and one more. -/
theorem lineIndex_append {file : File} (indexed : file.Indexed) {front rest : List Char}
    (text : file.text.toList = front ++ rest) :
    file.lineIndex (byteLength front) = front.count '\n' := by
  have before : ∀ start ∈ startsFrom 0 front, decide (start ≤ byteLength front) = true := by
    intro start member
    have := mem_startsFrom member
    simp only [decide_eq_true_eq]
    omega
  have behind : (startsFrom (0 + byteLength front) rest).takeWhile
      (fun start => decide (start ≤ byteLength front)) = [] := by
    rw [List.takeWhile_eq_nil_iff]
    intro nonempty
    have := mem_startsFrom (List.getElem_mem nonempty)
    simp only [List.get_eq_getElem, decide_eq_true_eq]
    omega
  rw [lineIndex_eq indexed, indexed, startsOf, text, startsFrom_append,
    List.takeWhile_cons_of_pos (by simp), List.takeWhile_append_of_pos before, behind,
    List.append_nil, List.length_cons, length_startsFrom, Nat.add_sub_cancel]

/-- The line on which a part of a text ends starts behind the last newline of the part. -/
theorem lineStarts_append {file : File} (indexed : file.Indexed) {whole rest : List Char}
    (text : file.text.toList = whole ++ rest)
    (starts : ∀ c ∈ whole.getLast?, c = '\n') :
    file.lineStarts[whole.count '\n']? = some (byteLength whole) := by
  rw [indexed, startsOf, text, startsFrom_append, ← length_startsFrom 0 whole]
  rcases List.eq_nil_or_concat whole with rfl | ⟨lines, last, rfl⟩
  · rfl
  · have newline : last = '\n' := starts last (by simp)
    have ends : startsFrom 0 (lines ++ [last]) =
        startsFrom 0 lines ++ [byteLength (lines ++ [last])] := by
      rw [startsFrom_append, byteLength_append, newline]
      simp [startsFrom, byteLength]
    rw [List.concat_eq_append, ends]
    simp

/-- The place of a byte: the newlines of the whole lines before it, and the characters between
these lines and the byte. -/
theorem location_append {file : File} (indexed : file.Indexed) {whole part rest : List Char}
    (text : file.text.toList = whole ++ part ++ rest) (starts : ∀ c ∈ whole.getLast?, c = '\n')
    (single : '\n' ∉ part) :
    file.location (byteLength (whole ++ part)) =
      .ok { line := whole.count '\n', column := part.length } := by
  have index := lineIndex_append indexed text
  have line : (whole ++ part).count '\n' = whole.count '\n' := by
    rw [List.count_append, List.count_eq_zero_of_not_mem single, Nat.add_zero]
  have start := lineStarts_append indexed (text.trans (List.append_assoc _ _ _)) starts
  have column := Text.slice?_append whole part rest
  rw [location, index, line, start, Option.getD_some, text, column]

end File
end Source
end DirSchema
