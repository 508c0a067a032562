import DirSchema.Proofs.Source.History
import Mathlib.Data.List.DropRight
set_option autoImplicit false

namespace DirSchema

namespace Text

private theorem exists_of_slice?_go {start offset : Nat} {cs rest : List Char}
    (skipped : slice?.go start offset cs = some rest) :
    ∃ front, cs = front ++ rest ∧ offset + byteLength front = start := by
  induction cs generalizing offset with
  | nil =>
      rw [slice?.go, Option.ite_none_right_eq_some] at skipped
      obtain ⟨rfl, nothing⟩ := skipped
      cases nothing
      exact ⟨[], rfl, rfl⟩
  | cons c cs ih =>
      rw [slice?.go] at skipped
      split at skipped
      · rename_i here
        cases skipped
        exact ⟨[], rfl, here⟩
      · split at skipped
        · cases skipped
        · obtain ⟨front, rfl, length⟩ := ih skipped
          refine ⟨c :: front, rfl, ?_⟩
          rw [byteLength_cons, ← Nat.add_assoc, length]

private theorem exists_of_slice?_takeBytes {length : Nat} {cs part : List Char}
    (taken : slice?.takeBytes length cs = some part) :
    ∃ rest, cs = part ++ rest ∧ byteLength part = length := by
  induction cs generalizing length part with
  | nil =>
      cases length with
      | zero => cases taken; exact ⟨[], rfl, rfl⟩
      | succ length => cases taken
  | cons c cs ih =>
      cases length with
      | zero => cases taken; exact ⟨c :: cs, rfl, rfl⟩
      | succ length =>
          rw [slice?.takeBytes, Option.ite_none_right_eq_some] at taken
          obtain ⟨fits, further⟩ := taken
          obtain ⟨tail, taken, rfl⟩ := Option.map_eq_some_iff.mp further
          obtain ⟨rest, rfl, left⟩ := ih taken
          refine ⟨rest, rfl, ?_⟩
          rw [byteLength_cons, left]
          omega

private theorem exists_of_slice? {start stop : Nat} {cs part : List Char}
    (cut : slice? start stop cs = some part) :
    ∃ front rest, cs = front ++ part ++ rest ∧ byteLength front = start ∧
      byteLength (front ++ part) = stop := by
  obtain ⟨behind, skipped, taken⟩ := Option.bind_eq_some_iff.mp cut
  rw [Option.ite_none_right_eq_some] at taken
  obtain ⟨front, rfl, before⟩ := exists_of_slice?_go skipped
  obtain ⟨rest, rfl, inside⟩ := exists_of_slice?_takeBytes taken.2
  refine ⟨front, rest, (List.append_assoc ..).symm, by omega, ?_⟩
  rw [byteLength_append]
  omega

def lastLine (cs : List Char) : List Char := cs.rtakeWhile (· ≠ '\n')

/-- Before the last line stand whole lines, with all newlines. -/
theorem exists_lastLine (cs : List Char) :
    ∃ whole, cs = whole ++ lastLine cs ∧ (∀ c ∈ whole.getLast?, c = '\n') ∧
      '\n' ∉ lastLine cs ∧ whole.count '\n' = cs.count '\n' := by
  have single : '\n' ∉ lastLine cs := by
    intro member
    simpa using List.mem_rtakeWhile_imp member
  have split : cs.rdropWhile (· ≠ '\n') ++ lastLine cs = cs := List.rdropWhile_append_rtakeWhile
  refine ⟨cs.rdropWhile (· ≠ '\n'), split.symm, ?_, single, ?_⟩
  · intro c last
    have nonempty : cs.rdropWhile (· ≠ '\n') ≠ [] := by
      intro nothing
      rw [nothing] at last
      cases last
    have stops := List.rdropWhile_last_not (· ≠ '\n') cs nonempty
    rw [List.getLast?_eq_some_getLast nonempty] at last
    cases last
    simpa using stops
  · have newlines := congrArg (List.count '\n') split
    rwa [List.count_append, List.count_eq_zero_of_not_mem single, Nat.add_zero] at newlines

end Text

namespace Source

open Text (byteLength byteLength_append lastLine)

/-- Whether an offset stands at an end of a text or between two characters of it. -/
def IsBoundary (text : String) (index : Nat) : Prop :=
  ∃ front rest, text.toList = front ++ rest ∧ index = byteLength front

namespace File

variable {file : File} {index line : Nat}

private theorem location_front (indexed : file.Indexed) {front rest : List Char}
    (text : file.text.toList = front ++ rest) :
    file.location (byteLength front) =
      .ok { line := front.count '\n', column := (lastLine front).length } := by
  obtain ⟨whole, split, starts, single, newlines⟩ := Text.exists_lastLine front
  rw [split] at text
  have place := location_append indexed text starts single
  rwa [← split, newlines] at place

private theorem isBoundary_size (file : File) : IsBoundary file.text file.size :=
  ⟨file.text.toList, [], (List.append_nil _).symm, utf8ByteSize_eq file.text⟩

private theorem le_size_of_isBoundary (boundary : IsBoundary file.text index) :
    index ≤ file.size := by
  obtain ⟨front, rest, text, rfl⟩ := boundary
  rw [size, utf8ByteSize_eq, text, byteLength_append]
  exact Nat.le_add_right _ _

/-- An offset inside of a character, or behind the text, has no place. -/
theorem location_of_not_boundary (inside : ¬ IsBoundary file.text index) :
    file.location index = .error (if file.size - 1 < index
      then .indexTooLarge index (file.size - 1) else .notBetweenCharacters index) := by
  rw [location]
  split
  · rename_i before cut
    obtain ⟨front, rest, text, -, length⟩ := Text.exists_of_slice? cut
    exact absurd ⟨front ++ before, rest, text, length.symm⟩ inside
  · rfl

theorem lineRange_of_next {start next : Nat} (here : file.lineStarts[line]? = some start)
    (behind : file.lineStarts[line + 1]? = some next) : file.lineRange line = .ok (start, next) := by
  rw [lineRange, here, behind]
  rfl

theorem lineRange_of_last {start : Nat} (here : file.lineStarts[line]? = some start)
    (last : line + 1 = file.lineStarts.length) : file.lineRange line = .ok (start, file.size) := by
  rw [lineRange, here, List.getElem?_eq_none (Nat.le_of_eq last.symm)]
  rfl

/-- The range of a line is that of its characters and the newline behind them. -/
theorem lineRange_append (indexed : file.Indexed) {whole part after : List Char}
    (text : file.text.toList = whole ++ part ++ after) (starts : ∀ c ∈ whole.getLast?, c = '\n')
    (single : '\n' ∉ part) (ends : ∀ c ∈ after.head?, c = '\n') :
    file.lineRange (whole.count '\n') =
      .ok (byteLength whole, byteLength (whole ++ part ++ after.take 1)) := by
  have start := lineStarts_append indexed (text.trans (List.append_assoc ..)) starts
  have newlines : (whole ++ part).count '\n' = whole.count '\n' := by
    rw [List.count_append, List.count_eq_zero_of_not_mem single, Nat.add_zero]
  cases after with
  | nil =>
      have last : whole.count '\n' + 1 = file.lineStarts.length := by
        rw [indexed, length_startsOf, text, List.append_nil, newlines]
      rw [lineRange_of_last start last, size, utf8ByteSize_eq, text]
      rfl
  | cons c rest =>
      cases ends c rfl
      have longer : (whole ++ part ++ ['\n']).count '\n' = whole.count '\n' + 1 := by
        rw [List.count_append, newlines]
        rfl
      have longerText : file.text.toList = whole ++ part ++ ['\n'] ++ rest := by
        rw [text, List.append_assoc _ ['\n'], List.singleton_append]
      have next := lineStarts_append indexed longerText
        (by rw [List.getLast?_concat]; rintro _ ⟨⟩; rfl)
      rw [longer] at next
      exact lineRange_of_next start next

/-- A byte stands on its line: the line starts up to it, and the next one behind it. -/
theorem exists_lineStart (indexed : file.Indexed) (index : Nat) :
    ∃ start, file.lineStarts[file.lineIndex index]? = some start ∧ start ≤ index ∧
      ∀ next ∈ file.lineStarts[file.lineIndex index + 1]?, index < next := by
  have split := List.takeWhile_append_dropWhile (p := (· ≤ index)) (l := file.lineStarts)
  have behind := List.head?_dropWhile_not (· ≤ index) file.lineStarts
  have first : file.lineStarts.takeWhile (· ≤ index) ≠ [] := by
    rw [indexed, startsOf, List.takeWhile_cons_of_pos (by simp)]
    exact List.cons_ne_nil _ _
  obtain ⟨earlier, start, upTo⟩ := (List.eq_nil_or_concat _).resolve_left first
  rw [List.concat_eq_append] at upTo
  have here : start ∈ file.lineStarts.takeWhile (· ≤ index) := by simp [upTo]
  have line : file.lineIndex index = earlier.length := by
    rw [lineIndex_eq indexed, upTo, List.length_append, List.length_singleton, Nat.add_sub_cancel]
  rw [upTo] at split
  rw [line, ← split]
  refine ⟨start, by simp, by simpa using List.mem_takeWhile_imp here, ?_⟩
  intro next following
  rw [List.getElem?_append_right (by simp), List.length_append, List.length_singleton,
    Nat.sub_self, ← List.head?_eq_getElem?] at following
  rw [following] at behind
  simpa using behind

private theorem exists_range_of_byte (indexed : file.Indexed) (inside : index < file.size) :
    ∃ start stop, file.lineRange (file.lineIndex index) = .ok (start, stop) ∧ start ≤ index ∧
      index < stop := by
  obtain ⟨start, here, upTo, behind⟩ := exists_lineStart indexed index
  cases next : file.lineStarts[file.lineIndex index + 1]? with
  | some stop => exact ⟨start, stop, lineRange_of_next here next, upTo, behind stop next⟩
  | none =>
      rw [lineRange, here, next]
      exact ⟨start, file.size, rfl, upTo, inside⟩

/-- Each line but the last ends behind a newline, where the next one starts. -/
theorem exists_next_range (indexed : file.Indexed) (more : line < file.text.toList.count '\n') :
    ∃ start middle stop, file.lineRange line = .ok (start, middle) ∧
      file.lineRange (line + 1) = .ok (middle, stop) ∧ start < middle ∧
      ∃ front rest, file.text.toList = front ++ '\n' :: rest ∧
        middle = byteLength (front ++ ['\n']) := by
  have lined := lined_of_indexed indexed
  have each := lined.each
  have here := List.getElem?_eq_getElem (l := file.lineStarts) (i := line) (by omega)
  have next := List.getElem?_eq_getElem (l := file.lineStarts) (i := line + 1) (by omega)
  have ascends := List.pairwise_iff_getElem.mp lined.ascending line (line + 1) (by omega) (by omega)
    (Nat.lt_succ_self line)
  refine ⟨_, _, (file.lineStarts[line + 2]?).getD file.size, lineRange_of_next here next, ?_,
    ascends, ?_⟩
  · rw [lineRange, next]
  · refine ((lined.behind _).mp (List.getElem_mem _)).resolve_left ?_
    omega

/-- The last line ends where the text does. -/
theorem exists_last_range (indexed : file.Indexed) :
    ∃ start ≤ file.size, file.lineRange (file.text.toList.count '\n') = .ok (start, file.size) := by
  have lined := lined_of_indexed indexed
  have each := lined.each
  have here := List.getElem?_eq_getElem (l := file.lineStarts) (i := file.text.toList.count '\n')
    (by omega)
  exact ⟨_, lined.within _ (List.getElem_mem _), lineRange_of_last here each.symm⟩

/-- The characters of a line up to a place are as many as its column says. -/
theorem exists_line_of_front (indexed : file.Indexed) {front rest : List Char}
    (text : file.text.toList = front ++ rest) :
    ∃ start stop line, file.lineRange (front.count '\n') = .ok (start, stop) ∧
      file.slice? start stop = some line ∧
      byteLength front = start + byteLength (line.toList.take (lastLine front).length) := by
  obtain ⟨whole, split, starts, single, newlines⟩ := Text.exists_lastLine front
  have cut := List.takeWhile_append_dropWhile (p := (· ≠ '\n')) (l := rest)
  have partSingle : '\n' ∉ rest.takeWhile (· ≠ '\n') := by
    intro member
    simpa using List.mem_takeWhile_imp member
  have ends : ∀ c ∈ (rest.dropWhile (· ≠ '\n')).head?, c = '\n' := by
    intro c head
    have stops := List.head?_dropWhile_not (· ≠ '\n') rest
    rw [Option.mem_def.mp head] at stops
    simpa using stops
  generalize rest.takeWhile (· ≠ '\n') = part at cut partSingle
  generalize rest.dropWhile (· ≠ '\n') = after at cut ends
  have wholePart : file.text.toList = whole ++ (lastLine front ++ part) ++ after := by
    rw [text, ← cut]
    nth_rewrite 1 [split]
    simp only [List.append_assoc]
  have singleBody : '\n' ∉ lastLine front ++ part := by
    rw [List.mem_append, not_or]
    exact ⟨single, partSingle⟩
  have range := lineRange_append indexed wholePart starts singleBody ends
  have slice := Text.slice?_append whole (lastLine front ++ part ++ after.take 1) (after.drop 1)
  rw [← List.append_assoc whole, List.append_assoc _ (after.take 1), List.take_append_drop,
    ← wholePart] at slice
  refine ⟨_, _, String.ofList (lastLine front ++ part ++ after.take 1), newlines ▸ range, ?_, ?_⟩
  · rw [File.slice?, slice, Option.map_some]
  · rw [String.toList_ofList, List.append_assoc, List.take_left, ← byteLength_append, ← split]

end File

namespace Registry

/-- What is known of the places and lines of a file with a number. -/
structure Placed (registry : Registry) (id : Nat) (file : File) : Prop where
  /-- The line of a place has as many before it as there are newlines before the place, and its
  column as many characters as there are behind the last of these. -/
  found : ∀ front rest, file.text.toList = front ++ rest →
    registry.location id (byteLength front) =
      .ok { line := front.count '\n', column := (lastLine front).length }
  beyond : ∀ index, file.size < index →
    registry.location id index = .error (.indexTooLarge index (file.size - 1))
  inside : ∀ index ≤ file.size, ¬ IsBoundary file.text index →
    registry.location id index = .error (.notBetweenCharacters index)
  /-- No line is looked up that the file does not have. -/
  safe : ∀ index, search file.lineStarts index ≠ .error 0 ∧
    ∃ line < file.lineStarts.length, registry.lineIndex id index = .ok line
  opens : ∃ stop, registry.lineRange id 0 = .ok (0, stop)
  /-- A line ends behind a newline, where the next one starts. -/
  follows : ∀ line < file.text.toList.count '\n', ∃ start middle stop,
    registry.lineRange id line = .ok (start, middle) ∧
      registry.lineRange id (line + 1) = .ok (middle, stop) ∧ start < middle ∧
      ∃ front rest, file.text.toList = front ++ '\n' :: rest ∧ middle = byteLength (front ++ ['\n'])
  closes : ∃ start ≤ file.size,
    registry.lineRange id (file.text.toList.count '\n') = .ok (start, file.size)
  outside : ∀ line, file.text.toList.count '\n' < line → registry.lineRange id line =
    .error (.lineTooLarge line (file.text.toList.count '\n' + 1))
  contains : ∀ index < file.size, ∃ line start stop, registry.lineIndex id index = .ok line ∧
    registry.lineRange id line = .ok (start, stop) ∧ start ≤ index ∧ index < stop
  /-- A place leads back to its offset. -/
  back : ∀ index place, registry.location id index = .ok place → ∃ start stop text,
    registry.lineIndex id index = .ok place.line ∧
      registry.lineRange id place.line = .ok (start, stop) ∧
      file.slice? start stop = some text ∧
      index = start + byteLength (text.toList.take place.column)

variable {registry : Registry} {id : Nat} {file : File}

theorem placed_of_file (known : registry.file id = .ok file) : registry.Placed id file := by
  have indexed := indexed_of_file known
  have location (index : Nat) : registry.location id index = file.location index := by
    rw [Registry.location, known]
    rfl
  have lineIndex (index : Nat) : registry.lineIndex id index = .ok (file.lineIndex index) := by
    rw [Registry.lineIndex, known]
    rfl
  have lineRange (line : Nat) : registry.lineRange id line = file.lineRange line := by
    rw [Registry.lineRange, known]
    rfl
  have lined := File.lined_of_indexed indexed
  exact
    { found := by
        intro front rest text
        rw [location, File.location_front indexed text]
      beyond := by
        intro index large
        have outside : ¬ IsBoundary file.text index :=
          fun boundary => Nat.not_lt.mpr (File.le_size_of_isBoundary boundary) large
        rw [location, File.location_of_not_boundary outside, if_pos (by omega)]
      inside := by
        intro index small outside
        have other : index ≠ file.size := by
          rintro rfl
          exact outside file.isBoundary_size
        rw [location, File.location_of_not_boundary outside, if_neg (by omega)]
      safe := fun index => ⟨lined.found index, _, lined.inside index, lineIndex index⟩
      opens := by
        have first : file.lineStarts[0]? = some 0 := by rw [← List.head?_eq_getElem?, lined.first]
        rw [lineRange, File.lineRange, first]
        exact ⟨_, rfl⟩
      follows := by
        simp only [lineRange]
        exact fun line more => File.exists_next_range indexed more
      closes := by
        simp only [lineRange]
        exact File.exists_last_range indexed
      outside := by
        intro line beyond
        have each := lined.each
        rw [lineRange, File.lineRange, List.getElem?_eq_none (by omega), each]
      contains := by
        intro index inside
        obtain ⟨start, stop, range, upTo, behind⟩ := File.exists_range_of_byte indexed inside
        exact ⟨_, start, stop, lineIndex index, by rwa [lineRange], upTo, behind⟩
      back := by
        intro index place found
        rw [location] at found
        by_cases boundary : IsBoundary file.text index
        · obtain ⟨front, rest, text, rfl⟩ := boundary
          rw [File.location_front indexed text] at found
          cases found
          obtain ⟨start, stop, line, range, slice, length⟩ :=
            File.exists_line_of_front indexed text
          refine ⟨start, stop, line, ?_, by rwa [lineRange], slice, length⟩
          rw [lineIndex, File.lineIndex_append indexed text]
        · rw [File.location_of_not_boundary boundary] at found
          cases found }

/-- Every byte of every registered text has the place that the newlines before it give, and where
there is no file there are no places. -/
theorem places_of_bytes (registry : Registry) (id : Nat) :
    match registry.files[id]? with
    | some file => registry.Placed id file
    | none => ∀ number, registry.location id number = .error .fileMissing ∧
        registry.lineIndex id number = .error .fileMissing ∧
        registry.lineRange id number = .error .fileMissing := by
  cases found : registry.files[id]? with
  | some file => exact placed_of_file (file_eq_ok.mpr found)
  | none =>
      have missing : registry.file id = .error .fileMissing := by rw [Registry.file, found]
      intro number
      rw [Registry.location, Registry.lineIndex, Registry.lineRange, missing]
      exact ⟨rfl, rfl, rfl⟩

example :
    (List.range 6).map (Registry.location (run [.add "a" "é\nz"]).1 0) =
      [.ok ⟨0, 0⟩, .error (.notBetweenCharacters 1), .ok ⟨0, 1⟩, .ok ⟨1, 0⟩, .ok ⟨1, 1⟩,
        .error (.indexTooLarge 5 3)] := by decide +kernel

end Registry
end Source
end DirSchema
