import DirSchema.Proofs.FirstSeen
import DirSchema.Proofs.Source.Position
import DirSchema.Proofs.Source.Registry
set_option autoImplicit false

namespace DirSchema.Source

/-- What is known of the lines of a file. -/
structure File.Lined (file : File) : Prop where
  /-- The file is as if its text were the first that it was given. -/
  current : file = File.withText { name := file.name } file.text
  first : file.lineStarts.head? = some 0
  ascending : file.lineStarts.Pairwise (· < ·)
  each : file.lineStarts.length = file.text.toList.count '\n' + 1
  within : ∀ start ∈ file.lineStarts, start ≤ file.size
  /-- Lines start at zero and behind newlines, and nowhere else. -/
  behind : ∀ start, start ∈ file.lineStarts ↔
    start = 0 ∨ ∃ front rest, file.text.toList = front ++ '\n' :: rest ∧
      start = Text.byteLength (front ++ ['\n'])
  /-- No offset would be inserted before the first line. -/
  found : ∀ index, search file.lineStarts index ≠ .error 0
  inside : ∀ index, file.lineIndex index < file.lineStarts.length

theorem utf8ByteSize_eq (text : String) : text.utf8ByteSize = Text.byteLength text.toList := by
  have sized (cs : List Char) : (String.ofList cs).utf8ByteSize = Text.byteLength cs := by
    induction cs with
    | nil => rfl
    | cons c cs ih =>
        have split : String.ofList (c :: cs) = String.singleton c ++ String.ofList cs := by
          rw [String.singleton_eq_ofList, ← String.ofList_append]
          rfl
        rw [split, String.utf8ByteSize_append, String.utf8ByteSize_singleton, ih,
          Text.byteLength_cons]
  rw [← sized, String.ofList_toList]

private theorem mem_startsFrom_iff {offset start : Nat} {cs : List Char} :
    start ∈ startsFrom offset cs ↔
      ∃ front rest, cs = front ++ '\n' :: rest ∧
        start = offset + Text.byteLength (front ++ ['\n']) := by
  constructor
  · intro member
    induction cs generalizing offset with
    | nil => cases member
    | cons c cs ih =>
        have further (later : start ∈ startsFrom (offset + c.utf8Size) cs) :
            ∃ front rest, c :: cs = front ++ '\n' :: rest ∧
              start = offset + Text.byteLength (front ++ ['\n']) := by
          obtain ⟨front, rest, split, place⟩ := ih later
          refine ⟨c :: front, rest, by rw [split]; rfl, ?_⟩
          rw [place, List.cons_append, Text.byteLength_cons, Nat.add_assoc]
        rw [startsFrom] at member
        split at member
        · rename_i newline
          rcases List.mem_cons.mp member with rfl | later
          · refine ⟨[], cs, by rw [newline]; rfl, ?_⟩
            rw [newline]
            rfl
          · exact further later
        · exact further member
  · rintro ⟨front, rest, rfl, rfl⟩
    have last : startsFrom (offset + Text.byteLength front) ('\n' :: rest) =
        (offset + Text.byteLength (front ++ ['\n'])) ::
          startsFrom (offset + Text.byteLength (front ++ ['\n'])) rest := by
      rw [startsFrom, if_pos rfl, Text.byteLength_append, Nat.add_assoc]
      rfl
    rw [startsFrom_append, last]
    exact List.mem_append_right _ List.mem_cons_self

/-- Any offset is found among those that start at zero, or stands behind it. -/
theorem search_ne_before (rest : List Nat) (index : Nat) :
    search (0 :: rest) index ≠ .error 0 := by
  rw [search]
  rcases Nat.eq_zero_or_pos index with rfl | positive
  · simp
  · simp only [List.takeWhile_cons, positive, decide_true, if_true, List.length_cons]
    split <;> simp

theorem File.lined_of_indexed {file : File} (indexed : file.Indexed) : file.Lined where
  current := by
    cases file
    rw [File.Indexed] at indexed
    rw [File.withText, File.mk.injEq]
    exact ⟨rfl, rfl, indexed⟩
  first := by rw [indexed]; rfl
  ascending := by
    rw [indexed]
    exact pairwise_startsOf file.text
  each := by rw [indexed, length_startsOf]
  within := by
    rw [indexed, size, utf8ByteSize_eq]
    intro start member
    rcases List.mem_cons.mp member with rfl | later
    · exact Nat.zero_le _
    · have := (mem_startsFrom later).2
      omega
  behind := by
    intro start
    rw [indexed, startsOf, List.mem_cons, mem_startsFrom_iff]
    simp only [Nat.zero_add]
  found := by
    intro index
    rw [indexed, startsOf]
    exact search_ne_before _ index
  inside := by
    intro index
    have shorter := (List.takeWhile_prefix (· ≤ index) (l := file.lineStarts)).length_le
    have some : 0 < file.lineStarts.length := by
      rw [indexed, length_startsOf]
      omega
    rw [lineIndex_eq indexed]
    omega

/-- Something that is done to a registry. -/
inductive Change where
  | add (name text : String)
  | update (id : Nat) (text : String)
deriving DecidableEq, Repr

def Change.text : Change → String
  | .add _ text | .update _ text => text

def Change.name? : Change → Option String
  | .add name _ => some name
  | .update _ _ => none

/-- A change that was made, and the number of the file that got a text. -/
structure Entry where
  change : Change
  id : Nat
deriving DecidableEq, Repr

/-- The names that were added, each with the number that was handed out for it. -/
def added (log : List Entry) : List (String × Nat) :=
  log.filterMap fun entry => entry.change.name?.map fun name => (name, entry.id)

/-- The number that was handed out for a path first. -/
def firstNumber? (log : List Entry) (name : String) : Option Nat :=
  ((added log).find? fun entry => Path.same entry.1 name).map (·.2)

def firstName? (log : List Entry) (id : Nat) : Option String :=
  ((added log).find? fun entry => entry.2 == id).map (·.1)

def lastText? (log : List Entry) (id : Nat) : Option String :=
  (log.reverse.find? fun entry => entry.id == id).map (·.change.text)

namespace Registry

/-- The registry after a change, and the number of the file that the change is about. -/
def apply (registry : Registry) : Change → Registry × Nat
  | .add name text => registry.add name text
  | .update id text => (registry.update id text, id)

/-- The registry after changes to an empty one, and the changes with the numbers. -/
def run (history : List Change) : Registry × List Entry :=
  history.foldl
    (fun (registry, log) change =>
      ((registry.apply change).1, log ++ [⟨change, (registry.apply change).2⟩]))
    ({}, [])

private theorem run_concat (history : List Change) (change : Change) :
    run (history ++ [change]) =
      (((run history).1.apply change).1,
        (run history).2 ++ [⟨change, ((run history).1.apply change).2⟩]) := by
  rw [run, List.foldl_append]
  rfl

/-- A history in which every update is of a number that was handed out before. -/
inductive Proper : List Change → Prop where
  | nil : Proper []
  | add {history : List Change} (before : Proper history) (name text : String) :
      Proper (history ++ [.add name text])
  | update {history : List Change} (before : Proper history) {id : Nat}
      (known : id ∈ (added (run history).2).map (·.2)) (text : String) :
      Proper (history ++ [.update id text])

/-- What a registry has of what was done to it. -/
structure Remembers (registry : Registry) (log : List Entry) : Prop where
  /-- Every addition was answered with the number of its path. -/
  answers : ∀ entry ∈ added log, registry.idOf? entry.1 = some entry.2
  ids : ∀ entry ∈ log, entry.id < registry.files.length
  /-- Numbers are handed out from zero on, in the order in which paths are first added. -/
  order : ((added log).map (·.2)).eraseDups = List.range registry.files.length
  number : ∀ name, registry.idOf? name = firstNumber? log name
  name : ∀ id, (registry.files[id]?).map (·.name) = firstName? log id
  text : ∀ id, (registry.files[id]?).map (·.text) = lastText? log id

section
variable {registry : Registry} {log : List Entry}

theorem added_concat (log : List Entry) (entry : Entry) :
    added (log ++ [entry]) =
      added log ++ (entry.change.name?.map fun name => (name, entry.id)).toList := by
  rw [added, List.filterMap_append, ← added]
  cases adds : entry.change.name? <;> simp [adds]

theorem firstNumber?_concat (log : List Entry) (entry : Entry) (name : String) :
    firstNumber? (log ++ [entry]) name =
      (firstNumber? log name).or (entry.change.name?.bind fun known =>
        if Path.same known name then some entry.id else none) := by
  rw [firstNumber?, firstNumber?, added_concat, List.find?_append, Option.map_or]
  cases entry.change.name? with
  | none => rfl
  | some known => cases same : Path.same known name <;> simp [same]

theorem firstName?_concat (log : List Entry) (entry : Entry) (id : Nat) :
    firstName? (log ++ [entry]) id =
      (firstName? log id).or (if entry.id = id then entry.change.name? else none) := by
  rw [firstName?, firstName?, added_concat, List.find?_append, Option.map_or]
  cases entry.change.name? with
  | none => simp
  | some known => by_cases here : entry.id = id <;> simp [here]

theorem lastText?_concat (log : List Entry) (entry : Entry) (id : Nat) :
    lastText? (log ++ [entry]) id =
      if entry.id = id then some entry.change.text else lastText? log id := by
  rw [lastText?, List.reverse_append, List.reverse_singleton, List.singleton_append]
  by_cases here : entry.id = id
  · rw [List.find?_cons_of_pos (by simpa using here), if_pos here]
    rfl
  · rw [List.find?_cons_of_neg (by simpa using here), if_neg here, lastText?]

theorem idOf?_congr {name other : String} (same : Path.same name other = true)
    (registry : Registry) : registry.idOf? name = registry.idOf? other :=
  numberOf?_congr same registry.numbers

private theorem idOf?_enter {name : String} (new : registry.idOf? name = none)
    (text other : String) :
    (registry.enter name text new).idOf? other =
      if Path.same name other then some registry.files.length else registry.idOf? other :=
  numberOf?_cons name registry.files.length registry.numbers other

private theorem getElem?_files_enter {name : String} (new : registry.idOf? name = none)
    (text : String)
    (number : Nat) : (registry.enter name text new).files[number]? =
      if registry.files.length = number then some (File.withText { name := name } text)
      else registry.files[number]? := by
  rw [files_enter, List.getElem?_append]
  by_cases last : registry.files.length = number
  · simp [last]
  · by_cases inside : number < registry.files.length
    · simp [last, inside]
    · have beyond : number - registry.files.length ≠ 0 := by omega
      simp [last, inside, beyond]

private theorem lt_length_of_idOf? {name : String} {id : Nat}
    (found : registry.idOf? name = some id) :
    id < registry.files.length := by
  obtain ⟨file, known, -⟩ := exists_file_of_idOf? found
  exact (List.getElem?_eq_some_iff.mp (file_eq_ok.mp known)).1

/-- A file that has a number gets another text, whichever way it is called. -/
theorem Remembers.update (remembers : registry.Remembers log) {change : Change} {id : Nat}
    (inside : id < registry.files.length)
    (named : ∀ name ∈ change.name?, registry.idOf? name = some id) :
    (registry.update id change.text).Remembers (log ++ [⟨change, id⟩]) := by
  have length : (registry.update id change.text).files.length = registry.files.length :=
    List.length_modify ..
  have same (name : String) : (registry.update id change.text).idOf? name = registry.idOf? name :=
    idOf?_update registry id change.text name
  have known : id ∈ (added log).map (·.2) := by
    rw [← List.mem_eraseDups, remembers.order]
    exact List.mem_range.mpr inside
  exact
    { answers := by
        intro entry member
        rw [same]
        rw [added_concat] at member
        rcases List.mem_append.mp member with before | last
        · exact remembers.answers entry before
        · obtain ⟨name, adds, rfl⟩ := Option.map_eq_some_iff.mp (Option.mem_toList.mp last)
          exact named name adds
      ids := by
        rw [length, List.forall_mem_append, List.forall_mem_singleton]
        exact ⟨remembers.ids, inside⟩
      order := by
        rw [length, added_concat, List.map_append, ← remembers.order]
        cases adds : change.name? with
        | none => simp
        | some name =>
            have again := eraseDups_concat ((added log).map (·.2)) id
            rw [if_pos known] at again
            exact again
      number := by
        intro name
        rw [same, remembers.number, firstNumber?_concat]
        cases first : firstNumber? log name with
        | some number => rfl
        | none =>
            -- A path without a number is none that the change could add again.
            cases adds : change.name? with
            | none => rfl
            | some added =>
                have other : Path.same added name ≠ true := by
                  intro path
                  have numbered := named added adds
                  rw [idOf?_congr path, remembers.number, first] at numbered
                  cases numbered
                simp [other]
      name := by
        intro number
        rw [files_update, Option.map_map, firstName?_concat, ← remembers.name]
        cases stored : registry.files[number]? with
        | some file => by_cases here : id = number <;> simp [here, File.withText]
        | none =>
            have other : id ≠ number := by
              rintro rfl
              rw [List.getElem?_eq_getElem inside] at stored
              cases stored
            simp [other]
      text := by
        intro number
        rw [files_update, Option.map_map, lastText?_concat, ← remembers.text]
        by_cases here : id = number
        · subst here
          rw [List.getElem?_eq_getElem inside]
          simp [File.withText]
        · cases registry.files[number]? <;> simp [here] }

/-- A path that is new gets the next number. -/
theorem Remembers.enter (remembers : registry.Remembers log) {name : String}
    (new : registry.idOf? name = none) (text : String) :
    (registry.enter name text new).Remembers
      (log ++ [⟨.add name text, registry.files.length⟩]) := by
  have length : (registry.enter name text new).files.length = registry.files.length + 1 := by
    rw [files_enter, List.length_append, List.length_singleton]
  have unused : registry.files.length ∉ (added log).map (·.2) := by
    rw [← List.mem_eraseDups, remembers.order, List.mem_range]
    exact Nat.lt_irrefl _
  exact
    { answers := by
        intro entry member
        rw [added_concat] at member
        rw [idOf?_enter]
        rcases List.mem_append.mp member with before | last
        · have answer := remembers.answers entry before
          have other : Path.same name entry.1 ≠ true := by
            intro path
            rw [← idOf?_congr path, new] at answer
            cases answer
          rw [if_neg other, answer]
        · cases Option.mem_toList.mp last
          rw [if_pos (Path.same_refl name)]
      ids := by
        rw [length, List.forall_mem_append, List.forall_mem_singleton]
        refine ⟨fun entry member => ?_, Nat.lt_succ_self _⟩
        have := remembers.ids entry member
        omega
      order := by
        have next := eraseDups_concat ((added log).map (·.2)) registry.files.length
        rw [if_neg unused, remembers.order] at next
        rw [length, added_concat, List.map_append, List.range_succ]
        exact next
      number := by
        intro other
        rw [idOf?_enter, firstNumber?_concat, ← remembers.number]
        by_cases path : Path.same name other = true
        · rw [if_pos path, ← idOf?_congr path, new]
          simp [Change.name?, path]
        · rw [if_neg path]
          simp [Change.name?, path]
      name := by
        intro number
        rw [getElem?_files_enter, firstName?_concat, ← remembers.name]
        by_cases last : registry.files.length = number
        · rw [if_pos last, if_pos last, List.getElem?_eq_none (Nat.le_of_eq last)]
          rfl
        · rw [if_neg last, if_neg last, Option.or_none]
      text := by
        intro number
        rw [getElem?_files_enter, lastText?_concat, ← remembers.text]
        by_cases last : registry.files.length = number
        · rw [if_pos last, if_pos last]
          rfl
        · rw [if_neg last, if_neg last] }

private theorem Remembers.apply (remembers : registry.Remembers log) (change : Change)
    (known : ∀ id text, change = .update id text → id ∈ (added log).map (·.2)) :
    (registry.apply change).1.Remembers (log ++ [⟨change, (registry.apply change).2⟩]) := by
  cases change with
  | add name text =>
      rw [Registry.apply]
      cases found : registry.idOf? name with
      | some id =>
          rw [add_of_known found]
          have named : ∀ known ∈ (Change.add name text).name?, registry.idOf? known = some id := by
            rintro _ ⟨⟩
            exact found
          exact remembers.update (lt_length_of_idOf? found) named
      | none =>
          rw [add_of_new found]
          exact remembers.enter found text
  | update id text =>
      obtain ⟨entry, member, rfl⟩ := List.mem_map.mp (known id text rfl)
      have unnamed : ∀ name ∈ (Change.update entry.2 text).name?,
          registry.idOf? name = some entry.2 := nofun
      exact remembers.update (lt_length_of_idOf? (remembers.answers entry member)) unnamed

end

theorem remembers_run {history : List Change} (proper : Proper history) :
    (run history).1.Remembers (run history).2 := by
  induction proper with
  | nil => exact ⟨nofun, nofun, rfl, fun _ => rfl, fun _ => rfl, fun _ => rfl⟩
  | add _ name text ih =>
      rw [run_concat]
      exact ih.apply (.add name text) nofun
  | update _ known text ih =>
      rw [run_concat]
      refine ih.apply (.update _ text) ?_
      rintro _ _ ⟨⟩
      exact known

/-- What a registry has of what was done to it, and what can be found in its files. -/
structure Faithful (registry : Registry) (log : List Entry) : Prop extends
    registry.Remembers log where
  /-- Two additions are answered with one number exactly if their names are one path. -/
  same : ∀ first ∈ added log, ∀ second ∈ added log,
    first.2 = second.2 ↔ Path.same first.1 second.1 = true
  lined : ∀ file ∈ registry.files, file.Lined

/-- A registry is a map from paths to texts, whatever is added and updated, and finds the lines of
the texts that it has. -/
theorem faithful_run {history : List Change} (proper : Proper history) :
    (run history).1.Faithful (run history).2 := by
  have remembers := remembers_run proper
  refine ⟨remembers, ?_, fun file member => ?_⟩
  · intro first inFirst second inSecond
    have answer := remembers.answers first inFirst
    have other := remembers.answers second inSecond
    constructor
    · intro same
      rw [← same] at other
      obtain ⟨file, known, named⟩ := exists_file_of_idOf? answer
      obtain ⟨again, alsoKnown, alsoNamed⟩ := exists_file_of_idOf? other
      rw [known, Except.ok.injEq] at alsoKnown
      rw [← alsoKnown] at alsoNamed
      exact Path.same_trans (Path.same_comm _ _ ▸ named) alsoNamed
    · intro path
      rw [idOf?_congr path, other] at answer
      exact (Option.some.inj answer).symm
  · exact File.lined_of_indexed ((run history).1.indexed file member)

/-- A file that is added twice, as two spellings of one path, and one whose text is updated. -/
def reopened : List Change :=
  [.add "a//b" "x\ny", .add "c" "é\n", .add "a/./b/" "\nz\n\n", .update 1 "z"]

theorem reopened_faithful :
    Proper reopened ∧
      (run reopened).2.map (·.id) = [0, 1, 0, 1] ∧
      (run reopened).1.files = [⟨"a//b", "\nz\n\n", [0, 1, 3, 4]⟩, ⟨"c", "z", [0]⟩] ∧
      (run reopened).1.Faithful (run reopened).2 := by
  have filled : Proper [.add "a//b" "x\ny", .add "c" "é\n", .add "a/./b/" "\nz\n\n"] :=
    ((Proper.nil.add "a//b" "x\ny").add "c" "é\n").add "a/./b/" "\nz\n\n"
  have known : 1 ∈ (Source.added (run [.add "a//b" "x\ny", .add "c" "é\n",
      .add "a/./b/" "\nz\n\n"]).2).map (·.2) := by decide +kernel
  have proper : Proper reopened := filled.update known "z"
  exact ⟨proper, by decide +kernel, by decide +kernel, faithful_run proper⟩

end Registry
end DirSchema.Source
