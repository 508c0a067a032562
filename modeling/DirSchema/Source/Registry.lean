import DirSchema.Path
set_option autoImplicit false

/-!
The registry of the files that diagnostics point into. A file keeps the number it was first given:
adding the same path again replaces its text and nothing else. Numbers are looked up by path, and
places by the offsets at which lines start; both are stored, and a registry carries the proof that
they are those of its files.
-/
namespace DirSchema.Source

/-- The offsets behind the newlines of a text that starts at the given offset. -/
def startsFrom (offset : Nat) : List Char → List Nat
  | [] => []
  | c :: cs =>
    let next := offset + c.utf8Size
    if c = '\n' then next :: startsFrom next cs else startsFrom next cs

/-- The offsets at which the lines of a text start: zero, and behind each newline. -/
def startsOf (text : String) : List Nat := 0 :: startsFrom 0 text.toList

/-- Where an offset stands among ascending ones: the index that it has, or else the index that it
would be inserted at. -/
def search (offsets : List Nat) (offset : Nat) : Except Nat Nat :=
  let before := (offsets.takeWhile (· < offset)).length
  if offsets[before]? = some offset then .ok before else .error before

/-- A file. One that has only just been named has no text, and no lines. -/
structure File where
  name : String
  text : String := ""
  lineStarts : List Nat := []
deriving DecidableEq, Repr, Inhabited

/-- A place in a text: lines before it, and characters before it on its line. -/
structure Location where
  line : Nat
  column : Nat
deriving DecidableEq, Repr, Inhabited

/-- Why a place cannot be found. -/
inductive LocationError where
  | fileMissing
  | indexTooLarge (given max : Nat)
  | notBetweenCharacters (given : Nat)
  | lineTooLarge (given max : Nat)
deriving DecidableEq, Repr

def LocationError.message : LocationError → String
  | .fileMissing => "file missing"
  | .indexTooLarge given max =>
    "invalid index " ++ Text.decimal given ++ ", maximum index is " ++ Text.decimal max
  | .notBetweenCharacters _ => "index is not a code point boundary"
  | .lineTooLarge given max =>
    "invalid line " ++ Text.decimal given ++ ", maximum line is " ++ Text.decimal max

namespace File

def size (file : File) : Nat := file.text.utf8ByteSize

def withText (file : File) (text : String) : File :=
  { file with text, lineStarts := startsOf text }

/-- Whether the stored offsets are those at which the lines of the text start. -/
def Indexed (file : File) : Prop := file.lineStarts = startsOf file.text

/-- The number of the line that holds a byte: the one that starts there, or else the one before the
next that starts. -/
def lineIndex (file : File) (index : Nat) : Nat :=
  match search file.lineStarts index with
  | .ok line => line
  | .error next => next - 1

/-- The bytes of a line, its end included. -/
def lineRange (file : File) (line : Nat) : Except LocationError (Nat × Nat) :=
  match file.lineStarts[line]? with
  | none => .error (.lineTooLarge line file.lineStarts.length)
  | some start => .ok (start, (file.lineStarts[line + 1]?).getD file.size)

/-- The text of a range of bytes, if both ends stand between characters. -/
def slice? (file : File) (start stop : Nat) : Option String :=
  (Text.slice? start stop file.text.toList).map String.ofList

def location (file : File) (index : Nat) : Except LocationError Location :=
  let line := file.lineIndex index
  let start := (file.lineStarts[line]?).getD 0
  match Text.slice? start index file.text.toList with
  | some before => .ok { line, column := before.length }
  | none =>
    let max := file.size - 1
    .error (if max < index then .indexTooLarge index max else .notBetweenCharacters index)

end File

def setText (files : List File) (id : Nat) (text : String) : List File :=
  files.modify id fun file => file.withText text

def firstIndex? (names : List String) (name : String) : Option Nat :=
  names.findIdx? fun known => Path.same known name

/-- What is stored for the first name that is the same path. -/
def numberOf? (numbers : List (String × Nat)) (name : String) : Option Nat :=
  (numbers.find? fun entry => Path.same entry.1 name).map (·.2)

@[simp] theorem map_name_setText (files : List File) (id : Nat) (text : String) :
    (setText files id text).map (·.name) = files.map (·.name) := by
  apply List.ext_getElem?
  intro index
  rw [setText, List.getElem?_map, List.getElem?_map, List.getElem?_modify]
  cases files[index]? with
  | none => rfl
  | some file => by_cases here : id = index <;> simp [here, File.withText]

/-- Setting a text indexes the file, so that all are indexed if all others are. -/
theorem indexed_setText {files : List File} {id : Nat}
    (others : ∀ (index : Nat) (file : File), files[index]? = some file → index ≠ id →
      file.Indexed) (text : String) : ∀ file ∈ setText files id text, file.Indexed := by
  intro file member
  obtain ⟨index, found⟩ := List.mem_iff_getElem?.mp member
  rw [setText, List.getElem?_modify] at found
  obtain ⟨known, stored, same⟩ := Option.map_eq_some_iff.mp found
  by_cases here : id = index
  · rw [if_pos here] at same
    rw [← same]
    rfl
  · rw [if_neg here] at same
    rw [← same]
    exact others index known stored (Ne.symm here)

theorem numberOf?_congr {name other : String} (same : Path.same name other = true)
    (numbers : List (String × Nat)) : numberOf? numbers name = numberOf? numbers other := by
  have path : (fun entry : String × Nat => Path.same entry.1 name) =
      fun entry => Path.same entry.1 other := by
    funext entry
    rw [Path.same, Path.same, eq_of_beq same]
  rw [numberOf?, numberOf?, path]

theorem numberOf?_cons (name : String) (id : Nat) (numbers : List (String × Nat))
    (other : String) : numberOf? ((name, id) :: numbers) other =
      if Path.same name other then some id else numberOf? numbers other := by
  rw [numberOf?, List.find?_cons]
  cases Path.same name other <;> rfl

/-- A new path gets the next number, and other paths keep theirs. -/
theorem numberOf?_new {numbers : List (String × Nat)} {names : List String} {name : String}
    (numbered : ∀ other, numberOf? numbers other = firstIndex? names other)
    (new : numberOf? numbers name = none) (other : String) :
    numberOf? ((name, names.length) :: numbers) other = firstIndex? (names ++ [name]) other := by
  rw [numberOf?_cons, firstIndex?, List.findIdx?_append, ← firstIndex?, ← numbered]
  cases same : Path.same name other with
  | true =>
      rw [← numberOf?_congr same, new]
      simp [same]
  | false => simp [same]

private theorem firstIndex?_eq_none {names : List String} {name : String} :
    firstIndex? names name = none ↔ ∀ known ∈ names, Path.same known name = false :=
  List.findIdx?_eq_none_iff

theorem distinct_nil :
    (([] : List File).map (·.name)).Pairwise fun first second => Path.same first second = false :=
  .nil

theorem numbered_nil (name : String) :
    numberOf? [] name = firstIndex? (([] : List File).map (·.name)) name :=
  rfl

theorem indexed_nil : ∀ file ∈ ([] : List File), file.Indexed :=
  fun _ member => absurd member List.not_mem_nil

/-- Files in the order of their numbers, which count from zero. -/
structure Registry where
  files : List File := []
  /-- The numbers of the paths that files have been added under. -/
  numbers : List (String × Nat) := []
  distinct : (files.map (·.name)).Pairwise (fun first second => Path.same first second = false) := by
    exact DirSchema.Source.distinct_nil
  numbered : ∀ name, numberOf? numbers name = firstIndex? (files.map (·.name)) name := by
    exact DirSchema.Source.numbered_nil
  indexed : ∀ file ∈ files, file.Indexed := by
    exact DirSchema.Source.indexed_nil
deriving DecidableEq, Repr

instance : Inhabited Registry := ⟨{}⟩

namespace Registry

def file (registry : Registry) (id : Nat) : Except LocationError File :=
  match registry.files[id]? with
  | some file => .ok file
  | none => .error .fileMissing

def idOf? (registry : Registry) (name : String) : Option Nat := numberOf? registry.numbers name

def update (registry : Registry) (id : Nat) (text : String) : Registry where
  files := setText registry.files id text
  numbers := registry.numbers
  distinct := by
    rw [map_name_setText]
    exact registry.distinct
  numbered := by
    rw [map_name_setText]
    exact registry.numbered
  indexed :=
    indexed_setText (fun _ file found _ => registry.indexed file (List.mem_of_getElem? found)) text

/-- The registry with a file under a path that is new. Its text is set once it has a number. -/
def enter (registry : Registry) (name text : String) (new : registry.idOf? name = none) :
    Registry where
  files := setText (registry.files ++ [{ name := name }]) registry.files.length text
  numbers := (name, registry.files.length) :: registry.numbers
  distinct := by
    have apart := firstIndex?_eq_none.mp ((registry.numbered name).symm.trans new)
    rw [map_name_setText, List.map_append, List.pairwise_append]
    refine ⟨registry.distinct, List.pairwise_singleton .., ?_⟩
    intro known member last single
    rw [List.map_singleton, List.mem_singleton] at single
    rw [single]
    exact apart known member
  numbered := by
    have length : registry.files.length = (registry.files.map (·.name)).length :=
      (List.length_map ..).symm
    rw [map_name_setText, List.map_append, length]
    exact numberOf?_new registry.numbered new
  indexed := by
    apply indexed_setText
    intro index file found other
    have inside : index < registry.files.length := by
      have bound := (List.getElem?_eq_some_iff.mp found).1
      rw [List.length_append, List.length_singleton] at bound
      omega
    rw [List.getElem?_append_left inside] at found
    exact registry.indexed file (List.mem_of_getElem? found)

/-- The registry with a file, and the number of the file. -/
def add (registry : Registry) (name text : String) : Registry × Nat :=
  match found : registry.idOf? name with
  | some id => (registry.update id text, id)
  | none => (registry.enter name text found, registry.files.length)

def lineIndex (registry : Registry) (id index : Nat) : Except LocationError Nat :=
  (registry.file id).map (·.lineIndex index)

def lineRange (registry : Registry) (id line : Nat) : Except LocationError (Nat × Nat) := do
  (← registry.file id).lineRange line

def location (registry : Registry) (id index : Nat) : Except LocationError Location := do
  (← registry.file id).location index

end Registry
end DirSchema.Source
