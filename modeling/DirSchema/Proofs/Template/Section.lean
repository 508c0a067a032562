import DirSchema.Proofs.Template.Lookup
import DirSchema.Proofs.Template.Pattern
import Mathlib.Data.List.Forall2
set_option autoImplicit false

namespace DirSchema.Template

def Reference.named (names : List String) : Reference :=
  { raw := String.intercalate "." names, target := .path (names.map .name) }

/-- A name leads to the same in sorted data, sorted. -/
theorem Scopes.find_named {scopes : Scopes} {datum found : Datum} {names : List String}
    (unnamed : scopes.Unnamed) (current : scopes.current = datum.sorted)
    (leads : navigate (some datum) names = .ok (some found)) :
    scopes.find (.named names) = .ok (some found.sorted) := by
  have sorted := navigate_sorted (some datum) names
  rw [leads] at sorted
  rw [find, Reference.named]
  simp only [path_names unnamed, current]
  exact sorted

theorem Scopes.Unnamed.push {scopes : Scopes} {scope : Scope} (unnamed : scopes.Unnamed)
    (plain : scope.names = []) : (scopes.push scope).Unnamed :=
  List.forall_mem_cons.mpr ⟨plain, unnamed⟩

inductive Spelled : List String → List Char → Prop
  | nil : Spelled [] []
  | cons {rest : List String} {more : List Char} (text : List Char) :
      Spelled rest more → Spelled (String.ofList text :: rest) (text ++ more)

private theorem Spelled.toList_join {texts : List String} {cs : List Char}
    (spelled : Spelled texts cs) :
    (String.join texts).toList = cs := by
  induction spelled with
  | nil => rfl
  | cons text _ ih => rw [String.join_cons, String.toList_append, String.toList_ofList, ih]

def ofChars? (cs : List Char) : Option Template :=
  (Reader.parts (cs.length + 1) [] { line := 1, column := 1 } cs).toOption.bind fun parts =>
    nest [] .empty (settle {} parts)

theorem ofSource?_join {texts : List String} {cs : List Char} (spelled : Spelled texts cs) :
    ofSource? (String.join texts) = ofChars? cs := by
  rw [ofSource?, partsOf?, spelled.toList_join]
  rfl

namespace Pattern

abbrev Section : Type := Pattern → Pattern

def say (words : String) : Section
  | .text more rest => .text (words ++ more) rest
  | rest => .text words rest

def inOrder (parts : List Section) : Section := fun rest => parts.foldr (fun part => part) rest

def onlyIf (condition : Reference) (body : Section) : Section :=
  .when true condition (body .done) .done

def choose (condition : Reference) (body inverse : Section) : Section :=
  .when true condition (body .done) (inverse .done)

def forEach (items : Reference) (body : Section) : Section := .each items (body .done)

def isLast : Reference := { raw := "@last", target := .loopVariable 0 "last" }

/-- A section for each item of a list, with words between them. -/
def separated (items : Reference) (separator : String) (body : Section) : Section :=
  forEach items (inOrder [body, .when false isLast (say separator .done) .done])

/-- A section adds a text to whatever follows it. -/
def Writes (scopes : Scopes) (part : Section) (text : String) : Prop :=
  ∀ ⦃rest : Pattern⦄ ⦃more : String⦄, rest.print? scopes = some more →
    (part rest).print? scopes = some (text ++ more)

section
variable {scopes : Scopes} {reference : Reference} {part body inverse : Section} {text : String}

theorem Writes.congr {other : String} (writes : Writes scopes part text) (same : text = other) :
    Writes scopes part other := same ▸ writes

theorem Writes.print?_done (writes : Writes scopes part text) :
    (part .done).print? scopes = some text := by
  have printed := @writes .done "" rfl
  rwa [String.append_empty] at printed

theorem writes_say (words : String) : Writes scopes (say words) words := by
  intro rest more printed
  have apart : (Pattern.text words rest).print? scopes = some (words ++ more) := by
    rw [print?, printed, Option.map_some]
  cases rest with
  | text own rest =>
      rw [print?] at printed
      obtain ⟨others, left, rfl⟩ := Option.map_eq_some_iff.mp printed
      rw [say, print?, left, Option.map_some, String.append_assoc]
  | _ => exact apart

theorem writes_inOrder {parts : List Section} {texts : List String}
    (each : List.Forall₂ (Writes scopes) parts texts) :
    Writes scopes (inOrder parts) (String.join texts) := by
  intro rest more printed
  induction each with
  | nil => rwa [String.join_nil, String.empty_append]
  | cons first _ ih =>
      rw [String.join_cons, String.append_assoc]
      exact first ih

theorem writes_value {datum : Datum} (found : scopes.find reference = .ok (some datum)) :
    Writes scopes (.value reference) (Helper.render datum) := by
  intro rest more printed
  simp only [print?, found, printed, Option.map_some]

/-- The value that names lead to, which is a text. -/
theorem writes_named {datum : Datum} {names : List String} {text : String}
    (unnamed : scopes.Unnamed) (current : scopes.current = datum.sorted)
    (leads : Scopes.navigate (some datum) names = .ok (some (.text text))) :
    Writes scopes (.value (.named names)) text := by
  have written := writes_value (Scopes.find_named unnamed current leads)
  rwa [Datum.sorted, Helper.render] at written

theorem writes_call {helper : String} {value : Option Datum} {result : Datum}
    (found : scopes.find reference = .ok value)
    (computed : Helper.call helper { positional := [{ value, path := some reference.raw }] } =
      .ok result) :
    Writes scopes (.call helper reference) (Helper.render result) := by
  intro rest more printed
  simp only [print?, found, computed, printed, Option.map_some]

theorem writes_choose {value : Option Datum} (found : scopes.find reference = .ok value)
    (taken : Writes scopes (if Helper.isTruthy false (value.getD .null) then body else inverse)
      text) :
    Writes scopes (choose reference body inverse) text := by
  intro rest more printed
  have branch := taken.print?_done
  simp only [choose, print?, found]
  cases truth : Helper.isTruthy false (value.getD .null) <;>
    simp only [truth, Bool.false_eq_true, ↓reduceIte] at branch <;>
    simp [branch, printed]

theorem writes_onlyIf {value : Option Datum} (found : scopes.find reference = .ok value)
    (taken : Helper.isTruthy false (value.getD .null) = true → Writes scopes body text)
    (empty : Helper.isTruthy false (value.getD .null) = false → text = "") :
    Writes scopes (onlyIf reference body) text := by
  intro rest more printed
  simp only [onlyIf, print?, found]
  cases truth : Helper.isTruthy false (value.getD .null) with
  | true => simp [(taken truth).print?_done, printed]
  | false => simp [empty truth, printed]

end

section
variable {α : Type} {scopes : Scopes} {reference : Reference} {body : Section}

def itemScope (size : Nat) (item : Datum × Nat) : Scope :=
  { value := item.1
    loopData := [("index", .number item.2), ("first", .bool (item.2 == 0)),
      ("last", .bool (item.2 + 1 == size))] }

private theorem mapM_eq_some {β : Type} {f : α → Option β} {g : α → β} {items : List α}
    (each : ∀ item ∈ items, f item = some (g item)) : items.mapM f = some (items.map g) := by
  induction items with
  | nil => rfl
  | cons first rest ih =>
      rw [List.forall_mem_cons] at each
      rw [List.mapM_cons, each.1, ih each.2]
      rfl

/-- A loop writes what its body writes for each item, which may tell by the scope where it is. -/
theorem writes_forEach_zipIdx {items : List α} {datum : α → Datum} {text : α × Nat → String}
    (found : scopes.find reference = .ok (some (.list (items.map datum))))
    (each : ∀ item ∈ items.zipIdx,
      Writes (scopes.push (itemScope items.length (item.map datum id))) body (text item)) :
    Writes scopes (forEach reference body) (String.join (items.zipIdx.map text)) := by
  intro rest more printed
  have loops : loopScopes [] (.list (items.map datum)) =
      some (items.zipIdx.map fun item => itemScope items.length (item.map datum id)) := by
    have all : loopScopes [] (.list (items.map datum)) =
        some ((items.map datum).zipIdx.map (itemScope (items.map datum).length)) := rfl
    rw [all, List.zipIdx_map, List.map_map, List.length_map]
    rfl
  have texts : (items.zipIdx.map fun item => itemScope items.length (item.map datum id)).mapM
      (fun scope => (body .done).print? (scopes.push scope)) = some (items.zipIdx.map text) := by
    rw [List.mapM_map]
    exact mapM_eq_some fun item member => (each item member).print?_done
  simp only [forEach, print?, found, Option.getD_some, loops, Option.bind_some, texts, printed,
    Option.map_some]

theorem writes_forEach {items : List α} {datum : α → Datum} {text : α → String}
    (found : scopes.find reference = .ok (some (.list (items.map datum))))
    (each : ∀ item ∈ items, ∀ scope : Scope, scope.value = datum item → scope.names = [] →
      Writes (scopes.push scope) body (text item)) :
    Writes scopes (forEach reference body) (String.join (items.map text)) := by
  have texts : (items.zipIdx.map Prod.fst).map text = items.map text := by
    rw [List.zipIdx_map_fst]
  rw [← texts, List.map_map]
  refine writes_forEach_zipIdx found fun item member => each item.1 ?_ _ rfl rfl
  exact List.mem_of_getElem? (List.mem_zipIdx_iff_getElem?.mp member)

private theorem join_separated (separator : String) (texts : List String) {start size : Nat}
    (ends : start + texts.length = size) :
    String.join ((texts.zipIdx start).map fun text =>
        text.1 ++ if text.2 + 1 == size then "" else separator) =
      String.intercalate separator texts := by
  induction texts generalizing start with
  | nil => rfl
  | cons first rest ih =>
      rw [List.length_cons] at ends
      rw [List.zipIdx_cons, List.map_cons, String.join_cons, ih (by omega)]
      cases rest with
      | nil =>
          have last : start + 1 = size := by simpa using ends
          simp [last]
      | cons second rest =>
          have inner : start + 1 ≠ size := by rw [List.length_cons] at ends; omega
          simp [inner, String.intercalate_cons_cons]

/-- The separator stands behind every item but the last one. -/
theorem writes_separated {items : List α} {datum : α → Datum} {text : α → String}
    {separator : String}
    (found : scopes.find reference = .ok (some (.list (items.map datum))))
    (each : ∀ item ∈ items, ∀ scope : Scope, scope.value = datum item → scope.names = [] →
      Writes (scopes.push scope) body (text item)) :
    Writes scopes (separated reference separator body)
      (String.intercalate separator (items.map text)) := by
  have ends : 0 + (items.map text).length = items.length := by rw [Nat.zero_add, List.length_map]
  have texts := join_separated separator (items.map text) ends
  rw [List.zipIdx_map, List.map_map] at texts
  rw [← texts]
  refine writes_forEach_zipIdx found fun item member => ?_
  have own := each item.1 (List.mem_of_getElem? (List.mem_zipIdx_iff_getElem?.mp member))
    (itemScope items.length (item.map datum id)) rfl rfl
  have last : (scopes.push (itemScope items.length (item.map datum id))).find isLast =
      .ok (some (.bool (item.2 + 1 == items.length))) := rfl
  have behind : Writes (scopes.push (itemScope items.length (item.map datum id)))
      (.when false isLast (say separator .done) .done)
      (if item.2 + 1 == items.length then "" else separator) := by
    intro rest more printed
    have words : (say separator .done).print?
        (scopes.push (itemScope items.length (item.map datum id))) = some separator :=
      (writes_say separator).print?_done
    simp only [print?, last, Option.getD_some, Helper.isTruthy, words]
    cases item.2 + 1 == items.length <;> simp [printed]
  have both := writes_inOrder (.cons own (.cons behind .nil))
  rw [String.join_cons, String.join_cons, String.join_nil, String.append_empty] at both
  exact both

end
end Pattern
end DirSchema.Template
