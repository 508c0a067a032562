import DirSchema.Template.Render
set_option autoImplicit false

/-!
Patterns: templates of texts, values, helpers of one argument, conditions and loops. What a pattern
prints is computed from the scopes alone, and it is what the template renders to.
-/
namespace DirSchema.Template

/-- A template that includes no partials, defines none and gives nothing a name. Each part carries
what follows it. -/
inductive Pattern where
  | done
  | text (text : String) (rest : Pattern)
  | value (reference : Reference) (rest : Pattern)
  | call (helper : String) (argument : Reference) (rest : Pattern)
  | when (positive : Bool) (condition : Reference) (body inverse rest : Pattern)
  | each (items : Reference) (body rest : Pattern)
deriving DecidableEq

namespace Pattern

mutual
def ofElement? (rest : Pattern) : Element → Option Pattern
  | .text words => some (if words = "" then rest else .text words rest)
  | .value (.reference reference) =>
    if Helper.exists? reference.raw then none else some (.value reference rest)
  | .call { name, arguments := [.reference argument], options := [] } =>
    some (.call name argument rest)
  | .block { name, arguments := [.reference argument], options := [] } [] body none =>
    match Helper.value? name, Helper.control? name with
    | none, some (.when positive) => do
      return .when positive argument (← ofTemplate? body) .done rest
    | none, some .each => do
      return .each argument (← ofTemplate? body) rest
    | _, _ => none
  | .block { name, arguments := [.reference argument], options := [] } [] body (some inverse) =>
    match Helper.value? name, Helper.control? name with
    | none, some (.when positive) => do
      return .when positive argument (← ofTemplate? body) (← ofTemplate? inverse) rest
    | _, _ => none
  | _ => none
def ofTemplate? : Template → Option Pattern
  | .empty => some .done
  | .cons _ element rest => do ofElement? (← ofTemplate? rest) element
end

/-- What a pattern prints, unless something in it has no value. -/
def print? : Pattern → Scopes → Option String
  | .done, _ => some ""
  | .text words rest, scopes => (rest.print? scopes).map (words ++ ·)
  | .value reference rest, scopes =>
    match scopes.find reference with
    | .ok (some datum) => (rest.print? scopes).map (Helper.render datum ++ ·)
    | _ => none
  | .call helper argument rest, scopes =>
    match scopes.find argument with
    | .ok found =>
      match Helper.call helper
          { positional := [{ value := found, path := some argument.raw }] } with
      | .ok result => (rest.print? scopes).map (Helper.render result ++ ·)
      | .error _ => none
    | .error _ => none
  | .when positive condition body inverse rest, scopes =>
    match scopes.find condition with
    | .ok found =>
      (if Helper.isTruthy false (found.getD .null) == positive then body.print? scopes
        else inverse.print? scopes).bind fun branch => (rest.print? scopes).map (branch ++ ·)
    | .error _ => none
  | .each items body rest, scopes =>
    match scopes.find items with
    | .ok found =>
      (loopScopes [] (found.getD .null)).bind fun inner =>
        (inner.mapM fun scope => body.print? (scopes.push scope)).bind fun texts =>
          (rest.print? scopes).map (String.join texts ++ ·)
    | .error _ => none

end Pattern

/-- What succeeds is not changed by what happens to errors. -/
theorem mapError_ok {reason failure result : Type} (change : reason → failure) (value : result) :
    (Except.ok value : Except reason result).mapError change = .ok value :=
  rfl

section
variable {scopes : Scopes} {reference : Reference} {name : String} {value : Option Datum}

theorem evaluate_reference (found : scopes.find reference = .ok value) :
    Call.evaluate scopes { name, arguments := [.reference reference] } =
      .ok { positional := [{ value, path := some reference.raw }] } := by
  simp only [Call.evaluate, evaluateAll, evaluateNamed, Expression.evaluate, found]
  rfl

variable {setting : Setting} {partials : Partials}

private theorem valueText_reference {value : Datum} (free : Helper.exists? reference.raw = false)
    (found : setting.scopes.find reference = .ok (some value)) :
    valueText setting (.reference reference) = .ok (Helper.render value) := by
  simp only [valueText, free, found, Bool.false_eq_true, if_false]
  rfl

private theorem callText_reference {result : Datum}
    (found : setting.scopes.find reference = .ok value)
    (computed : Helper.call name { positional := [{ value, path := some reference.raw }] } =
      .ok result) :
    callText setting { name, arguments := [.reference reference] } =
      .ok (Helper.render result) := by
  simp only [callText, evaluate_reference found, attempt, mapError_ok]
  simp only [bind, Except.bind, computed]
  rfl

variable {body : Setting → Partials → Rendered} {inverse : Option (Partials → Rendered)}

private theorem runBlock_when {positive : Bool} (plain : Helper.value? name = none)
    (control : Helper.control? name = some (.when positive))
    (found : setting.scopes.find reference = .ok value) :
    runBlock { name, arguments := [.reference reference] } [] setting partials body inverse =
      if Helper.isTruthy false (value.getD .null) == positive then body setting partials
      else (inverse.map (· partials)).getD (.ok ("", partials)) := by
  simp only [runBlock, evaluate_reference found, attempt, mapError_ok, bind, Except.bind,
    plain, control, Arguments.first, Arguments.option?, List.reverse_nil, List.lookup_nil,
    Option.map_none, Option.any_none, Argument.datum]
  cases inverse <;> rfl

private theorem runBlock_each {scopes : List Scope} (plain : Helper.value? name = none)
    (control : Helper.control? name = some .each)
    (found : setting.scopes.find reference = .ok value)
    (loops : loopScopes [] (value.getD .null) = some scopes) :
    runBlock { name, arguments := [.reference reference] } [] setting partials body none =
      eachScope (fun scope => body (setting.within scope)) partials scopes := by
  simp only [runBlock, evaluate_reference found, attempt, mapError_ok, bind, Except.bind,
    plain, control, Arguments.first, Argument.datum, loops]
  cases scopes <;> rfl
end

private theorem eachScope_of_mapM {render : Scope → Partials → Rendered}
    {print : Scope → Option String}
    (agrees : ∀ scope text, print scope = some text →
      ∀ partials, render scope partials = .ok (text, partials))
    {scopes : List Scope} {texts : List String} (printed : scopes.mapM print = some texts)
    (partials : Partials) :
    eachScope render partials scopes = .ok (String.join texts, partials) := by
  induction scopes generalizing texts with
  | nil =>
      cases printed
      rfl
  | cons scope rest ih =>
      rw [List.mapM_cons] at printed
      obtain ⟨text, first, printed⟩ := Option.bind_eq_some_iff.mp printed
      obtain ⟨others, more, same⟩ := Option.bind_eq_some_iff.mp printed
      cases same
      rw [eachScope, agrees scope text first partials]
      simp only [bind, Except.bind, ih more, String.join_cons]
      rfl

theorem Setting.write_plain (setting : Setting) (plain : setting.indent = "") (text : String) :
    setting.write text = text := by
  simp [Setting.write, plain]

namespace Pattern

section
variable {scopes : Scopes} {rest body inverse : Pattern} {reference : Reference} {text : String}

private theorem of_print?_value (printed : (value reference rest).print? scopes = some text) :
    ∃ datum more, scopes.find reference = .ok (some datum) ∧ rest.print? scopes = some more ∧
      Helper.render datum ++ more = text := by
  rw [print?] at printed
  split at printed
  · rename_i datum found
    obtain ⟨more, left, same⟩ := Option.map_eq_some_iff.mp printed
    exact ⟨datum, more, found, left, same⟩
  · cases printed

private theorem of_print?_call {helper : String}
    (printed : (call helper reference rest).print? scopes = some text) :
    ∃ value result more, scopes.find reference = .ok value ∧
      Helper.call helper { positional := [{ value, path := some reference.raw }] } = .ok result ∧
      rest.print? scopes = some more ∧ Helper.render result ++ more = text := by
  rw [print?] at printed
  split at printed
  · rename_i value found
    split at printed
    · rename_i result computed
      obtain ⟨more, left, same⟩ := Option.map_eq_some_iff.mp printed
      exact ⟨value, result, more, found, computed, left, same⟩
    · cases printed
  · cases printed

private theorem of_print?_when {positive : Bool}
    (printed : (when positive reference body inverse rest).print? scopes = some text) :
    ∃ value branch more, scopes.find reference = .ok value ∧
      (if Helper.isTruthy false (value.getD .null) == positive then body.print? scopes
        else inverse.print? scopes) = some branch ∧
      rest.print? scopes = some more ∧ branch ++ more = text := by
  rw [print?] at printed
  split at printed
  · rename_i value found
    obtain ⟨branch, taken, printed⟩ := Option.bind_eq_some_iff.mp printed
    obtain ⟨more, left, same⟩ := Option.map_eq_some_iff.mp printed
    exact ⟨value, branch, more, found, taken, left, same⟩
  · cases printed

private theorem of_print?_each (printed : (each reference body rest).print? scopes = some text) :
    ∃ value inner texts more, scopes.find reference = .ok value ∧
      loopScopes [] (value.getD .null) = some inner ∧
      inner.mapM (fun scope => body.print? (scopes.push scope)) = some texts ∧
      rest.print? scopes = some more ∧ String.join texts ++ more = text := by
  rw [print?] at printed
  split at printed
  · rename_i value found
    obtain ⟨inner, loops, printed⟩ := Option.bind_eq_some_iff.mp printed
    obtain ⟨texts, all, printed⟩ := Option.bind_eq_some_iff.mp printed
    obtain ⟨more, left, same⟩ := Option.map_eq_some_iff.mp printed
    exact ⟨value, inner, texts, more, found, loops, all, left, same⟩
  · cases printed

end

section
variable {expand : Template → Setting → Partials → Rendered} {rest : Pattern}

/-- A template renders to what a pattern prints. -/
def Renders (expand : Template → Setting → Partials → Rendered) (template : Template)
    (pattern : Pattern) : Prop :=
  ∀ ⦃setting : Setting⦄, setting.indent = "" → ∀ (partials : Partials) ⦃text : String⦄,
    pattern.print? setting.scopes = some text →
      renderWith expand template setting partials = .ok (text, partials)

/-- An element renders to what a pattern prints before the pattern that follows it. -/
def Opens (expand : Template → Setting → Partials → Rendered) (element : Element)
    (rest pattern : Pattern) : Prop :=
  ∀ ⦃setting : Setting⦄, setting.indent = "" → ∀ (partials : Partials) ⦃text : String⦄,
    pattern.print? setting.scopes = some text →
      ∃ first more, renderElement expand element setting partials = .ok (first, partials) ∧
        rest.print? setting.scopes = some more ∧ first ++ more = text

private theorem opens_text (words : String) :
    Opens expand (.text words) rest (if words = "" then rest else .text words rest) := by
  intro setting plain partials text printed
  rw [renderElement, setting.write_plain plain]
  split at printed
  · rename_i empty
    exact ⟨words, text, rfl, printed, by rw [empty, String.empty_append]⟩
  · rw [print?] at printed
    obtain ⟨more, left, same⟩ := Option.map_eq_some_iff.mp printed
    exact ⟨words, more, rfl, left, same⟩

private theorem opens_value {reference : Reference} (free : Helper.exists? reference.raw = false) :
    Opens expand (.value (.reference reference)) rest (value reference rest) := by
  intro setting plain partials text printed
  obtain ⟨datum, more, found, left, rfl⟩ := of_print?_value printed
  refine ⟨Helper.render datum, more, ?_, left, rfl⟩
  rw [renderElement, valueText_reference free found]
  simp only [bind, Except.bind, setting.write_plain plain]
  rfl

private theorem opens_call {name : String} {argument : Reference} :
    Opens expand (.call { name, arguments := [.reference argument] }) rest
      (call name argument rest) := by
  intro setting plain partials text printed
  obtain ⟨value, result, more, found, computed, left, rfl⟩ := of_print?_call printed
  refine ⟨Helper.render result, more, ?_, left, rfl⟩
  rw [renderElement, callText_reference found computed]
  simp only [bind, Except.bind, setting.write_plain plain]
  rfl

variable {name : String} {argument : Reference} {template : Template}
variable {body inverse : Pattern}

private theorem renders_empty : Renders expand .empty done := by
  intro setting plain partials text printed
  rw [print?] at printed
  cases printed
  rw [renderWith]

private theorem renderElement_block (call : Call) (names : List String) (template : Template)
    (other : Option Template) (setting : Setting) (partials : Partials) :
    renderElement expand (.block call names template other) setting partials =
      runBlock call names setting partials (renderWith expand template)
        (other.map fun other => renderWith expand other setting) := by
  cases other <;> rw [renderElement] <;> rfl

/-- A branch that is left out is an empty template. -/
theorem opens_when {positive : Bool} {other : Option Template} (noValue : Helper.value? name = none)
    (control : Helper.control? name = some (.when positive))
    (rendersBody : Renders expand template body)
    (rendersInverse : Renders expand (other.getD .empty) inverse) :
    Opens expand (.block { name, arguments := [.reference argument] } [] template other) rest
      (when positive argument body inverse rest) := by
  intro setting plain partials text printed
  obtain ⟨value, branch, more, found, taken, left, rfl⟩ := of_print?_when printed
  refine ⟨branch, more, ?_, left, rfl⟩
  rw [renderElement_block, runBlock_when noValue control found]
  split at taken
  · rename_i holds
    rw [if_pos holds, rendersBody plain partials taken]
  · rename_i fails
    rw [if_neg fails, ← rendersInverse plain partials taken]
    cases other with
    | none =>
        rw [Option.getD_none, renderWith]
        rfl
    | some other => rfl

private theorem opens_each (noValue : Helper.value? name = none)
    (control : Helper.control? name = some .each) (rendersBody : Renders expand template body) :
    Opens expand (.block { name, arguments := [.reference argument] } [] template none) rest
      (each argument body rest) := by
  intro setting plain partials text printed
  obtain ⟨value, inner, texts, more, found, loops, all, left, rfl⟩ := of_print?_each printed
  refine ⟨String.join texts, more, ?_, left, rfl⟩
  rw [renderElement, runBlock_each noValue control found loops]
  refine eachScope_of_mapM (fun scope text print partials => ?_) all partials
  have inside : (setting.within scope).indent = "" := plain
  exact rendersBody inside partials print

variable (expand)

mutual
private theorem opens_of_ofElement? (element : Element) {rest pattern : Pattern}
    (read : ofElement? rest element = some pattern) : Opens expand element rest pattern := by
  unfold ofElement? at read
  split at read
  · cases read
    exact opens_text _
  · split at read
    · cases read
    · rename_i free
      cases read
      exact opens_value (Bool.eq_false_iff.mpr free)
  · cases read
    exact opens_call
  · rename_i template
    split at read
    · rename_i noValue control
      obtain ⟨body, readBody, same⟩ := Option.bind_eq_some_iff.mp read
      cases same
      exact opens_when noValue control (renders_of_ofTemplate? template readBody) renders_empty
    · rename_i noValue control
      obtain ⟨body, readBody, same⟩ := Option.bind_eq_some_iff.mp read
      cases same
      exact opens_each noValue control (renders_of_ofTemplate? template readBody)
    · cases read
  · rename_i template other
    split at read
    · rename_i noValue control
      obtain ⟨body, readBody, read⟩ := Option.bind_eq_some_iff.mp read
      obtain ⟨inverse, readInverse, same⟩ := Option.bind_eq_some_iff.mp read
      cases same
      exact opens_when noValue control (renders_of_ofTemplate? template readBody)
        (renders_of_ofTemplate? other readInverse)
    · cases read
  · cases read
/-- A template that is a pattern renders to what the pattern prints, whatever including a partial
does. -/
theorem renders_of_ofTemplate? (template : Template) {pattern : Pattern}
    (read : ofTemplate? template = some pattern) : Renders expand template pattern := by
  cases template with
  | empty =>
      rw [ofTemplate?] at read
      cases read
      exact renders_empty
  | cons place element rest =>
      intro setting plain partials text printed
      rw [ofTemplate?] at read
      obtain ⟨following, found, read⟩ := Option.bind_eq_some_iff.mp read
      obtain ⟨first, more, rendered, left, rfl⟩ :=
        opens_of_ofElement? element read plain partials printed
      have others := renders_of_ofTemplate? rest found plain partials left
      rw [renderWith, rendered]
      simp only [mapError_ok, bind, Except.bind, others]
      rfl
end

end
end Pattern

/-- The source of a pattern is rendered to what the pattern prints. -/
theorem renderSource_of_print? {source text : String} {data : Datum} {pattern : Pattern}
    (read : (ofSource? source).bind Pattern.ofTemplate? = some pattern)
    (printed : pattern.print? (Scopes.ofRoot data.sorted) = some text) :
    renderSource source data = .ok text := by
  obtain ⟨template, parsed, simple⟩ := Option.bind_eq_some_iff.mp read
  have rendered (bound : Nat) :
      renderWithin bound template { scopes := Scopes.ofRoot data.sorted } {} = .ok (text, {}) := by
    cases bound with
    | zero => exact Pattern.renders_of_ofTemplate? _ template simple rfl {} printed
    | succ bound => exact Pattern.renders_of_ofTemplate? _ template simple rfl {} printed
  rw [renderSource, parsed]
  simp only
  rw [render, rendered]
  rfl

end DirSchema.Template
