import DirSchema.Template.Basic
import DirSchema.Template.Helper
set_option autoImplicit false

/-!
Rendering. A reference to something that the data does not have is a failure, and text is written as
it is, without any escaping.

A template is rendered by recursion on its tree. What including a partial does is a parameter of
that recursion, since a partial may include itself; a bound on how deep partials include each
other makes the whole finite.
-/
namespace DirSchema.Template

/-- Where a template is rendered: its scopes, and the indentation of the lines of a partial. -/
structure Setting where
  scopes : Scopes
  indent : String := ""

/-- What rendering changes: the partials defined so far, and the blocks that enclose the partials
being rendered, the innermost one first. `depth` of these are being rendered themselves. -/
structure Partials where
  defined : List (String × Template) := []
  blocks : List Template := []
  depth : Nat := 0

/-- Rendering answers text and partials, or fails. -/
abbrev Rendered : Type := Except Failure (String × Partials)

def fail {α : Type} (reason : Reason) : Except Failure α := .error { reason }

def attempt {α : Type} (result : Except Reason α) : Except Failure α :=
  result.mapError fun reason => { reason }

/-- The text with an indentation after each line end but one at the very end. -/
def indentLines (indent : List Char) : List Char → List Char
  | [] => []
  | c :: rest =>
    if c = '\n' && !rest.isEmpty then c :: indent ++ indentLines indent rest
    else c :: indentLines indent rest

namespace Setting

def write (setting : Setting) (text : String) : String :=
  if setting.indent.isEmpty then text
  else String.ofList (indentLines setting.indent.toList text.toList)

def within (setting : Setting) (scope : Scope) : Setting :=
  { setting with scopes := setting.scopes.push scope }

end Setting

/-- The text that a value tag stands for. A name alone may be that of a helper. -/
def valueText (setting : Setting) (expression : Expression) : Except Failure String := do
  let callNamed (name : String) : Except Failure String := do
    return Helper.render (← attempt (Helper.call name {}))
  match expression with
  | .reference reference =>
    if Helper.exists? reference.raw then callNamed reference.raw
    else
      match ← attempt (setting.scopes.find reference) with
      | some value => return Helper.render value
      | none => fail (.missingVariable (some reference.raw))
  | other =>
    let text := Helper.render (← attempt (other.evaluate setting.scopes)).datum
    if Helper.exists? text then callNamed text else return text

def callText (setting : Setting) (call : Call) : Except Failure String := do
  let arguments ← attempt (call.evaluate setting.scopes)
  return Helper.render (← attempt (Helper.call call.name arguments))

/-- The items of a loop over a datum, with the data of each and what its names stand for. -/
def loopScopes (names : List String) (value : Datum) : Option (List Scope) :=
  let named (item key : Datum) : List (String × Datum) :=
    match names with
    | [single] => [(single, item)]
    | [first, second] => [(first, item), (second, key)]
    | _ => []
  let edges (index size : Nat) : List (String × Datum) :=
    [("first", .bool (index == 0)), ("last", .bool (index + 1 == size))]
  match value with
  | .list items =>
    some (items.zipIdx.map fun (item, i) =>
      { value := item
        loopData := ("index", .number i) :: edges i items.length
        names := named item (.number i) })
  | .record fields =>
    some (fields.zipIdx.map fun ((key, item), i) =>
      { value := item
        loopData := ("key", .text key) :: edges i fields.length
        names := named item (.text key) })
  | _ => none

def eachScope (render : Scope → Partials → Rendered) (partials : Partials) : List Scope → Rendered
  | [] => .ok ("", partials)
  | scope :: rest => do
    let (text, partials) ← render scope partials
    let (more, partials) ← eachScope render partials rest
    return (text ++ more, partials)

/-- What a block does with its two templates, each given as what rendering it does; `inverse` is
none if there is no `else`. -/
def runBlock (call : Call) (names : List String) (setting : Setting) (partials : Partials)
    (body : Setting → Partials → Rendered) (inverse : Option (Partials → Rendered)) : Rendered := do
  let arguments ← attempt (call.evaluate setting.scopes)
  let otherwise : Rendered :=
    match inverse with
    | some render => render partials
    | none => .ok ("", partials)
  let otherwiseFor (argument : Argument) : Rendered :=
    match inverse with
    | some render => render partials
    | none => fail (.missingVariable argument.path)
  match Helper.value? call.name, Helper.control? call.name with
  | some helper, _ =>
    return (setting.write (Helper.render (← attempt (helper arguments))), partials)
  | none, none => fail (.helperNotFound call.name)
  | none, some (.when positive) =>
    let argument ← attempt (arguments.first "if")
    let includeZero := (arguments.option? "includeZero").any fun
      | .bool value => value
      | _ => false
    if Helper.isTruthy includeZero argument.datum == positive then body setting partials
    else otherwise
  | none, some .each =>
    let argument ← attempt (arguments.first "each")
    match loopScopes names argument.datum with
    | some (scope :: rest) =>
      eachScope (fun scope => body (setting.within scope)) partials (scope :: rest)
    | some [] => otherwise
    | none => otherwiseFor argument
  | none, some .within =>
    let argument ← attempt (arguments.first "with")
    if Helper.isTruthy false argument.datum then
      let names :=
        match names with
        | [name] => [(name, argument.datum)]
        | _ => []
      body (setting.within { value := argument.datum, names }) partials
    else otherwiseFor argument
  | none, some .raw => body setting partials
  | none, some .log => do
    attempt (Helper.Control.log.check arguments)
    return ("", partials)

def runDecorator (call : Call) (body : Option Template) (setting : Setting) (partials : Partials) :
    Except Failure Partials := do
  let arguments ← attempt (call.evaluate setting.scopes)
  if call.name != "inline" then fail (.decoratorNotFound call.name)
  else
    match ← attempt (arguments.first "inline"), body with
    | { value := some (.text name), .. }, some template =>
      return { partials with defined := (name, template) :: partials.defined }
    | { value := some (.text _), .. }, none => fail .contentRequired
    | _, _ => fail (.invalidType "String")

def defineAll (setting : Setting) (partials : Partials) : Template → Except Failure Partials
  | .empty => .ok partials
  | .cons place (.decorator call body) rest => do
    let partials ← (runDecorator call body setting partials).mapError (·.located place)
    defineAll setting partials rest
  | .cons _ _ rest => defineAll setting partials rest

/-- The name by which a partial includes the block that encloses it. -/
def enclosingBlock : String := "@partial-block"

namespace Partials

/-- The partial with a name; a block stands in for a partial that is not defined. -/
def find? (partials : Partials) (name : String) (body : Option Template) : Option Template :=
  let found :=
    if name = enclosingBlock then partials.blocks[partials.depth]?
    else partials.defined.lookup name
  found.or body

def enter (partials : Partials) (name : String) (body : Option Template) : Partials :=
  { partials with
    depth := if name = enclosingBlock then partials.depth + 1 else partials.depth - 1
    blocks := body.toList ++ partials.blocks }

def leave (partials : Partials) (name : String) (body : Option Template) : Partials :=
  { partials with
    depth := if name = enclosingBlock then partials.depth - 1 else partials.depth
    blocks := if body.isSome then partials.blocks.drop 1 else partials.blocks }

end Partials

/-- The context of a partial: its argument or else the current value, with the options added. -/
def includedValue (current : Datum) (arguments : Arguments) : Datum :=
  let base :=
    match arguments.positional with
    | argument :: _ => argument.datum
    | [] => current
  if arguments.named.isEmpty then base
  else
    let fields :=
      match base with
      | .record fields => fields
      | _ => []
    .record (arguments.named.foldl
      (fun fields (name, argument) =>
        Datum.insertSorted name argument.datum (fields.filter fun (k, _) => k != name)) fields)

def partialNameOf (setting : Setting) : PartialName → Except Failure String
  | .fixed name => .ok name
  | .computed expression => do
    return Helper.render (← attempt (expression.evaluate setting.scopes)).datum

def runInclusion (expand : Template → Setting → Partials → Rendered) (inclusion : Inclusion)
    (indent : String) (body : Option Template) (setting : Setting) (partials : Partials) :
    Rendered := do
  let name ← partialNameOf setting inclusion.name
  let arguments ← attempt
    (Call.evaluate setting.scopes
      { name, arguments := inclusion.arguments, options := inclusion.options })
  let partials ←
    match body with
    | some template => defineAll setting partials template
    | none => pure partials
  match partials.find? name body with
  | none => fail (.partialNotFound name)
  | some template =>
    let value := includedValue setting.scopes.current arguments
    let inner : Setting := { scopes := { setting.scopes with stack := [{ value }] }, indent }
    let (text, partials) ← expand template inner (partials.enter name body)
    return (text, partials.leave name body)

mutual
def renderElement (expand : Template → Setting → Partials → Rendered) :
    Element → Setting → Partials → Rendered
  | .text text, setting, partials => .ok (setting.write text, partials)
  | .value expression, setting, partials => do
    return (setting.write (← valueText setting expression), partials)
  | .call call, setting, partials => do
    return (setting.write (← callText setting call), partials)
  | .block call names body (some inverse), setting, partials =>
    runBlock call names setting partials (renderWith expand body)
      (some (renderWith expand inverse setting))
  | .block call names body none, setting, partials =>
    runBlock call names setting partials (renderWith expand body) none
  | .inclusion inclusion indent body, setting, partials =>
    runInclusion expand inclusion indent body setting partials
  | .decorator call body, setting, partials => do
    return ("", ← runDecorator call body setting partials)
  | .comment, _, partials => .ok ("", partials)
def renderWith (expand : Template → Setting → Partials → Rendered) :
    Template → Setting → Partials → Rendered
  | .empty, _, partials => .ok ("", partials)
  | .cons place element rest, setting, partials => do
    let (text, partials) ←
      (renderElement expand element setting partials).mapError (·.located place)
    let (more, partials) ← renderWith expand rest setting partials
    return (text ++ more, partials)
end

/-- A template rendered with partials that include each other no deeper than a bound. -/
def renderWithin : Nat → Template → Setting → Partials → Rendered
  | 0 => renderWith fun _ _ _ => fail .tooDeep
  | bound + 1 => renderWith (renderWithin bound)

/-- How deep partials may include each other. -/
def inclusionBound : Nat := 1000

def render (template : Template) (data : Datum) : Except Failure String := do
  let (text, _) ←
    renderWithin inclusionBound template { scopes := Scopes.ofRoot data.sorted } {}
  return text

/-- Why the source of a template gives no text. -/
inductive RenderError where
  | unreadable
  | failed (failure : Failure)
deriving DecidableEq, Repr

/-- The wording of an error. A failure is named together with its reason. -/
def RenderError.message : RenderError → String
  | .unreadable => "Failed to parse template"
  | .failed failure => failure.message ++ ": " ++ failure.reason.message

def renderSource (source : String) (data : Datum) : Except RenderError String :=
  match ofSource? source with
  | none => .error .unreadable
  | some template => (template.render data).mapError .failed

end DirSchema.Template
