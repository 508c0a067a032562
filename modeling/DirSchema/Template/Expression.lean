import DirSchema.Datum.Basic
import DirSchema.Text.Basic
set_option autoImplicit false

namespace DirSchema.Template

inductive Segment where
  | root
  | up
  | name (text : String)
deriving DecidableEq, Repr

/-- What a reference leads to: a variable of an enclosing loop, so many levels out, or a path. -/
inductive Target where
  | loopVariable (level : Nat) (name : String)
  | path (segments : List Segment)
deriving DecidableEq, Repr

structure Reference where
  raw : String
  target : Target
deriving DecidableEq, Repr

/-- An expression. A call has positional arguments and named options. -/
inductive Expression where
  | reference (reference : Reference)
  | literal (value : Datum)
  | call (name : String) (arguments : List Expression) (options : List (String × Expression))
deriving Repr, Inhabited

/-- A call of a helper that is not part of another expression. -/
structure Call where
  name : String
  arguments : List Expression := []
  options : List (String × Expression) := []
deriving Repr, Inhabited

inductive PartialName where
  | fixed (name : String)
  | computed (expression : Expression)
deriving Repr

/-- An inclusion of a partial: its context may be given, and values may be added to that. -/
structure Inclusion where
  name : PartialName
  arguments : List Expression := []
  options : List (String × Expression) := []
deriving Repr

/-- Why nothing was read: another reading is possible, or none is. -/
inductive Miss where
  | other
  | broken
deriving DecidableEq, Repr

/-- A reader answers what it has read and the characters that are left. -/
abbrev Reader (α : Type) : Type := List Char → Except Miss (α × List Char)

namespace Reader

/-- The second reading, if another one than the first is possible. -/
def orElse {α : Type} (first second : Reader α) : Reader α := fun cs =>
  match first cs with
  | .error .other => second cs
  | result => result

/-- The white space that may stand between the words of a tag. -/
def isSpace (c : Char) : Bool := c == ' ' || c == '\t' || c == '\n' || c == '\r'

/-- The text without that white space at its start. -/
def skip (cs : List Char) : List Char := cs.dropWhile isSpace

def exactly (text : List Char) : Reader Unit := fun cs =>
  match Text.afterStart? text cs with
  | some rest => .ok ((), rest)
  | none => .error .other

def isSymbol (c : Char) : Bool :=
  c.isAlphanum || c == '_' || c == '-' || c == '$' || c == '<' || c == '>' || 0x80 ≤ c.toNat

def isPartialSymbol (c : Char) : Bool :=
  c.isAlphanum || c == '_' || c == '-' || c == '/' || c == '.' || 0x80 ≤ c.toNat

def some1 (p : Char → Bool) : Reader (List Char) := fun cs =>
  match cs.takeWhile p with
  | [] => .error .other
  | name => .ok (name, cs.dropWhile p)

def identifier : Reader String := fun cs => do
  let (name, rest) ← some1 isSymbol cs
  return (String.ofList name, rest)

/-- One item of a path: a name, or any text in brackets. -/
def pathItem : Reader String := fun cs =>
  match cs with
  | '[' :: rest =>
    match Text.splitOnce? (· == ']') rest with
    | some (name, rest) => .ok (String.ofList name, rest)
    | none => .error .other
  | _ => identifier cs

def isSeparator (c : Char) : Bool := c == '/' || c == '.'

def afterStep? (text : List Char) (cs : List Char) : Option (List Char) :=
  match Text.afterStart? text cs with
  | some (c :: rest) => if isSeparator c then some rest else none
  | _ => none

/-- The steps up at the start of a path. The bound on their number is the length of the text. -/
def upSteps : Nat → List Char → Nat × List Char
  | 0, cs => (0, cs)
  | fuel + 1, cs =>
    match afterStep? ['.', '.'] cs with
    | some rest =>
      let (levels, rest) := upSteps fuel rest
      (levels + 1, rest)
    | none => (0, cs)

def moreItems : Nat → List Char → List String × List Char
  | 0, cs => ([], cs)
  | fuel + 1, cs =>
    match cs with
    | c :: rest =>
      if isSeparator c then
        match pathItem rest with
        | .ok (item, rest) =>
          let (items, rest) := moreItems fuel rest
          (item :: items, rest)
        | .error _ => ([], cs)
      else ([], cs)
    | [] => ([], cs)

def targetOf (isRoot isLoop : Bool) (levels : Nat) (items : List String) : Target :=
  let names := (items.filter (· != "this")).map Segment.name
  match isLoop && !isRoot, items with
  | true, first :: _ =>
    if first = "this" then .path (List.replicate levels .up ++ names)
    else .loopVariable levels first
  | _, _ => .path ((if isRoot then [.root] else []) ++ List.replicate levels .up ++ names)

/-- A reference: `this.`, `@root.`, `@` and steps up may stand before the items of a path. -/
def reference : Reader Reference := fun cs => do
  let start :=
    match afterStep? ['t', 'h', 'i', 's'] cs with
    | some rest => rest
    | none => (Text.afterStart? ['.', '/'] cs).getD cs
  let (isRoot, afterRoot) :=
    match afterStep? ['@', 'r', 'o', 'o', 't'] start with
    | some rest => (true, rest)
    | none => (false, start)
  let (isLoop, afterMark) :=
    match afterRoot with
    | '@' :: rest => (true, rest)
    | _ => (false, afterRoot)
  let (levels, afterUp) := upSteps afterMark.length afterMark
  let (item, rest) ← pathItem afterUp
  let (items, rest) := moreItems rest.length rest
  return ({
    raw := String.ofList (cs.take (cs.length - rest.length))
    target := targetOf isRoot isLoop levels (item :: items) }, rest)

def hexValue? (c : Char) : Option Nat :=
  if c.isDigit then some (c.toNat - '0'.toNat)
  else if 'a' ≤ c && c ≤ 'f' then some (c.toNat - 'a'.toNat + 10)
  else if 'A' ≤ c && c ≤ 'F' then some (c.toNat - 'A'.toNat + 10)
  else none

/-- The number that four hexadecimal digits spell. -/
def hex4? (cs : List Char) : Option (Nat × List Char) :=
  match cs with
  | a :: b :: c :: d :: rest => do
    return ((((← hexValue? a) * 16 + (← hexValue? b)) * 16 + (← hexValue? c)) * 16 +
      (← hexValue? d), rest)
  | _ => none

def escaped? (quote c : Char) : Option Char :=
  match c with
  | '\\' => some '\\'
  | '/' => some '/'
  | 'b' => some '\x08'
  | 'f' => some '\x0c'
  | 'n' => some '\n'
  | 'r' => some '\r'
  | 't' => some '\t'
  | c => if c = quote then some c else none

/-- The character with a number that is written in hexadecimal, or by the two halves of a pair. -/
def numbered (cs : List Char) : Except Miss (Char × List Char) :=
  match hex4? cs with
  | none => .error .other
  | some (n, rest) =>
    if n < 0xD800 || 0xE000 ≤ n then .ok (Char.ofNat n, rest)
    else
      match (if n < 0xDC00 then (Text.afterStart? ['\\', 'u'] rest).bind hex4? else none) with
      | some (m, rest) =>
        if 0xDC00 ≤ m && m < 0xE000 then
          .ok (Char.ofNat (0x10000 + (n - 0xD800) * 0x400 + (m - 0xDC00)), rest)
        else .error .broken
      | none => .error .broken

def stringTail (quote : Char) : Nat → Reader (List Char)
  | 0, _ => .error .other
  | fuel + 1, cs =>
    match cs with
    | [] => .error .other
    | '\\' :: 'u' :: rest => do
      let (c, rest) ← numbered rest
      let (tail, rest) ← stringTail quote fuel rest
      return (c :: tail, rest)
    | '\\' :: c :: rest =>
      match escaped? quote c with
      | some c => do
        let (tail, rest) ← stringTail quote fuel rest
        return (c :: tail, rest)
      | none => .error .other
    | c :: rest =>
      if c = quote then .ok ([], rest)
      else do
        let (tail, rest) ← stringTail quote fuel rest
        if c.toNat < 0x20 || c = '\\' then .error .broken else return (c :: tail, rest)

def string : Reader Datum := fun cs =>
  match cs with
  | c :: rest =>
    if c = '"' || c = '\x27' then do
      let (text, rest) ← stringTail c (rest.length + 1) rest
      return (.text (String.ofList text), rest)
    else .error .other
  | [] => .error .other

def continuesName (cs : List Char) : Bool :=
  match cs with
  | c :: _ => isSymbol c
  | [] => false

/-- A word that no name contains as its start. -/
def word (text : List Char) (value : Datum) : Reader Datum := fun cs =>
  match Text.afterStart? text cs with
  | some rest => if continuesName rest then .error .other else .ok (value, rest)
  | none => .error .other

/-- A whole number. It has no leading zeros. -/
def number : Reader Datum := fun cs => do
  let (negative, unsigned) :=
    match cs with
    | '-' :: rest => (true, rest)
    | _ => (false, cs)
  let (digits, rest) ← some1 Char.isDigit unsigned
  if continuesName rest then .error .other
  else if digits.head? = some '0' && 1 < digits.length then .error .broken
  else
    let value : Int := digits.foldl (fun n c => n * 10 + (c.toNat - '0'.toNat : Nat)) 0
    return (.number (if negative then -value else value), rest)

/-- The words that are no names of data. -/
def startsWithKeyword (cs : List Char) : Bool :=
  [['a', 's'], ['e', 'l', 's', 'e']].any fun keyword =>
    match Text.afterStart? keyword cs with
    | some rest => !continuesName rest
    | none => false

mutual
def literal : Nat → Reader Datum
  | 0, _ => .error .other
  | fuel + 1, cs =>
    match cs with
    | '[' :: rest => do
      let (items, rest) ← items fuel true (skip rest)
      return (.list items, rest)
    | '\x7b' :: rest => do
      let (fields, rest) ← fields fuel true (skip rest)
      return (.record fields, rest)
    | _ =>
      orElse string (orElse number (orElse (word ['n', 'u', 'l', 'l'] .null)
        (orElse (word ['t', 'r', 'u', 'e'] (.bool true))
          (word ['f', 'a', 'l', 's', 'e'] (.bool false))))) cs
def items : Nat → Bool → Reader (List Datum)
  | 0, _, _ => .error .other
  | fuel + 1, first, cs =>
    match cs with
    | ']' :: rest => .ok ([], rest)
    | _ => do
      let (_, cs) ← if first then .ok ((), cs) else exactly [','] cs
      let (item, rest) ← literal fuel (skip cs)
      let (others, rest) ← items fuel false (skip rest)
      return (item :: others, rest)
def fields : Nat → Bool → Reader (List (String × Datum))
  | 0, _, _ => .error .other
  | fuel + 1, first, cs =>
    match cs with
    | '\x7d' :: rest => .ok ([], rest)
    | _ => do
      let (_, cs) ← if first then .ok ((), cs) else exactly [','] cs
      let (key, rest) ← string (skip cs)
      let (_, rest) ← exactly [':'] (skip rest)
      let (value, rest) ← literal fuel (skip rest)
      let (others, rest) ← fields fuel false (skip rest)
      match key with
      | .text key =>
        let repeated := others.any fun (k, _) => k == key
        return (if repeated then others else Datum.insertSorted key value others, rest)
      | _ => .error .other
end

mutual
def argument : Nat → Reader Expression
  | 0, _ => .error .other
  | fuel + 1, cs =>
    if startsWithKeyword cs then .error .other
    else
      orElse (fun cs => do
          let (value, rest) ← literal cs.length.succ cs
          return (.literal value, rest))
        (orElse (fun cs => do
            let (found, rest) ← reference cs
            return (.reference found, rest))
          (subexpression fuel)) cs
/-- Positional arguments and named options, in any order. -/
def arguments : Nat → Reader (List Expression × List (String × Expression))
  | 0, cs => .ok (([], []), cs)
  | fuel + 1, cs =>
    let option : Reader (String × Expression) := fun cs => do
      let (key, rest) ← identifier cs
      let (_, rest) ← exactly ['='] (skip rest)
      let (value, rest) ← argument fuel (skip rest)
      return ((key, value), rest)
    match option (skip cs) with
    | .ok (entry, rest) => do
      let ((positional, named), rest) ← arguments fuel rest
      return ((positional, entry :: named), rest)
    | .error .broken => .error .broken
    | .error .other =>
      match argument fuel (skip cs) with
      | .ok (value, rest) => do
        let ((positional, named), rest) ← arguments fuel rest
        return ((value :: positional, named), rest)
      | .error .broken => .error .broken
      | .error .other => .ok (([], []), cs)
def subexpression : Nat → Reader Expression
  | 0, _ => .error .other
  | fuel + 1, cs => do
    let (_, inner) ← exactly ['('] cs
    let inner := skip inner
    let withArguments : Reader Expression := fun cs => do
      let (name, rest) ← identifier cs
      let ((positional, named), rest) ← arguments fuel rest
      if positional.isEmpty && named.isEmpty then .error .other
      else
        let (_, rest) ← exactly [')'] (skip rest)
        return (.call name positional named, rest)
    let bare : Reader Expression := fun cs => do
      let (found, rest) ← reference cs
      let (_, rest) ← exactly [')'] (skip rest)
      return (.call found.raw [] [], rest)
    orElse withArguments bare inner
end

end Reader
end DirSchema.Template
