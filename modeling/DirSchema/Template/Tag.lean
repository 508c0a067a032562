import DirSchema.Template.Expression
set_option autoImplicit false

namespace DirSchema.Template

/-- A line and a column, both counted from one. -/
structure Place where
  line : Nat
  column : Nat
deriving DecidableEq, Repr, Inhabited

def Place.after (place : Place) (c : Char) : Place :=
  if c = '\n' then { line := place.line + 1, column := 1 }
  else { place with column := place.column + 1 }

inductive TagContent where
  | value (expression : Expression)
  | call (call : Call)
  | openHelper (call : Call) (names : List String)
  | openDecorator (call : Call)
  | openInclusion (inclusion : Inclusion)
  | otherwise
  | otherwiseIf (call : Call) (names : List String)
  | close (name : String)
  | inclusion (inclusion : Inclusion)
  | decorate (call : Call)
  | comment
deriving Repr

/-- A tag. `alone` says that nothing but white space shares its line, and `indent` is the white
space before it. -/
structure Tag where
  place : Place
  content : TagContent
  trimsBefore : Bool := false
  trimsAfter : Bool := false
  alone : Bool := false
  indent : List Char := []
deriving Repr

inductive Part where
  | text (text : List Char)
  | tag (tag : Tag)
deriving Repr

namespace Reader

/-- The text at the start, without its escapes, and the rest from the next tag on. `slashes`
counts the backslashes just read. -/
def plainText (slashes : Nat) : List Char → List Char × List Char
  | [] => (List.replicate slashes '\\', [])
  | '\x7b' :: '\x7b' :: '\x7b' :: '\x7b' :: rest =>
    if slashes = 1 then
      let (text, after) := plainText 0 rest
      ('\x7b' :: '\x7b' :: '\x7b' :: '\x7b' :: text, after)
    else (List.replicate (slashes - 1) '\\', '\x7b' :: '\x7b' :: '\x7b' :: '\x7b' :: rest)
  | '\x7b' :: '\x7b' :: rest =>
    if slashes = 1 then
      let (text, after) := plainText 0 rest
      ('\x7b' :: '\x7b' :: text, after)
    else (List.replicate (slashes - 1) '\\', '\x7b' :: '\x7b' :: rest)
  | c :: rest =>
    if c = '\\' then plainText (slashes + 1) rest
    else
      let (text, after) := plainText 0 rest
      (List.replicate slashes '\\' ++ c :: text, after)

/-- The text of a raw block, and the rest from its closing tag on. -/
def rawText (slashes : Nat) : List Char → List Char × List Char
  | [] => (List.replicate slashes '\\', [])
  | '\x7b' :: '\x7b' :: '\x7b' :: '\x7b' :: rest =>
    if slashes = 1 then
      let (text, after) := rawText 0 rest
      ('\x7b' :: '\x7b' :: '\x7b' :: '\x7b' :: text, after)
    else (List.replicate (slashes - 1) '\\', '\x7b' :: '\x7b' :: '\x7b' :: '\x7b' :: rest)
  | c :: rest =>
    if c = '\\' then rawText (slashes + 1) rest
    else
      let kept := if slashes = 1 && c = '\x7b' && rest.head? = some '\x7b' then 0 else slashes
      let (text, after) := rawText 0 rest
      (List.replicate kept '\\' ++ c :: text, after)

def tilde (cs : List Char) : Bool × List Char :=
  match skip cs with
  | '~' :: rest => (true, rest)
  | _ => (false, cs)

/-- What a tag says, whether white space is trimmed after it, and what follows the tag. -/
abbrev TagTail : Type := TagContent × Bool × List Char

def tagEnd (closing : List Char) (content : TagContent) (cs : List Char) : Except Miss TagTail := do
  let (trims, rest) := tilde cs
  let (_, rest) ← exactly closing (skip rest)
  return (content, trims, rest)

def braces : List Char := ['\x7d', '\x7d']

/-- A value: a call with arguments, a call in parentheses, or a reference. -/
def valueThen (finish : TagContent → List Char → Except Miss TagTail) (cs : List Char) :
    Except Miss TagTail :=
  let fuel := 2 * cs.length + 2
  let call : Except Miss TagTail := do
    let (name, rest) ← identifier cs
    let ((positional, named), rest) ← arguments fuel rest
    if positional.isEmpty && named.isEmpty then .error .other
    else finish (.call { name, arguments := positional, options := named }) rest
  match call with
  | .error .other => do
    let (found, rest) ← orElse (subexpression fuel) (fun cs => do
      let (found, rest) ← reference cs
      return (.reference found, rest)) cs
    finish (.value found) rest
  | result => result

def blockNames (cs : List Char) : List String × List Char :=
  let read : Except Miss (List String × List Char) := do
    let (_, rest) ← exactly ['a', 's'] (skip cs)
    let (_, rest) ← exactly ['|'] (skip rest)
    let (first, rest) ← identifier (skip rest)
    match identifier (skip rest) with
    | .ok (second, rest) =>
      let (_, rest) ← exactly ['|'] (skip rest)
      return ([first, second], rest)
    | .error _ =>
      let (_, rest) ← exactly ['|'] (skip rest)
      return ([first], rest)
  match read with
  | .ok found => found
  | .error _ => ([], cs)

def callLine (cs : List Char) : Except Miss ((Call × List String) × List Char) := do
  let (name, rest) ← identifier (skip cs)
  let ((positional, named), rest) ← arguments (2 * rest.length + 2) rest
  let (names, rest) := blockNames rest
  return (({ name, arguments := positional, options := named }, names), rest)

/-- The name of a partial: plain, in single quotes, computed, or written like a reference. -/
def partialName : Reader PartialName :=
  let plain : Reader PartialName := fun cs => do
    let (name, rest) ← some1 isPartialSymbol cs
    return (.fixed (String.ofList name), rest)
  let quoted : Reader PartialName := fun cs => do
    let (_, inner) ← exactly ['\x27'] cs
    match Text.splitOnce? (· == '\x27') inner with
    | some (name, rest) => return (.fixed (String.ofList (['\x27'] ++ name ++ ['\x27'])), rest)
    | none => .error .other
  let computed : Reader PartialName := fun cs => do
    let (name, rest) ← subexpression (2 * cs.length + 2) cs
    return (.computed name, rest)
  let referred : Reader PartialName := fun cs => do
    let (found, rest) ← reference cs
    return (.fixed found.raw, rest)
  orElse plain (orElse quoted (orElse computed referred))

def includeLine : Reader Inclusion := fun cs => do
  let (name, rest) ← partialName (skip cs)
  let ((positional, named), rest) ← arguments (2 * rest.length + 2) rest
  return ({ name, arguments := positional, options := named }, rest)

/-- An `else`, alone or with a condition. -/
def otherwiseTail (cs : List Char) : Except Miss TagTail :=
  match tagEnd braces .otherwise cs with
  | .ok tail => .ok tail
  | .error _ => do
    let ((call, names), rest) ← callLine cs
    tagEnd braces (.otherwiseIf call names) rest

def plainValue (cs : List Char) : Except Miss TagTail :=
  valueThen (tagEnd braces) (skip cs)

/-- A value between three braces; white space may be trimmed on either side of the third one. -/
def bracedValue (cs : List Char) : Except Miss TagTail :=
  valueThen (fun content rest =>
    match tagEnd ('\x7d' :: braces) content rest with
    | .ok tail => .ok tail
    | .error _ => do
      let (_, rest) ← exactly ['\x7d'] (skip rest)
      tagEnd braces content rest) (skip (tilde cs).2)

def closeTail (closing : List Char) (cs : List Char) : Except Miss TagTail := do
  let (name, rest) ← some1 (fun c => isSymbol c || isPartialSymbol c) (skip cs)
  tagEnd closing (.close (String.ofList name)) rest

/-- A tag, from what follows its opening braces and tilde. -/
def tagTail (cs : List Char) : Except Miss TagTail :=
  match skip cs with
  | '\x7b' :: rest => bracedValue rest
  | '&' :: rest => plainValue rest
  | '#' :: rest =>
    match skip rest with
    | '*' :: rest => do
      let ((call, _), rest) ← callLine rest
      tagEnd braces (.openDecorator call) rest
    | '>' :: rest => do
      let (inclusion, rest) ← includeLine rest
      tagEnd braces (.openInclusion inclusion) rest
    | _ => do
      let ((call, names), rest) ← callLine rest
      tagEnd braces (.openHelper call names) rest
  | '*' :: rest => do
    let ((call, _), rest) ← callLine rest
    tagEnd braces (.decorate call) rest
  | '>' :: rest => do
    let (inclusion, rest) ← includeLine rest
    tagEnd braces (.inclusion inclusion) rest
  | '/' :: rest => closeTail braces rest
  | '^' :: rest => otherwiseTail rest
  | other =>
    match Text.afterStart? ['e', 'l', 's', 'e'] other with
    | some rest => if continuesName rest then plainValue other else otherwiseTail rest
    | none => plainValue other

def afterFirst? (text : List Char) : List Char → Option (List Char)
  | [] => none
  | c :: rest =>
    match Text.afterStart? text (c :: rest) with
    | some after => some after
    | none => afterFirst? text rest

def comment? (cs : List Char) : Option (List Char) :=
  let short := (Text.afterStart? ['\x7b', '\x7b', '!'] cs).bind (afterFirst? braces)
  match (Text.afterStart? ['\x7b', '\x7b', '!', '-', '-'] cs).bind
      (afterFirst? ('-' :: '-' :: braces)) with
  | some rest => some rest
  | none => short

def isIndent (c : Char) : Bool := c == ' ' || c == '\t'

def isLineEnd (c : Char) : Bool := c == '\n' || c == '\r'

/-- Whether a text is at the end of its line, but for blanks. The end of the template ends a line.
-/
def endsLine (after : List Char) : Bool :=
  match after with
  | [] => true
  | _ =>
    match after.dropWhile isIndent with
    | c :: _ => isLineEnd c
    | [] => false

/-- Whether a text is at the start of its line, but for blanks, given what stands before it in
reverse. -/
def startsLine (before : List Char) : Bool :=
  match before.dropWhile isIndent with
  | c :: _ => isLineEnd c
  | [] => true

/-- A tag between what precedes it, in reverse, and what follows it. -/
def tagBetween (before : List Char) (place : Place) (trimsBefore : Bool) (tail : TagTail) : Tag :=
  let (content, trimsAfter, rest) := tail
  { place, content, trimsBefore, trimsAfter
    alone := endsLine rest && startsLine before
    indent := before.takeWhile isIndent }

/-- A raw block: nothing in its text is a tag. -/
def rawBlock (before : List Char) (place : Place) (cs : List Char) :
    Except Miss (List Part × List Char) := do
  let (_, inner) ← exactly (['\x7b', '\x7b', '\x7b', '\x7b']) cs
  let (trimsBefore, inner) := tilde inner
  let ((call, names), inner) ← callLine inner
  let (content, trimsAfter, body) ← tagEnd (braces ++ braces) (.openHelper call names) inner
  let (text, afterText) := rawText 0 body
  let (_, ending) ← exactly ['\x7b', '\x7b', '\x7b', '\x7b'] afterText
  let (trimsEnd, ending) := tilde ending
  let (_, ending) ← exactly ['/'] (skip ending)
  let tail ← closeTail (braces ++ braces) ending
  let beforeEnd := (body.take (body.length - afterText.length)).reverse ++ ['\x7d']
  return ([.tag (tagBetween before place trimsBefore (content, trimsAfter, body)), .text text,
    .tag (tagBetween beforeEnd place trimsEnd tail)], tail.2.2)

/-- The parts that a tag at the start of a text stands for, and what follows them. -/
def tagParts (before : List Char) (place : Place) (cs : List Char) :
    Except Miss (List Part × List Char) :=
  match comment? cs with
  | some rest => .ok ([.tag (tagBetween before place false (.comment, false, rest))], rest)
  | none =>
    let ordinary : Except Miss (List Part × List Char) := do
      let (trimsBefore, inner) := tilde (cs.drop 2)
      let tail ← tagTail inner
      return ([.tag (tagBetween before place trimsBefore tail)], tail.2.2)
    match ordinary with
    | .error .other => rawBlock before place cs
    | result => result

/-- The parts of a template. `before` holds what precedes them, in reverse. -/
def parts : Nat → List Char → Place → List Char → Except Miss (List Part)
  | 0, _, _, _ => .error .other
  | _ + 1, _, _, [] => .ok []
  | fuel + 1, before, place, c :: cs => do
    let (text, afterText) := plainText 0 (c :: cs)
    let (read, rest) ←
      if afterText.length < (c :: cs).length then .ok ([Part.text text], afterText)
      else tagParts before place (c :: cs)
    let consumed := (c :: cs).take ((c :: cs).length - rest.length)
    let more ← parts fuel (consumed.reverse ++ before) (consumed.foldl Place.after place) rest
    return read ++ more

end Reader

def partsOf? (source : String) : Option (List Part) :=
  let cs := source.toList
  (Reader.parts (cs.length + 1) [] { line := 1, column := 1 } cs).toOption

end DirSchema.Template
