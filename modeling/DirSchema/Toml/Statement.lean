import DirSchema.Toml.Number
set_option autoImplicit false

namespace DirSchema.Toml

abbrev Reading : Type → Type := StateT Stream (Except Issue)

namespace Reading

/-- Where the next token starts. -/
def offset : Reading Nat := do
  let stream ← get
  return match stream.lexemes with
    | [] => stream.stop
    | lexeme :: _ => lexeme.span.start

/-- The next token, none at the end of the text. -/
def peek? : Reading (Option Lexeme) := do
  let stream ← get
  match stream.lexemes, stream.issue with
  | lexeme :: _, _ => return some lexeme
  | [], none => return none
  | [], some issue => throw issue

def advance : Reading Unit := modify fun stream => { stream with lexemes := stream.lexemes.drop 1 }

def next? : Reading (Option Lexeme) := do
  let lexeme ← peek?
  advance
  return lexeme

/-- The range of the next token, which is taken, if it is the given one. -/
def eat? (token : Token) : Reading (Option Span) := do
  match ← peek? with
  | some lexeme => if lexeme.token = token then do advance; return some lexeme.span else return none
  | none => return none

def eat (token : Token) : Reading Bool := return (← eat? token).isSome

/-- Stops where something else is found at an offset than what is wanted. -/
def refuse {α : Type} (what : String) (start : Nat) (found : Option Lexeme) : Reading α :=
  throw (.missing what start ((found.map (·.token.description)).getD "eof"))

/-- Takes a token that has to follow, and answers its range. -/
def expect (token : Token) : Reading Span := do
  let start ← offset
  let found ← next?
  match found.filter (·.token = token) with
  | some lexeme => return lexeme.span
  | none => refuse token.description start found

/-- Takes the next token if it is known already to be the given one. -/
def takeKnown (token : Token) : Reading Bool := do
  match (← get).lexemes with
  | lexeme :: _ => if lexeme.token = token then do advance; return true else return false
  | [] => return false

def skipBlank : Reading Unit := do
  let _ ← takeKnown .blank

def lineEnd : Reading Unit := do
  let start ← offset
  let found ← next?
  if found.any (·.token ≠ .newline) then refuse "newline" start found

def comment : Reading Bool := do
  if ← takeKnown .comment then lineEnd; return true
  else return false

/-- Takes the end of a line, which a comment may precede. -/
def lineEndOrComment : Reading Unit := do
  if !(← comment) then lineEnd

def key : Reading Key := do
  let start ← offset
  let found ← next?
  match found with
  | some { token := .word name, span } => return { name, span }
  | some { token := .text name content multiline, span } =>
    if multiline then throw { fault := .multilineKey, span } else return { name, span := content }
  | _ => refuse "a table key" start found

def moreKeys : Nat → List Key → Reading (List Key)
  | 0, keys => return keys.reverse
  | fuel + 1, keys => do
    skipBlank
    if ← eat .period then
      skipBlank
      moreKeys fuel ((← key) :: keys)
    else return keys.reverse

/-- As many steps as there are tokens, and one more. -/
def fuel : Reading Nat := return (← get).lexemes.length + 1

/-- Keys with periods between them, and the blanks after them. -/
def keys : Reading (List Key) := do
  let first ← key
  moreKeys (← fuel) [first]

/-- A word whose exponent follows as a token of its own, as in `1e+5`. -/
def looseExponent (piece : Number.Piece) : Reading (List Char × List Char) := do
  let _ ← eat .plus
  match ← next? with
  | some { token := .word text, span } =>
    Number.digits { leadingZeros := true } { offset := span.start, chars := text.toList }
  | _ => throw (Number.invalid piece.offset piece.stop)

def float (span : Span) (piece : Number.Piece) (after : Option Number.Piece) : Reading Value := do
  let (whole, rest) ← Number.digits { sign := true } piece
  let invalid := Number.invalid piece.offset piece.stop
  let (fraction, rest) ←
    match after with
    | none => pure ([], rest)
    | some after =>
      if rest.isEmpty then Number.digits { leadingZeros := true } after else throw invalid
  let (exponent, rest) ←
    match rest with
    | [] => pure ([], [])
    | [c] => if c = 'e' || c = 'E' then looseExponent piece else throw invalid
    | c :: cs =>
      if c = 'e' || c = 'E' then
        Number.digits { sign := true, leadingZeros := true }
          { offset := (after.getD piece).stop - cs.length, chars := cs }
      else throw invalid
  let parts : Number.Parts := { whole, fraction, exponent }
  if rest.isEmpty && parts.finite then return .float span parts.text else throw invalid

def number (span : Span) (piece : Number.Piece) : Reading Value := do
  let based (base : Nat) (cs : List Char) : Reading Value := do
    return .integer span (← Number.integer base { offset := piece.offset + 2, chars := cs })
  match piece.chars with
  | '0' :: 'x' :: cs => based 16 cs
  | '0' :: 'o' :: cs => based 8 cs
  | '0' :: 'b' :: cs => based 2 cs
  | cs =>
    if cs.contains 'e' || cs.contains 'E' then float span piece none
    else if ← eat .period then
      let start ← offset
      match ← next? with
      | some { token := .word text, span := after } =>
        float { span with stop := after.stop } piece
          (some { offset := after.start, chars := text.toList })
      | _ => throw (Number.invalid start span.stop)
    else if ["inf", "-inf", "nan", "-nan"].contains (String.ofList cs) then
      return .float span (String.ofList cs)
    else return .integer span (← Number.integer 10 piece)

/-- The value that starts with a word: a truth value or a number. -/
def word (text : String) (span : Span) : Reading Value :=
  let piece : Number.Piece := { offset := span.start, chars := text.toList }
  if text = "true" then return .boolean span true
  else if text = "false" then return .boolean span false
  else if text = "inf" || text = "nan" then number span piece
  else
    match piece.chars with
    | c :: _ =>
      if c = '-' || c.isDigit then number span piece
      else throw { fault := .unquotedText, span }
    | [] => throw { fault := .unquotedText, span }

def afterPlus (plus : Span) : Reading Value := do
  let start ← offset
  match ← next? with
  | some { token := .word text, span } =>
    number { plus with stop := span.stop } { offset := span.start, chars := text.toList }
  | _ => throw (Number.invalid start plus.stop)

/-- Takes line ends and comments between the items of an array. -/
def skipLines : Nat → Reading Unit
  | 0 => return ()
  | fuel + 1 => do
    skipBlank
    if ← eat .newline then skipLines fuel
    else if ← comment then skipLines fuel
    else return ()

/-- A table with a value under keys. All keys but the last lead into tables that dotted keys have
made before, or make them. -/
def insertAt (value : Value) : List Key → Table → Except Issue Table
  | [], table => .ok table
  | [last], table => .ok (table ++ [(last, value)])
  | first :: more, table =>
    let other (entry : Key × Value) := entry.1.name != first.name
    match table.dropWhile other with
    | [] => do
      let inner ← insertAt value more []
      return table ++ [(first, .dotted value.span inner)]
    | (found, .dotted span inner) :: after => do
      let inner ← insertAt value more inner
      return table.takeWhile other ++ (found, .dotted span inner) :: after
    | (found, _) :: _ =>
      .error
        { fault := .extendedValue found.span
          span := { start := first.span.start, stop := value.span.stop } }

mutual

def value : Nat → Reading Value
  | 0 => do throw (.atByte (← get).stop .unexpectedEnd)
  | fuel + 1 => do
    match ← next? with
    | none => throw (.atByte (← get).stop .unexpectedEnd)
    | some { token, span } =>
      match token with
      | .text value content _ => return .text content value
      | .word text => word text span
      | .plus => afterPlus span
      | .leftBrace =>
        skipBlank
        match ← eat? .rightBrace with
        | some closing => return .table { span with stop := closing.stop } []
        | none =>
          let (stop, entries) ← inlineEntries fuel []
          return .table { span with stop } entries
      | .leftBracket =>
        let (stop, items) ← arrayItems fuel []
        return .array { span with stop } items
      | _ => throw { fault := .wanted "a value", span }

/-- The rest of a table in braces, and where it ends. -/
def inlineEntries : Nat → Table → Reading (Nat × Table)
  | 0, entries => return ((← get).stop, entries)
  | fuel + 1, entries => do
    let path ← keys
    skipBlank
    let _ ← expect .equals
    skipBlank
    let entry ← value fuel
    let entries ← monadLift (insertAt entry path entries)
    skipBlank
    match ← eat? .rightBrace with
    | some closing => return (closing.stop, entries)
    | none =>
      let _ ← expect .comma
      skipBlank
      inlineEntries fuel entries

/-- The rest of an array, whose items so far come from the last, and where it ends. -/
def arrayItems : Nat → List Value → Reading (Nat × List Value)
  | 0, items => return ((← get).stop, items.reverse)
  | fuel + 1, items => do
    skipLines (← Reading.fuel)
    match ← eat? .rightBracket with
    | some closing => return (closing.stop, items.reverse)
    | none =>
      let item ← value fuel
      skipLines (← Reading.fuel)
      if ← eat .comma then arrayItems fuel (item :: items)
      else
        skipLines (← Reading.fuel)
        let closing ← expect .rightBracket
        return (closing.stop, (item :: items).reverse)

end

end Reading

/-- A part of a document: a header with the keys under it. The keys before the first header are in a
block without a name. -/
structure Block where
  span : Span
  header : List Key := []
  isArray : Bool := false
  entries : Table := []

namespace Reading

/-- The keys of a header, from the first, and the end of its line. -/
def headerKeys (isArray : Bool) : Nat → List Key → Reading (List Key)
  | 0, keys => return keys.reverse
  | fuel + 1, keys => do
    skipBlank
    if ← (if keys.isEmpty then pure true else eat .period) then
      skipBlank
      headerKeys isArray fuel ((← key) :: keys)
    else
      let _ ← expect .rightBracket
      if isArray then
        let _ ← expect .rightBracket
      skipBlank
      lineEndOrComment
      return keys.reverse

def header : Reading Block := do
  let start ← offset
  let _ ← expect .leftBracket
  let isArray ← eat .leftBracket
  let header ← headerKeys isArray ((← fuel) + 1) []
  return { span := { start, stop := ← offset }, header, isArray }

def entry (block : Block) : Reading Block := do
  let path ← keys
  skipBlank
  let _ ← expect .equals
  skipBlank
  let item ← value (2 * (← fuel))
  skipBlank
  lineEndOrComment
  let entries ← monadLift (insertAt item path block.entries)
  return { block with entries }

/-- The blocks of a document. Those before `current` come from the last. A block without a name and
without keys is none. -/
def blocks : Nat → List Block → Block → Reading (List Block)
  | 0, done, current => return (current :: done).reverse
  | fuel + 1, done, current => do
    let finished :=
      if current.header.isEmpty && current.entries.isEmpty then done else current :: done
    skipLines (← Reading.fuel)
    match ← peek? with
    | none => return finished.reverse
    | some { token := .leftBracket, .. } => blocks fuel finished (← header)
    | some _ => blocks fuel done (← entry current)

end Reading

def Block.ofText (text : String) : Except Issue (List Block) :=
  let stream := Stream.ofText text
  let first : Block := { span := { start := 0, stop := 0 } }
  (Reading.blocks (stream.lexemes.length + 1) [] first stream).map (·.1)

end DirSchema.Toml
