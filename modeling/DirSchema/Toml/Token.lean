import DirSchema.Toml.Basic
set_option autoImplicit false

namespace DirSchema.Toml

inductive Token where
  | blank
  | newline
  | comment
  | equals
  | period
  | comma
  | colon
  | plus
  | leftBrace
  | rightBrace
  | leftBracket
  | rightBracket
  | word (text : String)
  | text (value : String) (content : Span) (multiline : Bool)
deriving DecidableEq, Repr

def Token.description : Token → String
  | .blank => "whitespace"
  | .newline => "a newline"
  | .comment => "a comment"
  | .equals => "an equals"
  | .period => "a period"
  | .comma => "a comma"
  | .colon => "a colon"
  | .plus => "a plus"
  | .leftBrace => "a left brace"
  | .rightBrace => "a right brace"
  | .leftBracket => "a left bracket"
  | .rightBracket => "a right bracket"
  | .word _ => "an identifier"
  | .text _ _ multiline => if multiline then "a multiline string" else "a string"

structure Lexeme where
  token : Token
  span : Span
deriving DecidableEq, Repr

structure Mark where
  offset : Nat
  char : Char
deriving DecidableEq, Repr

def marks (offset : Nat) : List Char → List Mark
  | [] => []
  | '\r' :: '\n' :: rest => { offset, char := '\n' } :: marks (offset + 2) rest
  | c :: rest => { offset, char := c } :: marks (offset + c.utf8Size) rest

/-- The characters of a text, without a byte order mark. -/
def marksOf (text : String) : List Mark :=
  match marks 0 text.toList with
  | ⟨_, '\uFEFF'⟩ :: rest => rest
  | all => all

/-- The offset of the first of some characters, or that of the end of the text. -/
def offsetOf (stop : Nat) : List Mark → Nat
  | [] => stop
  | mark :: _ => mark.offset

/-- The characters for which `p` holds, from the first, and the rest. -/
def spanOf (p : Char → Bool) (marks : List Mark) : List Char × List Mark :=
  ((marks.takeWhile fun mark => p mark.char).map (·.char), marks.dropWhile fun mark => p mark.char)

def isBlank (c : Char) : Bool := c == ' ' || c == '\t'

def isWordChar (c : Char) : Bool := c.isAlphanum || c == '-' || c == '_'

def isCommentChar (c : Char) : Bool := c == '\t' || ' ' ≤ c

def isTextChar (c : Char) : Bool := isCommentChar c && c != '\x7f'

def digitsValue (base : Nat) (digits : List Nat) : Nat :=
  digits.foldl (fun value digit => value * base + digit) 0

def hexDigit? (c : Char) : Option Nat :=
  if c.isDigit then some (c.toNat - '0'.toNat)
  else if 'a' ≤ c && c ≤ 'f' then some (c.toNat - 'a'.toNat + 10)
  else if 'A' ≤ c && c ≤ 'F' then some (c.toNat - 'A'.toNat + 10)
  else none

/-- A number of hexadecimal digits, in a text that starts at `start`. -/
def hexDigits (start : Nat) : Nat → List Mark → Except Issue (List Nat × List Mark)
  | 0, marks => .ok ([], marks)
  | _ + 1, [] => .error (.atByte start .unterminatedText)
  | n + 1, mark :: rest =>
    match hexDigit? mark.char with
    | none => .error (.atByte mark.offset (.invalidHexEscape mark.char))
    | some digit => (hexDigits start n rest).map fun (digits, rest) => (digit :: digits, rest)

/-- The character that an escape with a number of hexadecimal digits stands for. -/
def hexEscape (start offset length : Nat) (marks : List Mark) :
    Except Issue (Option Char × List Mark) :=
  match hexDigits start length marks with
  | .error issue => .error issue
  | .ok (digits, rest) =>
    let value := digitsValue 16 digits
    if value.isValidChar then .ok (some (Char.ofNat value), rest)
    else
      .error { fault := .invalidEscapeValue, span := { start := offset, stop := offset + length } }

def skip (p : Char → Bool) (marks : List Mark) : List Mark :=
  marks.dropWhile fun mark => p mark.char

/-- What an escape stands for, after its backslash. An escaped end of a line stands for nothing, and
takes the white space that follows with it. -/
def escape (multiline : Bool) (start : Nat) : List Mark → Except Issue (Option Char × List Mark)
  | [] => .error (.atByte start .unterminatedText)
  | ⟨offset, c⟩ :: rest =>
    let invalid := .error (.atByte offset (.invalidEscape c))
    match c with
    | '"' => .ok (some '"', rest)
    | '\\' => .ok (some '\\', rest)
    | 'b' => .ok (some '\x08', rest)
    | 'f' => .ok (some '\x0c', rest)
    | 'n' => .ok (some '\n', rest)
    | 'r' => .ok (some '\r', rest)
    | 't' => .ok (some '\t', rest)
    | 'u' => hexEscape start offset 4 rest
    | 'U' => hexEscape start offset 8 rest
    | _ =>
      let space (d : Char) := isBlank d || d == '\n'
      if !multiline then invalid
      else if c = '\n' then .ok (none, skip space rest)
      else if isBlank c then
        match skip isBlank rest with
        | [] => .ok (none, [])
        | ⟨_, '\n'⟩ :: after => .ok (none, skip space after)
        | _ => invalid
      else invalid

/-- A text in quotes: its characters, where they end, and what follows the quotes. -/
structure QuotedText where
  value : List Char
  stop : Nat
  rest : List Mark

/-- What follows the closing quotes, and how many quotes before them belong to the text. A text of
several lines ends at three to five quotes, of which the last three close it. -/
def closing? (quote : Char) (multiline : Bool) (marks : List Mark) : Option (Nat × List Mark) :=
  if !multiline then some (0, marks.drop 1)
  else
    let run := ((marks.take 5).takeWhile fun mark => mark.char == quote).length
    if run < 3 then none else some (run - 3, marks.drop run)

/-- The rest of a text that starts at `start`. Every step takes a character, so that as many steps
as there are characters are enough. -/
def quotedText (quote : Char) (multiline : Bool) (start : Nat) (value : List Char) :
    Nat → List Mark → Except Issue QuotedText
  | 0, _ | _, [] => .error (.atByte start .unterminatedText)
  | fuel + 1, ⟨offset, c⟩ :: rest =>
    if c = '\n' then
      if multiline then quotedText quote multiline start (c :: value) fuel rest
      else .error (.atByte offset (.invalidCharacter c))
    else if c = quote then
      match closing? quote multiline (⟨offset, c⟩ :: rest) with
      | some (extra, rest) =>
        .ok
          { value := (List.replicate extra quote ++ value).reverse
            stop := offset + extra
            rest }
      | none => quotedText quote multiline start (c :: value) fuel rest
    else if c = '\\' && quote = '"' then
      match escape multiline start rest with
      | .error issue => .error issue
      | .ok (c?, rest) => quotedText quote multiline start (c?.toList ++ value) fuel rest
    else if isTextChar c then quotedText quote multiline start (c :: value) fuel rest
    else .error (.atByte offset (.invalidCharacter c))

/-- What a character starts: a token, and what follows it. -/
abbrev Lexed : Type := Except Issue (Token × List Mark)

/-- A text after its first quote, which stands at `start`. A newline right after three quotes does
not belong to the text. -/
def textToken (stop : Nat) (quote : Char) (start : Nat) (rest : List Mark) : Lexed :=
  let isQuote (mark : Mark) := mark.char == quote
  let read (multiline : Bool) (body : List Mark) : Lexed :=
    (quotedText quote multiline start [] body.length body).map fun text =>
      let content := { start := offsetOf stop body, stop := text.stop }
      (.text (String.ofList text.value) content multiline, text.rest)
  match (rest.take 2).takeWhile isQuote with
  | [] => read false rest
  | [_] => .ok (.text "" { start := start + 1, stop := start + 1 } false, rest.drop 1)
  | _ =>
    match rest.drop 2 with
    | ⟨_, '\n'⟩ :: body => read true body
    | body => read true body

/-- The token that starts with a character, and what follows it. -/
def lexOne (stop : Nat) (first : Mark) (rest : List Mark) : Lexed :=
  match first.char with
  | '\n' => .ok (.newline, rest)
  | ' ' | '\t' => .ok (.blank, skip isBlank rest)
  | '#' => .ok (.comment, skip isCommentChar rest)
  | '=' => .ok (.equals, rest)
  | '.' => .ok (.period, rest)
  | ',' => .ok (.comma, rest)
  | ':' => .ok (.colon, rest)
  | '+' => .ok (.plus, rest)
  | '\x7b' => .ok (.leftBrace, rest)
  | '\x7d' => .ok (.rightBrace, rest)
  | '[' => .ok (.leftBracket, rest)
  | ']' => .ok (.rightBracket, rest)
  | '\x27' => textToken stop '\x27' first.offset rest
  | '"' => textToken stop '"' first.offset rest
  | c =>
    if isWordChar c then
      let (word, after) := spanOf isWordChar rest
      .ok (.word (String.ofList (c :: word)), after)
    else .error (.atByte first.offset (.unexpected c))

/-- The tokens of a text that are still to be read, and what comes after them: the end of the
text, or something that is no token. -/
structure Stream where
  lexemes : List Lexeme
  stop : Nat
  issue : Option Issue := none
deriving Repr

/-- The tokens of some characters. Every token takes a character, so that as many steps as there are
characters are enough. -/
def lexAll (stop : Nat) : Nat → List Mark → List Lexeme × Option Issue
  | 0, _ | _, [] => ([], none)
  | fuel + 1, first :: rest =>
    match lexOne stop first rest with
    | .error issue => ([], some issue)
    | .ok (token, after) =>
      let (lexemes, issue) := lexAll stop fuel after
      ({ token, span := { start := first.offset, stop := offsetOf stop after } } :: lexemes, issue)

def Stream.ofText (text : String) : Stream :=
  let marks := marksOf text
  let (lexemes, issue) := lexAll text.utf8ByteSize marks.length marks
  { lexemes, stop := text.utf8ByteSize, issue }

end DirSchema.Toml
