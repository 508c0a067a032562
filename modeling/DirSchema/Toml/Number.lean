import DirSchema.Toml.Token
set_option autoImplicit false

namespace DirSchema.Toml.Number

/-- A part of a text, with its offset. -/
structure Piece where
  offset : Nat
  chars : List Char

/-- The offset after a piece. All characters of numbers have one byte. -/
def Piece.stop (piece : Piece) : Nat := piece.offset + piece.chars.length

/-- What a run of digits may look like. -/
structure DigitStyle where
  base : Nat := 10
  sign : Bool := false
  leadingZeros : Bool := false

def invalid (start stop : Nat) : Issue := { fault := .invalidNumber, span := { start, stop } }

def isDigitOf (base : Nat) (c : Char) : Bool :=
  match hexDigit? c with
  | some digit => digit < base
  | none => false

/-- What precedes the character that is looked at. -/
structure DigitState where
  first : Bool := true
  leadingZero : Bool := false
  underscore : Bool := false

/-- The digits at the start of `cs`, which stands at `offset`, with their underscores, and what
follows them. A second digit after a zero, or an underscore before all digits, is an issue from
there on. -/
def digitRun (style : DigitStyle) (piece : Piece) (state : DigitState) (offset : Nat) :
    List Char → Except Issue (List Char × List Char)
  | [] => finish []
  | c :: cs =>
    let next (state : DigitState) :=
      (digitRun style piece { state with first := false } (offset + 1) cs).map fun (run, rest) =>
        (c :: run, rest)
    if c = '0' && state.first then next { state with leadingZero := true }
    else if isDigitOf style.base c then
      if !state.first && state.leadingZero && !style.leadingZeros then
        .error (invalid offset piece.stop)
      else next { state with underscore := false }
    else if c = '_' && state.first then .error (invalid offset piece.stop)
    else if c = '_' && !state.underscore then next { state with underscore := true }
    else finish (c :: cs)
where
  /-- The end of the digits, of which there is at least one, and the last is no underscore. -/
  finish (rest : List Char) : Except Issue (List Char × List Char) :=
    if state.first || state.underscore then .error (invalid piece.offset piece.stop)
    else .ok ([], rest)

/-- The sign and digits at the start of a piece, and what follows them. -/
def digits (style : DigitStyle) (piece : Piece) : Except Issue (List Char × List Char) :=
  match piece.chars with
  | c :: cs =>
    if style.sign && (c == '+' || c == '-') then
      (digitRun style piece {} (piece.offset + 1) cs).map fun (run, rest) => (c :: run, rest)
    else digitRun style piece {} piece.offset piece.chars
  | [] => digitRun style piece {} piece.offset []

def valueOf (base : Nat) (cs : List Char) : Int :=
  let magnitude : Nat := digitsValue base (cs.filterMap hexDigit?)
  if cs.head? = some '-' then -magnitude else magnitude

def integer (base : Nat) (piece : Piece) : Except Issue Int := do
  let decimal := base == 10
  let (run, rest) ← digits { base, sign := decimal, leadingZeros := !decimal } piece
  let value := valueOf base run
  if rest.isEmpty && Int64.minValue.toInt ≤ value && value ≤ Int64.maxValue.toInt then return value
  else .error (invalid piece.offset piece.stop)

/-- Whether the nearest number with 53 binary digits to `mantissa * 10 ^ exponent` is below
`2 ^ 1024`. Powers of ten are only taken where the number has about as many digits as the limit. -/
def isFinite (mantissa : Nat) (exponent : Int) : Bool :=
  let limit := Nat.pow 2 1024 - Nat.pow 2 970
  let size : Int := (Nat.toDigits 10 mantissa).length + exponent
  if mantissa = 0 || size < 300 then true
  else if 320 < size then false
  else if 0 ≤ exponent then mantissa * Nat.pow 10 exponent.toNat < limit
  else mantissa < limit * Nat.pow 10 (-exponent).toNat

def plain (cs : List Char) : List Char := cs.filter (· != '_')

/-- A number of a whole part, a fraction and an exponent, as far as it has them. -/
structure Parts where
  whole : List Char
  fraction : List Char := []
  exponent : List Char := []

def Parts.finite (parts : Parts) : Bool :=
  let mantissa := digitsValue 10 ((parts.whole ++ parts.fraction).filterMap hexDigit?)
  isFinite mantissa (valueOf 10 parts.exponent - (plain parts.fraction).length)

def Parts.text (parts : Parts) : String :=
  let fraction := if parts.fraction.isEmpty then [] else '.' :: parts.fraction
  let exponent := if parts.exponent.isEmpty then [] else 'E' :: parts.exponent
  String.ofList (plain (parts.whole ++ fraction ++ exponent))

end DirSchema.Toml.Number
