set_option autoImplicit false

namespace DirSchema.Text

/-- A character with the Unicode property White_Space. -/
def isBlank (c : Char) : Bool :=
  let n := c.toNat
  (0x09 ≤ n && n ≤ 0x0D) || n == 0x20 || n == 0x85 || n == 0xA0 || n == 0x1680 ||
    (0x2000 ≤ n && n ≤ 0x200A) || n == 0x2028 || n == 0x2029 || n == 0x202F || n == 0x205F ||
    n == 0x3000

/-- The characters up to and including the last one outside `p`. -/
def dropEndWhile (p : Char → Bool) (cs : List Char) : List Char :=
  (cs.reverse.dropWhile p).reverse

def trimStart (cs : List Char) : List Char := cs.dropWhile isBlank

def trimEnd (cs : List Char) : List Char := dropEndWhile isBlank cs

/-- The text without the white space around it. -/
def trim (cs : List Char) : List Char := trimEnd (trimStart cs)

def afterStart? : List Char → List Char → Option (List Char)
  | [], cs => some cs
  | _ :: _, [] => none
  | s :: ss, c :: cs => if s = c then afterStart? ss cs else none

def beforeLast? (last : Char) (cs : List Char) : Option (List Char) :=
  if cs.getLast? = some last then some cs.dropLast else none

def endsWith (last : Char) (cs : List Char) : Bool := cs.getLast? == some last

def splitOnce? (p : Char → Bool) : List Char → Option (List Char × List Char)
  | [] => none
  | c :: cs =>
    if p c then some ([], cs)
    else (splitOnce? p cs).map fun (before, after) => (c :: before, after)

/-- The pieces between separators, one more than there are separators. -/
def fields (p : Char → Bool) : List Char → List (List Char)
  | [] => [[]]
  | c :: cs =>
    if p c then [] :: fields p cs
    else
      match fields p cs with
      | [] => [[c]]
      | first :: rest => (c :: first) :: rest

/-- The first run of characters that are not white space. -/
def firstWord? (cs : List Char) : Option (List Char) :=
  match (trimStart cs).takeWhile (fun c => !isBlank c) with
  | [] => none
  | word => some word

/-- The pieces of a text that end at each newline, which they keep; the last may have none. -/
def pieces : List Char → List (List Char)
  | [] => []
  | c :: cs =>
    if c = '\n' then [c] :: pieces cs
    else
      match pieces cs with
      | [] => [[c]]
      | first :: rest => (c :: first) :: rest

/-- The number of bytes of the UTF-8 form. -/
def byteLength (cs : List Char) : Nat := cs.foldl (fun length c => length + c.utf8Size) 0

/-- The characters from one byte offset to another, if both stand between characters. -/
def slice? (start stop : Nat) (cs : List Char) : Option (List Char) :=
  (go 0 cs).bind fun rest => if start ≤ stop then takeBytes (stop - start) rest else none
where
  /-- The characters from byte `start` on. -/
  go (offset : Nat) : List Char → Option (List Char)
    | [] => if offset = start then some [] else none
    | c :: cs =>
      if offset = start then some (c :: cs)
      else if start < offset then none
      else go (offset + c.utf8Size) cs
  /-- The characters that fill exactly the given number of bytes. -/
  takeBytes : Nat → List Char → Option (List Char)
    | 0, _ => some []
    | _ + 1, [] => none
    | n + 1, c :: cs =>
      if c.utf8Size ≤ n + 1 then (takeBytes (n + 1 - c.utf8Size) cs).map (c :: ·) else none

/-- The lines of a text without their ends, which are a newline or a carriage return and newline. -/
def lines (cs : List Char) : List (List Char) :=
  (pieces cs).map fun piece =>
    match beforeLast? '\n' piece with
    | some line => (beforeLast? '\r' line).getD line
    | none => piece

def decimal (n : Nat) : String := String.ofList (Nat.toDigits 10 n)

end DirSchema.Text
