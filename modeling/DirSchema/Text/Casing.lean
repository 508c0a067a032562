import DirSchema.Text.Casing.Table
set_option autoImplicit false

namespace DirSchema.Text

namespace Casing

def inRanges (ranges : List (Nat × Nat)) (n : Nat) : Bool :=
  ranges.any fun (low, high) => low ≤ n && n ≤ high

/-- Whether a code point is a member of one of the stepped ranges. -/
def inSteppedRanges (ranges : List (Nat × Nat × Nat)) (n : Nat) : Bool :=
  ranges.any fun (low, high, step) => low ≤ n && n ≤ high && (n - low) % step == 0

/-- The image of a character under a case mapping: an expansion, a shift, or the character. -/
def mapped (expansions : List (Nat × List Nat)) (shifts : List (Nat × Nat × Nat × Int))
    (c : Char) : List Char :=
  let n := c.toNat
  match expansions.lookup n with
  | some image => image.map Char.ofNat
  | none =>
    match shifts.find? fun (low, high, step, _) =>
        low ≤ n && n ≤ high && (n - low) % step == 0 with
    | some (_, _, _, distance) => [Char.ofNat (Int.toNat (n + distance))]
    | none => [c]

end Casing

/-- A letter or number of any script. -/
def isAlphanumeric (c : Char) : Bool :=
  if c.toNat < 0x80 then c.isAlphanum else Casing.inRanges Casing.alphanumericRanges c.toNat

/-- A lower case letter of any script. -/
def isLowercase (c : Char) : Bool :=
  if c.toNat < 0x80 then c.isLower else Casing.inSteppedRanges Casing.lowercaseRanges c.toNat

/-- An upper case letter of any script. -/
def isUppercase (c : Char) : Bool :=
  if c.toNat < 0x80 then c.isUpper else Casing.inSteppedRanges Casing.uppercaseRanges c.toNat

/-- The lower case form of a character, which may be several characters. -/
def toLowercase (c : Char) : List Char :=
  if c.toNat < 0x80 then [c.toLower]
  else Casing.mapped Casing.toLowerExpansions Casing.toLowerRanges c

/-- The upper case form of a character, which may be several characters. -/
def toUppercase (c : Char) : List Char :=
  if c.toNat < 0x80 then [c.toUpper]
  else Casing.mapped Casing.toUpperExpansions Casing.toUpperRanges c

/-- The text with its first character in upper case. -/
def capitalize (s : String) : String :=
  match s.toList with
  | [] => ""
  | first :: rest => String.ofList (toUppercase first ++ rest)

end DirSchema.Text
