import DirSchema.Text.Width.Table
set_option autoImplicit false

namespace DirSchema.Text

/-- Control characters and marks take no column, ideographs and most pictographs two. -/
def width (c : Char) : Nat :=
  let n := c.toNat
  let within (ranges : List (Nat × Nat)) : Bool :=
    ranges.any fun (low, high) => low ≤ n && n ≤ high
  if n < 0x20 || n == 0x7F then 0
  else if n < 0x7F then 1
  else if n < 0xA0 || within Width.zeroRanges then 0
  else if within Width.wideRanges then 2
  else 1

end DirSchema.Text
