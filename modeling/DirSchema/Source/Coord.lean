set_option autoImplicit false

namespace DirSchema

/-- A byte range of the file with the given number. -/
structure Coord where
  file : Nat
  start : Nat
  stop : Nat
deriving DecidableEq, Repr, Inhabited

end DirSchema
