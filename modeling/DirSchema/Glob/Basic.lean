import DirSchema.Text.Basic
set_option autoImplicit false

/-!
Glob patterns. A pattern is a list of tokens, each of which takes some bytes from the start of a
path; the pattern matches a path if its tokens can take all of it.
-/
namespace DirSchema

inductive Glob.Token where
  | literal (c : Char)
  /-- One byte of a name. -/
  | anyByte
  /-- Any bytes of a name. -/
  | anyBytes
  /-- Any directories, from the start of the path, or none. -/
  | ancestors
  /-- A separator and everything below it. -/
  | descendants
  /-- A separator, and any directories that follow it. -/
  | between
  /-- One byte in one of the ranges, or in none of them. -/
  | oneOf (negated : Bool) (ranges : List (Char × Char))
  /-- One of the alternatives; without alternatives, no bytes. -/
  | choice (branches : List (List Token))
deriving Repr, Inhabited

structure Glob where
  pattern : String
  tokens : List Glob.Token
deriving Repr, Inhabited

namespace Glob

def separator : UInt8 := 0x2F

def bytesOf (c : Char) : List UInt8 := (String.singleton c).toUTF8.toList

/-- The ranges of bytes that a range of characters stands for. Between characters of several bytes
only the last byte of the one and the first byte of the other span a range. -/
def byteRanges (range : Char × Char) : List (UInt8 × UInt8) :=
  let single (byte : UInt8) := (byte, byte)
  let first := bytesOf range.1
  let last := bytesOf range.2
  if range.1 = range.2 then first.map single
  else
    match first.getLast?, last with
    | some low, high :: after => first.dropLast.map single ++ (low, high) :: after.map single
    | _, _ => []

def inRanges (byte : UInt8) (ranges : List (Char × Char)) : Bool :=
  (ranges.flatMap byteRanges).any fun (low, high) => low ≤ byte && byte ≤ high

def afterBytes : List UInt8 → List UInt8 → List (List UInt8)
  | [], bytes => [bytes]
  | _ :: _, [] => []
  | x :: xs, byte :: bytes => if x = byte then afterBytes xs bytes else []

def afterName : List UInt8 → List (List UInt8)
  | [] => [[]]
  | byte :: bytes =>
    (byte :: bytes) :: (if byte = separator then [] else afterName bytes)

def afterSeparators : List UInt8 → List (List UInt8)
  | [] => []
  | byte :: bytes =>
    if byte = separator then bytes :: afterSeparators bytes else afterSeparators bytes

def suffixes : List UInt8 → List (List UInt8)
  | [] => [[]]
  | byte :: bytes => (byte :: bytes) :: suffixes bytes

mutual

def Token.rests : Token → List UInt8 → List (List UInt8)
  | .literal c, bytes => afterBytes (bytesOf c) bytes
  | .anyByte, [] => []
  | .anyByte, byte :: bytes => if byte = separator then [] else [bytes]
  | .anyBytes, bytes => afterName bytes
  | .ancestors, bytes => bytes :: afterSeparators bytes
  | .descendants, [] => []
  | .descendants, byte :: bytes => if byte = separator then suffixes bytes else []
  | .between, [] => []
  | .between, byte :: bytes =>
    if byte = separator then bytes :: afterSeparators bytes else []
  | .oneOf _ _, [] => []
  | .oneOf negated ranges, byte :: bytes =>
    if inRanges byte ranges != negated then [bytes] else []
  | .choice [], bytes => [bytes]
  | .choice (branch :: others), bytes => restsOfBranches (branch :: others) bytes

def restsOfAll : List Token → List (List UInt8) → List (List UInt8)
  | [], paths => paths
  | token :: others, paths =>
    restsOfAll others (paths.flatMap fun bytes => token.rests bytes).eraseDups

def restsOfBranches : List (List Token) → List UInt8 → List (List UInt8)
  | [], _ => []
  | branch :: others, bytes => restsOfAll branch [bytes] ++ restsOfBranches others bytes

end

/-- Whether a pattern matches all of a path. The leading directories alone stand for any path. -/
def matchesPath (glob : Glob) (path : String) : Bool :=
  match glob.tokens with
  | [.ancestors] => true
  | tokens => (restsOfAll tokens [path.toUTF8.toList]).contains []

end Glob
end DirSchema
