/-!
# Code pages

A code page gives every byte a character of its own, or none.  The lower half
is the same everywhere; the upper half is listed as runs of characters with
consecutive numbers and gaps of bytes without a character.
-/

namespace SchemaScript

namespace Encoding

/-- A part of the upper half of a code page. -/
inductive Run where
  /-- One byte with the character of the given number. -/
  | one (number : Nat)
  /-- Bytes with all characters from the first number to the last. -/
  | all (first last : Nat)
  /-- Bytes without a character. -/
  | gap (length : Nat)
deriving Repr, DecidableEq

structure CodePage where
  name : String
  runs : List Run
deriving Repr, DecidableEq

def Run.chars : Run → List (Option Char)
  | one number => [some (Char.ofNat number)]
  | all first last =>
    (List.range (last + 1 - first)).map fun step => some (Char.ofNat (first + step))
  | gap length => List.replicate length none

namespace CodePage

def lowerSize : Nat :=
  128

def upperHalf (page : CodePage) : List (Option Char) :=
  page.runs.flatMap Run.chars

/-- The character of a byte, given the upper half. -/
def charOfByte? (upper : List (Option Char)) (byte : UInt8) : Option Char :=
  if byte.toNat < lowerSize then
    some (Char.ofNat byte.toNat)
  else
    upper[byte.toNat - lowerSize]?.join

def decode? (page : CodePage) (bytes : List UInt8) : Option (List Char) :=
  bytes.mapM (charOfByte? page.upperHalf)

end CodePage

end Encoding

end SchemaScript
