import SchemaScript.Text.Runs

/-!
# Blank texts

A text is blank if nothing in it is visible: all its characters are white space
in the sense of Unicode, which knows twenty-five of them.
-/

namespace SchemaScript

namespace Text

def whiteSpaceRuns : List (Nat × Nat) :=
  [(0x09, 0x0D), (0x20, 0x20), (0x85, 0x85), (0xA0, 0xA0), (0x1680, 0x1680), (0x2000, 0x200A),
    (0x2028, 0x2029), (0x202F, 0x202F), (0x205F, 0x205F), (0x3000, 0x3000)]

def isWhiteSpace (char : Char) : Bool :=
  inRuns whiteSpaceRuns char

def isBlank (text : String) : Bool :=
  text.toList.all isWhiteSpace

def trim (text : List Char) : List Char :=
  ((text.dropWhile isWhiteSpace).reverse.dropWhile isWhiteSpace).reverse

end Text

end SchemaScript
