import SchemaScript.Text.Attached
import SchemaScript.Text.Unprintable

/-!
# Quoted display

A text is displayed between quotes, so that its ends can be seen.  Quotes and
backslashes in it get a backslash, and what could not be seen or told apart is
written by a letter or by its number.
-/

namespace SchemaScript

namespace Text

def displayChar (char : Char) : List Char :=
  if char = '\x22' then ['\\', '\x22']
  else if char = '\\' then ['\\', '\\']
  else if char = '\n' then ['\\', 'n']
  else if char = '\r' then ['\\', 'r']
  else if char = '\t' then ['\\', 't']
  else if char = '\x00' then ['\\', '0']
  else if isAttached char || isUnprintable char then
    ['\\', 'u', '\x7b'] ++ (Nat.toDigits 16 char.toNat ++ ['\x7d'])
  else [char]

/-- The quoted display of a text. -/
def quoted (text : String) : String :=
  "\"" ++ String.ofList (text.toList.flatMap displayChar) ++ "\""

end Text

end SchemaScript
