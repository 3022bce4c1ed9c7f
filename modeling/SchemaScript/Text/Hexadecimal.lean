/-!
# Hexadecimal digits

The sixteen digits, of which the last six are letters of either case.  Numbers
are written with small letters, and every digit that is written is read back.
-/

namespace SchemaScript

namespace Text

def hexValue? (char : Char) : Option Nat :=
  if '0' ≤ char ∧ char ≤ '9' then
    some (char.toNat - '0'.toNat)
  else if 'a' ≤ char ∧ char ≤ 'f' then
    some (char.toNat - 'a'.toNat + 10)
  else if 'A' ≤ char ∧ char ≤ 'F' then
    some (char.toNat - 'A'.toNat + 10)
  else
    none

def hexDigit (number : Nat) : Char :=
  if number < 10 then
    Char.ofNat ('0'.toNat + number)
  else
    Char.ofNat ('a'.toNat + number - 10)

theorem hexValue?_hexDigit {number : Nat} (small : number < 16) :
    hexValue? (hexDigit number) = some number := by
  revert number
  decide

end Text

end SchemaScript
