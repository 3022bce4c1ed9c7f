import SchemaScript.Log.Pattern

/-!
# Values that are asked for

A rule of a filter may ask a field for a value: for a number, or for a text by a
search pattern.  A number without a plus is a pattern as well.
-/

namespace SchemaScript

namespace Log

/-- Whether a text is blank or the power of ten at the end of a number. -/
def isExponent : List Char → Bool
  | [] => true
  | mark :: rest =>
    let digits := if rest.head? = some '+' ∨ rest.head? = some '-' then rest.tail else rest
    (mark = 'e' || mark = 'E') && digits ≠ [] && digits.all Char.isDigit

/-- Whether a text is a number without a sign, which may be infinite or undefined. -/
def isUnsignedNumber (text : List Char) : Bool :=
  let fraction := match text.dropWhile Char.isDigit with
    | '.' :: rest => rest
    | _ => []
  let exponent := match text.dropWhile Char.isDigit with
    | '.' :: rest => rest.dropWhile Char.isDigit
    | rest => rest
  String.ofList (text.map Char.toLower) ∈ ["inf", "infinity", "nan"]
    || ((text.head?.any Char.isDigit || fraction.head?.any Char.isDigit)
      && isExponent exponent)

/-- Whether a text can be asked for as a value: by a pattern, or by a number with a plus. -/
def isValue (text : List Char) : Bool :=
  isPattern text || (text.head? = some '+' && isUnsignedNumber text.tail)

end Log

end SchemaScript
