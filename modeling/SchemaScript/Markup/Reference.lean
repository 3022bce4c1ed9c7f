import SchemaScript.Text.Cut
import SchemaScript.Text.Hexadecimal

/-!
# References in attribute values

A value is written with references such as `&lt;` or `&#x41;` for characters
that cannot stand there themselves.  `Reference.expand` replaces every
reference by its character.  Five names are known; a reference by number names
any character but the one numbered zero.
-/

namespace SchemaScript

namespace Markup

namespace Reference

/-- Why a number names no character. -/
inductive NumberFault where
  | signed
  | empty
  | badDigit
  | tooLarge
  | zero
  | noCharacter (number : Nat)
deriving Repr, DecidableEq

def NumberFault.message : NumberFault → String
  | signed => "unexpected number sign"
  | empty => "cannot parse integer from empty string"
  | badDigit => "invalid digit found in string"
  | tooLarge => "number too large to fit in target type"
  | zero => "0x0 character is not permitted in XML"
  | noCharacter number => s!"`{number}` is not a valid codepoint"

/-- Why a value cannot be expanded.  Offsets count bytes from its start. -/
inductive Fault where
  | unterminated (start finish : Nat)
  | unknownName (start finish : Nat) (name : List Char)
  | number (cause : NumberFault)
deriving Repr, DecidableEq

def Fault.message : Fault → String
  | unterminated start finish =>
    s!"Error while escaping character at range {start}..{finish}: Cannot find ';' after '&'"
  | unknownName start finish name =>
    s!"at {start}..{finish}: unrecognized entity `{String.ofList name}`"
  | number cause => s!"invalid character reference: {cause.message}"

/-- Numbers from here on do not fit a reference. -/
def numberLimit : Nat :=
  0x100000000

/--
Continues a number by further digits.  The digits are taken from the left and
the first that is none, or that makes the number too large, decides.
-/
def continueNumber (base number : Nat) : List Char → Except NumberFault Nat
  | [] => .ok number
  | char :: rest =>
    match (Text.hexValue? char).filter (· < base) with
    | none => .error .badDigit
    | some digit =>
      if number * base + digit < numberLimit then
        continueNumber base (number * base + digit) rest
      else
        .error .tooLarge

def readNumber (base : Nat) (digits : List Char) : Except NumberFault Nat :=
  match digits with
  | [] => .error .empty
  | '+' :: _ => .error .signed
  | '-' :: _ => .error .signed
  | digits => continueNumber base 0 digits

def characterOf (number : Nat) : Except NumberFault Char :=
  if number = 0 then
    .error .zero
  else if number.isValidChar then
    .ok (Char.ofNat number)
  else
    .error (.noCharacter number)

/-- The character that the text between `&#` and `;` stands for. -/
def readNumbered (text : List Char) : Except NumberFault Char :=
  match text with
  | 'x' :: digits => readNumber 16 digits >>= characterOf
  | digits => readNumber 10 digits >>= characterOf

def named : List (List Char × Char) :=
  [(['l', 't'], '<'), (['g', 't'], '>'), (['a', 'm', 'p'], '&'),
    (['a', 'p', 'o', 's'], '\x27'), (['q', 'u', 'o', 't'], '\x22')]

/--
The character that the text between `&` and `;` stands for.  The offset is
that of the `&`.
-/
def resolve (offset : Nat) (text : List Char) : Except Fault Char :=
  match text with
  | '#' :: number => (readNumbered number).mapError .number
  | name =>
    match named.lookup name with
    | some char => .ok char
    | none => .error (.unknownName (offset + 1) (offset + 1 + Text.byteLength name) name)

def endsSearch (char : Char) : Bool :=
  char = '&' || char = ';'

/--
Replaces the references of a value, of which the text begins at the given
offset.  A reference ends at the first `;` after its `&`, and no other `&` may
come before that.
-/
def expand (offset : Nat) (text : List Char) : Except Fault (List Char) :=
  match text with
  | [] => .ok []
  | '&' :: rest =>
    match found : rest.dropWhile (!endsSearch ·) with
    | ';' :: remaining => do
      let name := rest.takeWhile (!endsSearch ·)
      let char ← resolve offset name
      let chars ← expand (offset + Text.byteLength name + 2) remaining
      return char :: chars
    | _ => .error (.unterminated offset (offset + Text.byteLength text))
  | first :: rest => do
    let chars ← expand (offset + first.utf8Size) rest
    return first :: chars
termination_by text.length
decreasing_by
  · have := (List.dropWhile_suffix (!endsSearch ·) (l := rest)).length_le
    rw [found] at this
    simp at this ⊢
    omega
  · simp

end Reference

end Markup

end SchemaScript
