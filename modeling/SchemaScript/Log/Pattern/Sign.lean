import SchemaScript.Log.Pattern.Flags
import SchemaScript.Text.Hexadecimal

/-!
# Signs of search patterns

A sign stands for a character, for a set of characters, or for an edge between
characters.  Characters stand for themselves, and a backslash writes the other
signs.  The flags decide where a sign can be used.
-/

namespace SchemaScript

namespace Log

namespace Pattern

/-- What a character or an escape stands for. -/
inductive Sign where
  /-- A character, perhaps written by two digits as a byte. -/
  | char (symbol : Char) (byte : Bool)
  /-- The digits, the blanks or the word characters, or all others. -/
  | set (negated : Bool)
  /-- An edge of the text or of a word. -/
  | edge (ofWord : Bool)
deriving Repr, DecidableEq

namespace Sign

/-- The signs that letters write after a backslash. -/
def ofLetters : List (Char × Sign) :=
  [('d', set false), ('s', set false), ('w', set false),
    ('D', set true), ('S', set true), ('W', set true),
    ('A', edge false), ('z', edge false), ('b', edge true), ('B', edge true),
    ('<', edge true), ('>', edge true),
    ('a', char '\x07' false), ('f', char '\x0C' false), ('t', char '\t' false),
    ('n', char '\n' false), ('r', char '\r' false), ('v', char '\x0B' false)]

def ofEscaped? (escaped : Char) : Option Sign :=
  match ofLetters.lookup escaped with
  | some sign => some sign
  | none =>
    if escaped.toNat < 0x80 && !escaped.isAlphanum then some (char escaped false) else none

/-- Reads a number of hexadecimal digits after the value of those before them. -/
def readDigits? (flags : Flags) : Nat → Nat → List Char → Option (Nat × List Char)
  | 0, number, text => some (number, text)
  | _ + 1, _, [] => none
  | count + 1, number, digit :: rest =>
    match Text.hexValue? digit with
    | none => none
    | some value => readDigits? flags count (number * 16 + value) (flags.skip rest)

def readNumbered? (flags : Flags) (count : Nat) (text : List Char) : Option (Sign × List Char) :=
  match readDigits? flags count 0 (flags.skip text) with
  | none => none
  | some (number, rest) =>
    if number.isValidChar then some (char (Char.ofNat number) (count = 2), rest) else none

def readEscaped? (flags : Flags) : List Char → Option (Sign × List Char)
  | [] => none
  | 'x' :: rest => readNumbered? flags 2 rest
  | 'u' :: rest => readNumbered? flags 4 rest
  | 'U' :: rest => readNumbered? flags 8 rest
  | escaped :: rest => (ofEscaped? escaped).map (·, rest)

/-- Whether a sign can be used outside classes. -/
def isUsable (flags : Flags) : Sign → Bool
  | char symbol byte =>
    if flags.unicode then !flags.ignoreCase else !byte || symbol.toNat < 0x80
  | set negated => !flags.unicode && !negated
  | edge ofWord => !(flags.unicode && ofWord)

/-- Whether a sign can be a member of a class. -/
def isMember (flags : Flags) : Sign → Bool
  | char symbol _ => if flags.unicode then !flags.ignoreCase else symbol.toNat < 0x80
  | set negated => !flags.unicode && !negated
  | edge _ => false

/-- Whether signs can be the ends of a range in a class. -/
def isRange (flags : Flags) : Sign → Sign → Bool
  | char first byte, char last otherByte =>
    first ≤ last && (char first byte).isMember flags && (char last otherByte).isMember flags
  | _, _ => false

theorem readDigits?_length_le {flags : Flags} {count before number : Nat} {text rest : List Char}
    (read : readDigits? flags count before text = some (number, rest)) :
    rest.length ≤ text.length := by
  fun_induction readDigits? flags count before text with
  | case1 => cases read; exact Nat.le_refl _
  | case2 => cases read
  | case3 => cases read
  | case4 count before digit text value _ ih =>
    exact Nat.le_succ_of_le (Nat.le_trans (ih read) (flags.skip_length_le text))

theorem readNumbered?_length_le {flags : Flags} {count : Nat} {text rest : List Char} {sign : Sign}
    (read : readNumbered? flags count text = some (sign, rest)) : rest.length ≤ text.length := by
  unfold readNumbered? at read
  split at read
  · cases read
  · rename_i digits
    split at read
    · cases read
      exact Nat.le_trans (readDigits?_length_le digits) (flags.skip_length_le text)
    · cases read

theorem readEscaped?_length_le {flags : Flags} {text rest : List Char} {sign : Sign}
    (read : readEscaped? flags text = some (sign, rest)) : rest.length ≤ text.length := by
  unfold readEscaped? at read
  split at read
  · cases read
  · exact Nat.le_succ_of_le (readNumbered?_length_le read)
  · exact Nat.le_succ_of_le (readNumbered?_length_le read)
  · exact Nat.le_succ_of_le (readNumbered?_length_le read)
  · obtain ⟨_, _, same⟩ := Option.map_eq_some_iff.mp read
    cases same
    exact Nat.le_succ _

end Sign

end Pattern

end Log

end SchemaScript
