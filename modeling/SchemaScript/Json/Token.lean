import SchemaScript.Json.Value
import SchemaScript.Text.Hexadecimal

/-!
# Tokens of JSON

A JSON text is cut into marks of punctuation and scalar values, with blanks
between them.  A character in a string may be written by its code, and one
beyond the first 65536 by a pair of codes.
-/

namespace SchemaScript

namespace Json

inductive Token where
  | openArray
  | closeArray
  | openObject
  | closeObject
  | comma
  | colon
  | scalar (value : Value)
deriving Repr

namespace Token

/-- The characters that may stand between tokens. -/
def isBlank (char : Char) : Bool :=
  char = ' ' || char = '\t' || char = '\n' || char = '\r'

def code? (first second third fourth : Char) : Option Nat := do
  let first ← Text.hexValue? first
  let second ← Text.hexValue? second
  let third ← Text.hexValue? third
  let fourth ← Text.hexValue? fourth
  return ((first * 16 + second) * 16 + third) * 16 + fourth

def escaped? (char : Char) : Option Char :=
  [('\x22', '\x22'), ('\\', '\\'), ('/', '/'), ('b', '\x08'), ('f', '\x0C'), ('n', '\n'),
    ('r', '\r'), ('t', '\t')].lookup char

/-- The character with a code, for which another code may have to follow. -/
def completeCode? (code : Nat) (text : List Char) : Option (Char × List Char) :=
  if code < 0xD800 ∨ 0xE000 ≤ code then
    some (Char.ofNat code, text)
  else
    match text with
    | '\\' :: 'u' :: first :: second :: third :: fourth :: rest =>
      (code? first second third fourth).bind fun low =>
        if code < 0xDC00 ∧ 0xDC00 ≤ low ∧ low < 0xE000 then
          some (Char.ofNat (0x10000 + (code - 0xD800) * 0x400 + (low - 0xDC00)), rest)
        else
          none
    | _ => none

/-- Reads the next character of a string, which may be written with a backslash. -/
def nextChar? : List Char → Option (Char × List Char)
  | [] => none
  | '\\' :: 'u' :: first :: second :: third :: fourth :: rest =>
    (code? first second third fourth).bind fun code => completeCode? code rest
  | '\\' :: char :: rest => (escaped? char).map fun char => (char, rest)
  | char :: rest => if char.toNat < 0x20 then none else some (char, rest)

private theorem completeCode?_length_le {code : Nat} {char : Char} {text rest : List Char}
    (read : completeCode? code text = some (char, rest)) : rest.length ≤ text.length := by
  unfold completeCode? at read
  split at read
  · cases read
    exact Nat.le_refl _
  · split at read
    · obtain ⟨low, -, complete⟩ := Option.bind_eq_some_iff.mp read
      split at complete
      · simp only [Option.some.injEq, Prod.mk.injEq] at complete
        obtain ⟨-, rfl⟩ := complete
        simp only [List.length_cons]
        omega
      · cases complete
    · cases read

private theorem nextChar?_length_lt {char : Char} {text rest : List Char}
    (read : nextChar? text = some (char, rest)) : rest.length < text.length := by
  unfold nextChar? at read
  split at read
  · cases read
  · obtain ⟨code, -, complete⟩ := Option.bind_eq_some_iff.mp read
    have := completeCode?_length_le complete
    simp only [List.length_cons]
    omega
  · obtain ⟨escaped, -, same⟩ := Option.map_eq_some_iff.mp read
    cases same
    simp only [List.length_cons]
    omega
  · split at read
    · cases read
    · cases read
      simp

def readString (text : List Char) : Option (List Char × List Char) :=
  if text.head? = some '\x22' then
    some ([], text.tail)
  else
    match _ : nextChar? text with
    | none => none
    | some (char, rest) => (readString rest).map fun parts => (char :: parts.1, parts.2)
termination_by text.length
decreasing_by exact nextChar?_length_lt (by assumption)

/-- Whether a character goes on with a word or a number. -/
def isWordChar (char : Char) : Bool :=
  char.isAlphanum || char = '-' || char = '+' || char = '.'

/-- Drops a row of digits, which must not be blank. -/
def dropDigits? (text : List Char) : Option (List Char) :=
  if (text.head?.any Char.isDigit) then some (text.dropWhile Char.isDigit) else none

/-- Drops the digits before the point; a number other than zero does not start with one. -/
def dropWhole? : List Char → Option (List Char)
  | '0' :: rest => some rest
  | text => dropDigits? text

def dropFraction? : List Char → Option (List Char)
  | '.' :: rest => dropDigits? rest
  | text => some text

def dropExponent? : List Char → Option (List Char)
  | mark :: rest =>
    if mark = 'e' ∨ mark = 'E' then
      match rest with
      | '+' :: rest => dropDigits? rest
      | '-' :: rest => dropDigits? rest
      | rest => dropDigits? rest
    else
      some (mark :: rest)
  | [] => some []

def isNumber (word : List Char) : Bool :=
  let unsigned := if word.head? = some '-' then word.tail else word
  ((dropWhole? unsigned).bind dropFraction?).bind dropExponent? = some []

def ofWord? (word : List Char) : Option Value :=
  if word = ['n', 'u', 'l', 'l'] then some .null
  else if word = ['t', 'r', 'u', 'e'] then some (.bool true)
  else if word = ['f', 'a', 'l', 's', 'e'] then some (.bool false)
  else if isNumber word then some (.number (String.ofList word))
  else none

def mark? (char : Char) : Option Token :=
  if char = '[' then some openArray
  else if char = ']' then some closeArray
  else if char = '\x7b' then some openObject
  else if char = '\x7d' then some closeObject
  else if char = ',' then some comma
  else if char = ':' then some colon
  else none

/-- Reads the token that starts with the given character. -/
def next (first : Char) (rest : List Char) : Option (Token × List Char) :=
  if first = '\x22' then
    (readString rest).map fun (chars, rest) => (scalar (.string (String.ofList chars)), rest)
  else
    match mark? first with
    | some mark => some (mark, rest)
    | none =>
      (ofWord? (first :: rest.takeWhile isWordChar)).map fun value =>
        (scalar value, rest.dropWhile isWordChar)

private theorem readString_length_le {text chars rest : List Char}
    (read : readString text = some (chars, rest)) : rest.length ≤ text.length := by
  fun_induction readString text generalizing chars with
  | case1 => cases read; simp
  | case2 => cases read
  | case3 text _ char remaining next ih =>
      obtain ⟨⟨later, tail⟩, readLater, same⟩ := Option.map_eq_some_iff.mp read
      cases same
      exact Nat.le_trans (ih readLater) (Nat.le_of_lt (nextChar?_length_lt next))

private theorem next_rest_length_le {first : Char} {text rest : List Char} {token : Token}
    (read : next first text = some (token, rest)) : rest.length ≤ text.length := by
  unfold next at read
  split at read
  · obtain ⟨⟨chars, tail⟩, readChars, same⟩ := Option.map_eq_some_iff.mp read
    cases same
    exact readString_length_le readChars
  · split at read
    · cases read
      exact Nat.le_refl _
    · obtain ⟨value, word, same⟩ := Option.map_eq_some_iff.mp read
      cases same
      exact (List.dropWhile_suffix _).length_le

def scan (text : List Char) : Option (List Token) :=
  match text with
  | [] => some []
  | first :: rest =>
    if isBlank first then
      scan rest
    else
      match _ : next first rest with
      | none => none
      | some (token, remaining) => (scan remaining).map (token :: ·)
termination_by text.length
decreasing_by
  · simp
  · exact Nat.lt_succ_of_le (next_rest_length_le (by assumption))

end Token

end Json

end SchemaScript
