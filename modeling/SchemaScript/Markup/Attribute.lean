import SchemaScript.Markup.Blank
import SchemaScript.Markup.Name
import SchemaScript.Markup.Reference
import SchemaScript.Markup.Token

/-!
# Attributes

The part of a tag after its name is a row of assignments `key="value"`.  They
are read one by one, so the first fault of any kind decides.  Offsets count
the bytes of the tag's content.  An assignment keeps its value as written; an
attribute carries the expanded value.
-/

namespace SchemaScript

namespace Markup

structure Attribute where
  name : String
  localName : String
  /-- The value with its references expanded. -/
  value : String
deriving Repr, DecidableEq

structure Key where
  offset : Nat
  name : List Char
deriving Repr, DecidableEq

/-- A key with its value as written between the quotes. -/
structure Assignment where
  key : Key
  value : List Char
deriving Repr, DecidableEq

namespace Attribute

/-- Why the assignments of a tag cannot be read. -/
inductive Fault where
  | missingEquals (offset : Nat)
  | missingValue (offset : Nat)
  | unquotedValue (offset : Nat)
  | unclosedValue (offset : Nat) (quote : Char)
  | repeatedKey (offset earlier : Nat)
deriving Repr, DecidableEq

def Fault.message : Fault → String
  | missingEquals offset =>
    s!"position {offset}: attribute key must be directly followed by `=` or space"
  | missingValue offset =>
    s!"position {offset}: `=` must be followed by an attribute value"
  | unquotedValue offset =>
    s!"position {offset}: attribute value must be enclosed in `\"` or `\x27`"
  | unclosedValue offset quote =>
    s!"position {offset}: missing closing quote `{quote}` in attribute value"
  | repeatedKey offset earlier =>
    s!"position {offset}: duplicated attribute, previous declaration at position {earlier}"

end Attribute

namespace Assignment

/-- Whether a character goes on with a key; the first one always does. -/
def continuesKey (char : Char) : Bool :=
  !(char = '=' || isBlank char)

inductive KeySearch where
  | finished
  | faulty (fault : Attribute.Fault)
  /-- A key, and the text after its `=` with the offset of that text. -/
  | found (key : Key) (offset : Nat) (rest : List Char)

def nextKey (offset : Nat) (text : List Char) : KeySearch :=
  let start := offset + Text.byteLength (text.takeWhile isBlank)
  match text.dropWhile isBlank with
  | [] => .finished
  | first :: more =>
    let name := first :: more.takeWhile continuesKey
    let tail := more.dropWhile continuesKey
    let finish := start + Text.byteLength name + Text.byteLength (tail.takeWhile isBlank)
    match tail.dropWhile isBlank with
    | '=' :: rest => .found ⟨start, name⟩ (finish + 1) rest
    | _ => .faulty (.missingEquals finish)

/-- Reads a quoted value; the result has the text after it with its offset. -/
def nextValue (offset : Nat) (text : List Char) :
    Except Attribute.Fault (List Char × Nat × List Char) :=
  let start := offset + Text.byteLength (text.takeWhile isBlank)
  match text.dropWhile isBlank with
  | [] => .error (.missingValue start)
  | quote :: body =>
    if Token.isQuote quote then
      match Text.cut? [quote] body with
      | some (value, rest) => .ok (value, start + Text.byteLength value + 2, rest)
      | none => .error (.unclosedValue (start + 1 + Text.byteLength body) quote)
    else
      .error (.unquotedValue start)

/-- Assignments in their order, up to the end of the tag or the first fault. -/
structure Sequence where
  assignments : List Assignment
  fault : Option Attribute.Fault
deriving Repr, DecidableEq

private theorem nextKey_length_lt {offset next : Nat} {text rest : List Char} {key : Key}
    (found : nextKey offset text = .found key next rest) : rest.length < text.length := by
  unfold nextKey at found
  split at found
  · cases found
  · rename_i first more trimmed
    dsimp only at found
    split at found
    · rename_i tail same
      cases found
      have outer := (List.dropWhile_suffix isBlank (l := text)).length_le
      have inner := (List.dropWhile_suffix isBlank (l := more.dropWhile continuesKey)).length_le
      have middle := (List.dropWhile_suffix continuesKey (l := more)).length_le
      rw [trimmed] at outer
      rw [same] at inner
      simp only [List.length_cons] at outer inner
      omega
    · cases found

private theorem nextValue_length_le {offset next : Nat} {text value rest : List Char}
    (read : nextValue offset text = .ok (value, next, rest)) : rest.length ≤ text.length := by
  unfold nextValue at read
  split at read
  · cases read
  · rename_i quote body trimmed
    split at read
    · split at read
      · rename_i cut
        cases read
        have outer := (List.dropWhile_suffix isBlank (l := text)).length_le
        rw [trimmed, Text.append_of_cut? cut] at outer
        simp at outer
        omega
      · cases read
    · cases read

/--
Reads assignments from a text that starts at the given offset.  If keys are to
be distinct, one that occurs among the keys seen before is refused as soon as
its `=` is read.
-/
def readAll (distinct : Bool) (seen : List Key) (offset : Nat) (text : List Char) : Sequence :=
  match _ : nextKey offset text with
  | .finished => ⟨[], none⟩
  | .faulty fault => ⟨[], some fault⟩
  | .found key next rest =>
    match seen.find? fun earlier => distinct && earlier.name = key.name with
    | some earlier => ⟨[], some (.repeatedKey key.offset earlier.offset)⟩
    | none =>
      match _ : nextValue next rest with
      | .error fault => ⟨[], some fault⟩
      | .ok (value, next, rest) =>
        let later := readAll distinct (key :: seen) next rest
        ⟨⟨key, value⟩ :: later.assignments, later.fault⟩
termination_by text.length
decreasing_by
  exact Nat.lt_of_le_of_lt (nextValue_length_le (by assumption))
    (nextKey_length_lt (by assumption))

def toAttribute (assignment : Assignment) : Except Reference.Fault Attribute := do
  let value ← Reference.expand 0 assignment.value
  return {
    name := String.ofList assignment.key.name
    localName := String.ofList (Name.localPart assignment.key.name)
    value := String.ofList value }

end Assignment

end Markup

end SchemaScript
