import SchemaScript.Log.Event
import SchemaScript.Log.Value
import SchemaScript.Text.Blank
import SchemaScript.Text.Cut

/-!
# Rules for events

A rule lets events up to some level through.  It is written as a level, as the
start of a target, or as both with an equals sign between them.  Brackets
after the target narrow a rule down to events with some field, or to what
happens inside a span.  All events here happen outside spans, so a rule that
names a span, or asks a field of a span for a value, concerns none of them.
-/

namespace SchemaScript

namespace Log

/-- Which of the events with its target a rule concerns. -/
inductive Condition where
  | always
  | withField (name : String)
  /-- None of those outside spans. -/
  | insideSpan
deriving Repr, DecidableEq

structure Rule where
  /-- How the target of an event has to start. -/
  target : List Char
  condition : Condition
  /-- The most detailed level that is let through, if any is. -/
  limit : Option Level
deriving Repr, DecidableEq

def limits : List (String × Option Level) :=
  [("off", none), ("error", some .error), ("warn", some .warn), ("info", some .info),
    ("debug", some .debug), ("trace", some .trace)]

/-- The number that a row of digits writes, perhaps after a plus. -/
def number? (text : List Char) : Option Nat :=
  let digits := if text.head? = some '+' then text.tail else text
  if digits ≠ [] ∧ digits.all Char.isDigit then
    some (digits.foldl (fun number digit => number * 10 + (digit.toNat - '0'.toNat)) 0)
  else
    none

/-- The limit that a word or a number stands for; case does not matter. -/
def limit? (text : List Char) : Option (Option Level) :=
  match number? text with
  | some number => limits[number]?.map Prod.snd
  | none => limits.lookup (String.ofList (text.map Char.toLower))

/-- Whether a condition is at least as narrow as another; of two names the later one is. -/
def Condition.atLeast : Condition → Condition → Bool
  | .withField name, .withField other => other ≤ name
  | .withField _, _ => true
  | _, .withField _ => false
  | _, _ => true

namespace Rule

def concerns (rule : Rule) (event : Event) : Bool :=
  rule.target.isPrefixOf event.target.toList &&
    match rule.condition with
    | .always => true
    | .withField name => event.hasField name
    | .insideSpan => false

/--
Whether a rule is at least as narrow as another one: it has a longer target,
or an equally long one and a condition that is at least as narrow.
-/
def atLeast (rule other : Rule) : Bool :=
  if rule.target.length = other.target.length then
    rule.condition.atLeast other.condition
  else
    other.target.length < rule.target.length

def opensTarget (char : Char) : Bool :=
  char = '-' || char = ':' || char = '_' || Text.isAlphanumeric char

/-- The limit that is written from an offset on; all levels, if nothing is. -/
def limitFrom? (text : List Char) (offset : Nat) : Option (Option Level) := do
  let word ← Text.dropBytes? offset text
  if word = [] then some (some .trace) else limit? word

/-- The end of a rule after its brackets, which stands at the given offset. -/
def finish? (text target : List Char) (condition : Condition) (offset : Nat) :
    List Char → Option Rule
  | [] => some ⟨target, condition, some .trace⟩
  | '=' :: _ => (limitFrom? text (offset + 1)).map fun limit => ⟨target, condition, limit⟩
  | _ => none

def ofField? (field : List Char) : Option Condition :=
  match field.splitOn '=' with
  | [name] => if name = [] then none else some (.withField (String.ofList name))
  | _ :: value :: _ => if isValue value then some .insideSpan else none
  | [] => none

/-- A rule from its opening bracket on; the offset is that of what stands in it. -/
def readBrackets? (text target : List Char) (offset : Nat) (inner : List Char) : Option Rule :=
  let span := inner.takeWhile fun char => char ≠ ']' && char ≠ '\x7b'
  let spanEnd := offset + Text.byteLength span
  match inner.drop span.length with
  | ']' :: rest => finish? text target .insideSpan (spanEnd + 1) rest
  | '\x7b' :: fields =>
    let field := fields.takeWhile (· ≠ '\x7d')
    let fieldEnd := spanEnd + 1 + Text.byteLength field
    match fields.drop field.length with
    | '\x7d' :: ']' :: rest => do
      let condition ← (Text.slice? (spanEnd + 1) fieldEnd text).bind ofField?
      finish? text target (if span = [] then condition else .insideSpan) (fieldEnd + 2) rest
    | _ => none
  | _ => none

/--
The rule that a text writes.  The offsets of its parts are counted without the
white space around the text, but the parts are taken from the text with it; so
white space belongs to the part that is open at the end, and such a part is no
level.
-/
def ofText? (text : List Char) : Option Rule :=
  match Text.trim text with
  | [] => none
  | '[' :: inner => readBrackets? text [] 1 inner
  | first :: rest =>
    if opensTarget first then
      let more := rest.takeWhile fun char => char ≠ '=' && char ≠ '['
      let targetEnd := Text.byteLength (first :: more)
      match rest.drop more.length with
      | '=' :: _ => do
        let target ← Text.takeBytes? targetEnd text
        let limit ← limitFrom? text (targetEnd + 1)
        return ⟨target, .always, limit⟩
      | '[' :: inner => do
        let target ← Text.takeBytes? targetEnd text
        readBrackets? text target (targetEnd + 1) inner
      | _ =>
        match limit? text with
        | some limit => some ⟨[], .always, limit⟩
        | none => some ⟨text, .always, some .trace⟩
    else
      none

end Rule

end Log

end SchemaScript
