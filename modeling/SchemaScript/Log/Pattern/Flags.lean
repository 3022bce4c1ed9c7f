import SchemaScript.Text.Blank

/-!
# Flags of search patterns

Letters in a pattern set or clear flags for what comes after them.  Three of the
flags decide which patterns can be used.  A pattern is matched without tables of
Unicode and only against whole characters: so nothing of Unicode can be matched
regardless of case or by a class of its own, and nothing of ASCII by a class
that holds more than ASCII.
-/

namespace SchemaScript

namespace Log

namespace Pattern

/-- The flags in force at some place of a pattern. -/
structure Flags where
  ignoreCase : Bool := false
  /-- Whether characters are those of Unicode, and not only those of ASCII. -/
  unicode : Bool := true
  /-- Whether blanks and comments are skipped. -/
  spaced : Bool := false
deriving Repr, DecidableEq

namespace Flags

def letters : List Char :=
  ['i', 'm', 's', 'U', 'u', 'x', 'R']

/--
Whether a row sets and clears flags: it names each of them once at most, and
those behind a dash are cleared.
-/
def isRow (row : List Char) : Bool :=
  row.all (fun char => char = '-' || char ∈ letters) && decide row.Nodup
    && row.getLast? ≠ some '-'

def update (flags : Flags) (row : List Char) : Flags :=
  let after (letter : Char) (before : Bool) : Bool :=
    if letter ∈ row then letter ∈ row.takeWhile (· ≠ '-') else before
  { ignoreCase := after 'i' flags.ignoreCase
    unicode := after 'u' flags.unicode
    spaced := after 'x' flags.spaced }

/-- A text after the blanks and comments at its start, perhaps from inside a comment on. -/
def afterBlanks (inComment : Bool) : List Char → List Char
  | [] => []
  | char :: rest =>
    if inComment then
      afterBlanks (char ≠ '\n') rest
    else if Text.isWhiteSpace char then
      afterBlanks false rest
    else if char = '#' then
      afterBlanks true rest
    else
      char :: rest

def skip (flags : Flags) (text : List Char) : List Char :=
  if flags.spaced then afterBlanks false text else text

/--
The character that a look ahead finds, for which a comment has no end: only its
mark and the blanks around it are passed over.
-/
def ahead? (flags : Flags) (text : List Char) : Option Char :=
  if flags.spaced then
    match text.dropWhile Text.isWhiteSpace with
    | '#' :: comment => (comment.dropWhile Text.isWhiteSpace).head?
    | visible => visible.head?
  else
    text.head?

theorem afterBlanks_length_le (inComment : Bool) (text : List Char) :
    (afterBlanks inComment text).length ≤ text.length := by
  induction text generalizing inComment with
  | nil => exact Nat.le_refl _
  | cons char rest ih =>
    unfold afterBlanks
    split
    · exact Nat.le_succ_of_le (ih _)
    · split
      · exact Nat.le_succ_of_le (ih _)
      · split
        · exact Nat.le_succ_of_le (ih _)
        · exact Nat.le_refl _

theorem skip_length_le (flags : Flags) (text : List Char) :
    (flags.skip text).length ≤ text.length := by
  unfold skip
  split
  · exact afterBlanks_length_le false text
  · exact Nat.le_refl _

end Flags

end Pattern

end Log

end SchemaScript
