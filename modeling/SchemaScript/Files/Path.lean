import SchemaScript.Files.SystemError
import SchemaScript.Text.Cut

/-!
# Paths

A path is a row of segments with slashes between them.  A blank segment, and
one that is a single dot, leads nowhere; two dots lead back.  The system takes
only paths and names of limited length.
-/

namespace SchemaScript

namespace Path

/-- The segments between the slashes of a path. -/
def segments (path : List Char) : List (List Char) :=
  path.splitOn '/'

/-- The segment that stays where it is. -/
def here : List Char :=
  ['.']

/-- The segment that leads back. -/
def back : List Char :=
  ['.', '.']

/-- The segments that lead somewhere. -/
def names (path : List Char) : List (List Char) :=
  (segments path).filter fun segment => segment ≠ [] && segment ≠ here

/-- The name of the file that a path leads to; a path that ends by leading back has none. -/
def fileName? (path : List Char) : Option (List Char) :=
  (names path).getLast?.filter (· ≠ back)

/-- A file name without its last dot and what follows it. -/
def stem (name : List Char) : List Char :=
  if '.' ∈ name then ((name.reverse.dropWhile (· ≠ '.')).drop 1).reverse else name

def lengthLimit : Nat :=
  4096

def nameLimit : Nat :=
  255

def isTooLong (name : List Char) : Bool :=
  nameLimit < Text.byteLength name

/-- Why a path is refused before any of its segments is followed. -/
def refusal? (path : List Char) : Option SystemError :=
  if '\x00' ∈ path then some .endedName
  else if path = [] then some .notFound
  else if lengthLimit ≤ Text.byteLength path then some .nameTooLong
  else none

def isAbsolute (path : List Char) : Bool :=
  path.head? = some '/'

end Path

end SchemaScript
