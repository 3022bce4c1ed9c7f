import SchemaScript.Json.Token

/-!
# Reading JSON

The tokens of a text are put together from left to right.  Values that are
complete wait in the array or object around them, and these wait on a stack of
their own until they are closed.
-/

namespace SchemaScript

namespace Json

/-- An array or object that is still to be closed; what it holds is listed newest first. -/
inductive Frame where
  | array (earlier : List Value)
  | object (earlier : List (String × Value))
  /-- An object with the key of the member that comes next. -/
  | member (earlier : List (String × Value)) (key : String)
deriving Repr

/-- What may come next. -/
inductive Expectation where
  /-- A value; or, right after an opening bracket, the closing one. -/
  | value (mayClose : Bool)
  /-- A key; or, right after an opening brace, the closing one. -/
  | key (mayClose : Bool)
  | colon
  /-- A comma, or the end of the innermost frame. -/
  | separator
deriving Repr, DecidableEq

inductive Reading where
  | inside (expectation : Expectation) (frame : Frame) (outer : List Frame)
  | start
  | complete (value : Value)
deriving Repr

namespace Reading

/-- Takes in a complete value inside the given frames. -/
def supply (value : Value) : List Frame → Option Reading
  | [] => some (complete value)
  | .array earlier :: outer => some (inside .separator (.array (value :: earlier)) outer)
  | .member earlier key :: outer =>
    some (inside .separator (.object ((key, value) :: earlier)) outer)
  | .object _ :: _ => none

def begin (frames : List Frame) : Token → Option Reading
  | .openArray => some (inside (.value true) (.array []) frames)
  | .openObject => some (inside (.key true) (.object []) frames)
  | .scalar value => supply value frames
  | _ => none

def step : Reading → Token → Option Reading
  | start, token => begin [] token
  | inside (.value true) (.array []) outer, .closeArray => supply (.array []) outer
  | inside (.value _) frame outer, token => begin (frame :: outer) token
  | inside (.key true) (.object []) outer, .closeObject => supply (.object []) outer
  | inside (.key _) (.object earlier) outer, .scalar (.string key) =>
    some (inside .colon (.member earlier key) outer)
  | inside .colon frame outer, .colon => some (inside (.value false) frame outer)
  | inside .separator (.array earlier) outer, .comma =>
    some (inside (.value false) (.array earlier) outer)
  | inside .separator (.object earlier) outer, .comma =>
    some (inside (.key false) (.object earlier) outer)
  | inside .separator (.array earlier) outer, .closeArray =>
    supply (.array earlier.reverse) outer
  | inside .separator (.object earlier) outer, .closeObject =>
    supply (.object earlier.reverse) outer
  | _, _ => none

end Reading

def ofTokens? (tokens : List Token) : Option Value :=
  match tokens.foldlM Reading.step Reading.start with
  | some (.complete value) => some value
  | _ => none

def parse? (text : String) : Option Value :=
  (Token.scan text.toList).bind ofTokens?

end Json

end SchemaScript
