import SchemaScript.Json.Value
import SchemaScript.Text.Hexadecimal

/-!
# Printing JSON

Values are printed over several lines, with every nested line two blanks
further in.  An array or object without content stays on one line.  In a
string only quotes, backslashes and control characters are escaped.
-/

namespace SchemaScript

namespace Json

def escapeChar (char : Char) : List Char :=
  if char = '\x22' then ['\\', '\x22']
  else if char = '\\' then ['\\', '\\']
  else if char = '\x08' then ['\\', 'b']
  else if char = '\x0C' then ['\\', 'f']
  else if char = '\n' then ['\\', 'n']
  else if char = '\r' then ['\\', 'r']
  else if char = '\t' then ['\\', 't']
  else if char.toNat < 0x20 then
    ['\\', 'u', '0', '0', Text.hexDigit (char.toNat / 16), Text.hexDigit (char.toNat % 16)]
  else [char]

def renderString (value : String) : List Char :=
  '\x22' :: (value.toList.flatMap escapeChar ++ ['\x22'])

/-- A line end with the blanks that open the next line. -/
def lineBreak (depth : Nat) : List Char :=
  '\n' :: List.replicate (2 * depth) ' '

mutual

/-- A value that stands on a line of the given depth. -/
def render (depth : Nat) : Value → List Char
  | .null => ['n', 'u', 'l', 'l']
  | .bool true => ['t', 'r', 'u', 'e']
  | .bool false => ['f', 'a', 'l', 's', 'e']
  | .number literal => literal.toList
  | .string value => renderString value
  | .array [] => ['[', ']']
  | .array (first :: rest) =>
    '[' :: (lineBreak (depth + 1) ++ (render (depth + 1) first ++
      (renderItems (depth + 1) rest ++ (lineBreak depth ++ [']']))))
  | .object [] => ['\x7b', '\x7d']
  | .object ((key, value) :: rest) =>
    '\x7b' :: (lineBreak (depth + 1) ++ (renderString key ++ (':' :: ' ' ::
      (render (depth + 1) value ++ (renderMembers (depth + 1) rest ++
        (lineBreak depth ++ ['\x7d']))))))

def renderItems (depth : Nat) : List Value → List Char
  | [] => []
  | first :: rest => ',' :: (lineBreak depth ++ (render depth first ++ renderItems depth rest))

def renderMembers (depth : Nat) : List (String × Value) → List Char
  | [] => []
  | (key, value) :: rest =>
    ',' :: (lineBreak depth ++ (renderString key ++ (':' :: ' ' ::
      (render depth value ++ renderMembers depth rest))))

end

/-- A value as a text of its own. -/
def print (value : Value) : String :=
  String.ofList (render 0 value)

end Json

end SchemaScript
