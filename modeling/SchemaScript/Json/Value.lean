/-!
# JSON values

The values that JSON texts stand for.  An object keeps its members in the
order in which they are written, and a number keeps its spelling.
-/

namespace SchemaScript

namespace Json

inductive Value where
  | null
  | bool (value : Bool)
  | number (literal : String)
  | string (value : String)
  | array (items : List Value)
  | object (members : List (String × Value))
deriving Repr

namespace Value

def string? : Value → Option String
  | string value => some value
  | _ => none

def bool? : Value → Option Bool
  | bool value => some value
  | _ => none

def items? : Value → Option (List Value)
  | array items => some items
  | _ => none

/-- The value of a number that is written as a plain row of digits. -/
def nat? : Value → Option Nat
  | number literal => literal.toNat?
  | _ => none

def member? (key : String) : Value → Option Value
  | object members => members.lookup key
  | _ => none

end Value

end Json

end SchemaScript
