import SchemaScript.Json.Value

/-!
# Options of a conversion

A conversion writes a script or a listing.  Its tables are prefixed with a
given name, or else with the name of the schema's file.  Options are changed
one at a time, and the last change of each counts.
-/

namespace SchemaScript

inductive Format where
  | sql
  | json
deriving Repr, DecidableEq

def Format.word : Format → String
  | sql => "sql"
  | json => "json"

def Format.ofWord? (word : String) : Option Format :=
  if word = "sql" then some .sql else if word = "json" then some .json else none

/-- The choices that a conversion leaves open. -/
structure Options where
  /-- The name before the table names, unless it is taken from the input file. -/
  tablePrefix : Option String := none
  /-- Whether the last column of a table in a script ends in a comma. -/
  trailingComma : Bool := true
  format : Format := .sql
deriving Repr, DecidableEq

namespace Options

inductive Change where
  | tablePrefix (value : String)
  | trailingComma (value : Bool)
  | format (value : Format)
deriving Repr, DecidableEq

def apply (options : Options) : Change → Options
  | .tablePrefix value => { options with tablePrefix := some value }
  | .trailingComma value => { options with trailingComma := value }
  | .format value => { options with format := value }

/-- The options after some changes to those that hold by default. -/
def ofChanges (changes : List Change) : Options :=
  changes.foldl apply {}

end Options

open Json

/--
The format that a value writes: its word, or an object with the word as its
only key and nothing behind it.
-/
def Format.ofJson? : Value → Option Format
  | .string word => Format.ofWord? word
  | .object [(word, .null)] => Format.ofWord? word
  | _ => none

namespace Options

def prefixOfJson? : Value → Option (Option String)
  | .null => some none
  | .string value => some (some value)
  | _ => none

/-- Options from the values of their members; that of the prefix may be absent. -/
def ofMembers? (tablePrefix : Option Value) (trailingComma format : Value) : Option Options := do
  let tablePrefix ← prefixOfJson? (tablePrefix.getD .null)
  let trailingComma ← trailingComma.bool?
  let format ← Format.ofJson? format
  return { tablePrefix, trailingComma, format }

def ofJson? : Value → Option Options
  | .object members => do
    let trailingComma ← members.lookup "trailingComma"
    let format ← members.lookup "format"
    ofMembers? (members.lookup "tablePrefix") trailingComma format
  | .array [tablePrefix, trailingComma, format] =>
    ofMembers? (some tablePrefix) trailingComma format
  | _ => none

end Options

end SchemaScript
