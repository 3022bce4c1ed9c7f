import SchemaScript.Conversion.File
import SchemaScript.Text.Quoted

/-!
# Logged events

A run of the program can be followed by the events that it logs.  What a survey
passes over in silence leaves an event, so every element that could describe a
table or a column is accounted for.
-/

namespace SchemaScript

namespace Log

open Schema

/-- How much an event matters. -/
inductive Level where
  | error
  | warn
  | info
  | debug
  | trace
deriving Repr, DecidableEq

def Level.name : Level → String
  | error => "ERROR"
  | warn => "WARN"
  | info => "INFO"
  | debug => "DEBUG"
  | trace => "TRACE"

/-- The number of a level: the more detailed, the higher. -/
def Level.detail : Level → Nat
  | error => 1
  | warn => 2
  | info => 3
  | debug => 4
  | trace => 5

/-- Something that is worth noting. -/
inductive Event where
  | ignoredArguments (count : Nat)
  | incompleteColumn (column : String)
  | unmappedColumn (column typeName : String)
  | unnamedTable
  | discoveredTable (table : String) (columns : Nat)
  | converted (input output : String) (tables columns : Nat)
deriving Repr, DecidableEq

namespace Event

def level : Event → Level
  | incompleteColumn _ => .trace
  | converted _ _ _ _ => .info
  | _ => .debug

/-- The part of the program that an event comes from, by which it can be filtered. -/
def target : Event → String
  | ignoredArguments _ => "xsd_to_sql::cli"
  | converted _ _ _ _ => "xsd_to_sql::convert"
  | _ => "xsd_to_sql::import::xsd"

def words : Event → String
  | ignoredArguments _ => "Ignoring extra arguments"
  | incompleteColumn _ => "Dropping column without name or type"
  | unmappedColumn _ _ => "Dropping column with unmapped type"
  | unnamedTable => "Skipping table element without a name"
  | discoveredTable _ _ => "Discovered table"
  | converted _ _ _ _ => "Converted schema"

/-- The fields of an event after its words, each with the text that is shown. -/
def fields : Event → List (String × String)
  | ignoredArguments count => [("count", toString count)]
  | incompleteColumn column => [("column", Text.quoted column)]
  | unmappedColumn column typeName =>
    [("column", Text.quoted column), ("type_name", Text.quoted typeName)]
  | unnamedTable => []
  | discoveredTable table columns =>
    [("table", Text.quoted table), ("columns", toString columns)]
  | converted input output tables columns =>
    [("input", input), ("output", output), ("tables", toString tables),
      ("columns", toString columns)]

def wordsField : String :=
  "message"

def hasField (event : Event) (name : String) : Bool :=
  name = wordsField || (event.fields.lookup name).isSome

def message (event : Event) : String :=
  event.words ++ String.join (event.fields.map fun field => " " ++ field.1 ++ "=" ++ field.2)

/-- An event as it is written, after its level. -/
def line (event : Event) : String :=
  event.level.name ++ " " ++ event.message

/-- The lines that an event takes; a path in it can hold line ends. -/
def lines (event : Event) : List String :=
  (event.line.toList.splitOn '\n').map String.ofList

/-- The event of an element that could describe a column, if it is passed over. -/
def ofColumn? : ColumnFinding → Option Event
  | .incomplete name => some (incompleteColumn name)
  | .unmapped name typeName => some (unmappedColumn name typeName)
  | .kept _ => none

/-- The events of an element that could describe a table; those of its columns come first. -/
def ofTable : TableFinding → List Event
  | .unnamed => [unnamedTable]
  | .kept name columns =>
    columns.filterMap ofColumn?
      ++ [discoveredTable name (columns.filterMap ColumnFinding.column?).length]

def ofAttempt (input : String) (attempt : Attempt) : List Event :=
  attempt.findings.flatMap ofTable ++
    match attempt.result with
    | .ok summary => [converted input summary.output summary.tables summary.columns]
    | .error _ => []

end Event

end Log

end SchemaScript
