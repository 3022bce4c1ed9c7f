import SchemaScript.Schema.Table

/-!
# Scripts

A script creates tables, one statement for each, in their order.  Every column
has a line of its own; all lines but the last end in a comma, and the last one
does so if trailing commas are wanted.  Names are written as they are.
-/

namespace SchemaScript

namespace Script

open Schema

/-- The line of a column, with what separates it from the next. -/
def columnLine (separator : String) (column : Column) : String :=
  "    " ++ column.name ++ " " ++ column.sqlType ++ " " ++ column.nullClause ++ separator ++ "\n"

/-- What ends the line of the last column. -/
def lastSeparator (trailingComma : Bool) : String :=
  if trailingComma then "," else ""

def columnLines (trailingComma : Bool) : List Column → String
  | [] => ""
  | [last] => columnLine (lastSeparator trailingComma) last
  | first :: next :: rest => columnLine "," first ++ columnLines trailingComma (next :: rest)

def statement (trailingComma : Bool) (tablePrefix : String) (table : Table) : String :=
  "CREATE TABLE " ++ table.qualifiedName tablePrefix ++ " (\n"
    ++ columnLines trailingComma table.columns ++ ");\n\n"

def statements (trailingComma : Bool) (tablePrefix : String) (tables : List Table) :
    List String :=
  tables.map (statement trailingComma tablePrefix)

def script (trailingComma : Bool) (tablePrefix : String) (tables : List Table) : String :=
  String.join (statements trailingComma tablePrefix tables)

end Script

end SchemaScript
