import SchemaScript.Json.Value
import SchemaScript.Schema.Table

/-!
# Tables as JSON

Tables and columns are written as objects.  They are read from objects, whose
other members do not matter, and from arrays that list the members in their
order.  A table without a list of columns has none.
-/

namespace SchemaScript

namespace Schema

open Json

def Column.toJson (column : Column) : Value :=
  .object
    [("name", .string column.name), ("typeName", .string column.typeName),
      ("sqlType", .string column.sqlType), ("nullable", .bool column.nullable)]

def Column.ofMembers? (name typeName sqlType nullable : Value) : Option Column := do
  let name ← name.string?
  let typeName ← typeName.string?
  let sqlType ← sqlType.string?
  let nullable ← nullable.bool?
  return { name, typeName, sqlType, nullable }

def Column.ofJson? : Value → Option Column
  | .object members => do
    let name ← members.lookup "name"
    let typeName ← members.lookup "typeName"
    let sqlType ← members.lookup "sqlType"
    let nullable ← members.lookup "nullable"
    Column.ofMembers? name typeName sqlType nullable
  | .array [name, typeName, sqlType, nullable] =>
    Column.ofMembers? name typeName sqlType nullable
  | _ => none

def columnsOfJson? (value : Value) : Option (List Column) :=
  value.items?.bind fun items => items.mapM Column.ofJson?

def Table.toJson (table : Table) : Value :=
  .object
    [("name", .string table.name), ("columns", .array (table.columns.map Column.toJson))]

/-- A table from the values of its members; the list of columns may be absent. -/
def Table.ofMembers? (name : Value) (columns : Option Value) : Option Table := do
  let name ← name.string?
  let columns ← match columns with
    | none => some []
    | some value => columnsOfJson? value
  return { name, columns }

def Table.ofJson? : Value → Option Table
  | .object members => do
    let name ← members.lookup "name"
    Table.ofMembers? name (members.lookup "columns")
  | .array [name] => Table.ofMembers? name none
  | .array [name, columns] => Table.ofMembers? name (some columns)
  | _ => none

def tablesOfJson? (value : Value) : Option (List Table) :=
  value.items?.bind fun items => items.mapM Table.ofJson?

end Schema

end SchemaScript
