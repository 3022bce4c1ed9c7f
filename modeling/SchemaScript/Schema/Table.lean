/-!
# Tables and columns

What a schema says about a database: tables with their columns, in the order
of the schema.
-/

namespace SchemaScript

namespace Schema

structure Column where
  name : String
  /-- The type reference as the schema writes it. -/
  typeName : String
  /-- The column type that the reference stands for. -/
  sqlType : String
  nullable : Bool
deriving Repr, DecidableEq

structure Table where
  name : String
  columns : List Column
deriving Repr, DecidableEq

def Column.nullClause (column : Column) : String :=
  if column.nullable then "NULL" else "NOT NULL"

/-- The name of a table in a script, which starts with the name of its source. -/
def Table.qualifiedName (sourceName : String) (table : Table) : String :=
  sourceName ++ "_" ++ table.name

def columnCount (tables : List Table) : Nat :=
  (tables.flatMap Table.columns).length

end Schema

end SchemaScript
