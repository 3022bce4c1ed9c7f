import SchemaScript.Json.Printer
import SchemaScript.Schema.TableJson

/-!
# Listings

A listing describes tables as one JSON array.  Each table stands there with the
name that it has in a script and the name that the schema gives it.
-/

namespace SchemaScript

namespace Script

open Schema Json

def listingEntry (tablePrefix : String) (table : Table) : Value :=
  .object
    [("name", .string (table.qualifiedName tablePrefix)), ("sourceName", .string table.name),
      ("columns", .array (table.columns.map Column.toJson))]

def listingValue (tablePrefix : String) (tables : List Table) : Value :=
  .array (tables.map (listingEntry tablePrefix))

/-- The listing of some tables, which ends with a line end. -/
def listing (tablePrefix : String) (tables : List Table) : String :=
  Json.print (listingValue tablePrefix tables) ++ "\n"

end Script

end SchemaScript
