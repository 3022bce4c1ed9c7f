import SchemaScript.Proofs.Json.Printing
import SchemaScript.Script.Listing

/-!
# Listings read back

A listing is read as JSON, and its value describes the tables that were listed,
under the names that they have in a script.
-/

namespace SchemaScript

open Json

namespace Schema

theorem mapM_map_eq_some {source target : Type} {read : Value → Option target}
    {write : source → Value} {result : source → target}
    (each : ∀ item, read (write item) = some (result item)) (items : List source) :
    (items.map write).mapM read = some (items.map result) := by
  induction items with
  | nil => rfl
  | cons first items ih =>
      rw [List.map_cons, List.mapM_cons, each, ih]
      rfl

theorem Column.ofJson?_toJson (column : Column) : Column.ofJson? column.toJson = some column :=
  rfl

theorem columnsOfJson?_toJson (columns : List Column) :
    columnsOfJson? (.array (columns.map Column.toJson)) = some columns := by
  have each := mapM_map_eq_some Column.ofJson?_toJson columns
  rw [columnsOfJson?, Value.items?, Option.bind_some, each, List.map_id']

theorem Column.isPrintable_toJson (column : Column) : column.toJson.IsPrintable := by
  refine .object fun member among => ?_
  simp only [List.mem_cons, List.not_mem_nil, or_false] at among
  rcases among with rfl | rfl | rfl | rfl
  · exact .string column.name
  · exact .string column.typeName
  · exact .string column.sqlType
  · exact .bool column.nullable

end Schema

namespace Script

open Schema

variable (tablePrefix : String)

/-- The table that an entry of a listing describes: the source name is not read. -/
theorem ofJson?_listingEntry (table : Table) :
    Table.ofJson? (listingEntry tablePrefix table) =
      some { table with name := table.qualifiedName tablePrefix } := by
  have columns := columnsOfJson?_toJson table.columns
  change (columnsOfJson? (.array (table.columns.map Column.toJson))).bind _ = _
  rw [columns]
  rfl

theorem isPrintable_listingEntry (table : Table) :
    (listingEntry tablePrefix table).IsPrintable := by
  refine .object fun member among => ?_
  simp only [List.mem_cons, List.not_mem_nil, or_false] at among
  rcases among with rfl | rfl | rfl
  · exact .string (table.qualifiedName tablePrefix)
  · exact .string table.name
  · refine .array fun item listed => ?_
    obtain ⟨column, -, rfl⟩ := List.mem_map.mp listed
    exact column.isPrintable_toJson

theorem isPrintable_listingValue (tables : List Table) :
    (listingValue tablePrefix tables).IsPrintable := by
  refine .array fun item listed => ?_
  obtain ⟨table, -, rfl⟩ := List.mem_map.mp listed
  exact isPrintable_listingEntry tablePrefix table

theorem getLast?_print_array (items : List Value) :
    (Json.print (.array items)).toList.getLast? = some ']' := by
  rw [Json.print, String.toList_ofList]
  cases items with
  | nil => rfl
  | cons first items => simp [render, List.getLast?_append, List.getLast?_cons]

/--
A listing is a JSON text and one line end.  What is read from it are the listed tables, in
their order and with their columns, each under its name in a script, and every entry keeps
the name that the schema gives its table.
-/
theorem listing_reads_back (tables : List Table) :
    ∃ text items,
      listing tablePrefix tables = text ++ "\n" ∧
      text.toList.getLast? = some ']' ∧
      Json.parse? text = some (.array items) ∧
      Json.parse? (listing tablePrefix tables) = some (.array items) ∧
      tablesOfJson? (.array items) =
        some (tables.map fun table => { table with name := table.qualifiedName tablePrefix }) ∧
      items.map (Value.member? "sourceName") =
        tables.map fun table => some (.string table.name) := by
  have printable := isPrintable_listingValue tablePrefix tables
  refine ⟨Json.print (listingValue tablePrefix tables), tables.map (listingEntry tablePrefix),
    rfl, getLast?_print_array _, ?_, ?_, ?_, ?_⟩
  · have alone := Json.parse?_print_append printable [] (by simp)
    rwa [String.ofList_nil, String.append_empty] at alone
  · exact Json.parse?_print_append printable ['\n'] (by simp [Json.Token.isBlank])
  · rw [tablesOfJson?, Value.items?, Option.bind_some]
    exact mapM_map_eq_some (ofJson?_listingEntry tablePrefix) tables
  · rw [List.map_map]
    rfl

end Script

end SchemaScript
