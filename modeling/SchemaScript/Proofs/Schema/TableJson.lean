import Mathlib.Data.List.Forall2
import SchemaScript.Proofs.Script.Listing

/-!
# Which JSON values are tables

A list of tables is read from an array that presents them one by one.  Tables
and columns are presented by objects or by rows, freely mixed.  Where no object
names a member twice, the order of its members does not matter, and neither do
members that no table has; then the values that are read are exactly those that
present tables, and every other value is refused as a whole.
-/

namespace SchemaScript

namespace Json

/-- No object inside a value has two members of the same key. -/
inductive Value.DistinctKeys : Value → Prop where
  | null : DistinctKeys .null
  | bool (value : Bool) : DistinctKeys (.bool value)
  | number (literal : String) : DistinctKeys (.number literal)
  | string (value : String) : DistinctKeys (.string value)
  | array {items : List Value} (each : ∀ item ∈ items, DistinctKeys item) :
      DistinctKeys (.array items)
  | object {members : List (String × Value)} (distinct : (members.map Prod.fst).Nodup)
      (each : ∀ member ∈ members, DistinctKeys member.2) : DistinctKeys (.object members)

theorem distinctKeys_array_iff {items : List Value} :
    (Value.array items).DistinctKeys ↔ ∀ item ∈ items, item.DistinctKeys := by
  constructor
  · rintro ⟨⟩
    assumption
  · exact .array

theorem distinctKeys_object_iff {members : List (String × Value)} :
    (Value.object members).DistinctKeys ↔
      (members.map Prod.fst).Nodup ∧ ∀ member ∈ members, member.2.DistinctKeys := by
  constructor
  · rintro ⟨⟩
    exact ⟨‹_›, ‹_›⟩
  · rintro ⟨distinct, each⟩
    exact .object distinct each

section Values

variable {value : Value}

theorem string?_eq_some_iff {text : String} :
    value.string? = some text ↔ value = .string text := by
  cases value <;> simp [Value.string?]

theorem bool?_eq_some_iff {truth : Bool} : value.bool? = some truth ↔ value = .bool truth := by
  cases value <;> simp [Value.bool?]

theorem items?_eq_some_iff {items : List Value} :
    value.items? = some items ↔ value = .array items := by
  cases value <;> simp [Value.items?]

theorem lookup_eq_some_iff_mem {members : List (String × Value)}
    (distinct : (members.map Prod.fst).Nodup) {key : String} :
    members.lookup key = some value ↔ (key, value) ∈ members := by
  induction members with
  | nil => simp
  | cons first members ih =>
      obtain ⟨firstKey, firstValue⟩ := first
      rw [List.map_cons, List.nodup_cons] at distinct
      by_cases same : key = firstKey
      · subst same
        have absent : (key, value) ∉ members := fun member =>
          distinct.1 (List.mem_map.mpr ⟨_, member, rfl⟩)
        simp [absent, eq_comm]
      · have other : (key == firstKey) = false := by simpa using same
        rw [List.lookup_cons, other, List.mem_cons]
        simp [ih distinct.2, same]

theorem lookup_eq_none_iff_not_mem {members : List (String × Value)} {key : String} :
    members.lookup key = none ↔ ∀ value, (key, value) ∉ members := by
  rw [List.lookup_eq_none_iff]
  constructor
  · intro apart value member
    simpa using apart _ member
  · rintro absent ⟨other, value⟩ member
    have different : key ≠ other := by
      rintro rfl
      exact absent value member
    simpa using different

/-- A row is read as a whole exactly if its items are read one by one. -/
theorem mapM_eq_some_iff {Result : Type} {read : Value → Option Result}
    {presents : Result → Value → Prop} {items : List Value}
    (exact : ∀ item ∈ items, ∀ result, read item = some result ↔ presents result item)
    {results : List Result} :
    items.mapM read = some results ↔ List.Forall₂ presents results items := by
  induction items generalizing results with
  | nil => simp [eq_comm]
  | cons first items ih =>
      have here := exact first (.head _)
      have later {rest : List Result} :
          items.mapM read = some rest ↔ List.Forall₂ presents rest items :=
        ih fun item member => exact item (.tail _ member)
      rw [List.mapM_cons]
      cases results with
      | nil => simp [Option.bind_eq_some_iff]
      | cons result results =>
          simp [Option.bind_eq_some_iff, here, later]

/-- The keys of the items are distinct as well, which is what reading one of them takes. -/
theorem bind_items?_eq_some_iff {Result : Type} {read : Value → Option Result}
    {presents : Result → Value → Prop}
    (exact : ∀ item : Value, item.DistinctKeys →
      ∀ result, read item = some result ↔ presents result item)
    (distinct : value.DistinctKeys) {results : List Result} :
    (value.items?.bind fun items => items.mapM read) = some results ↔
      ∃ items, value = .array items ∧ List.Forall₂ presents results items := by
  rw [Option.bind_eq_some_iff]
  apply exists_congr
  intro items
  rw [items?_eq_some_iff]
  apply and_congr_right
  rintro rfl
  apply mapM_eq_some_iff
  exact fun item member => exact item (distinctKeys_array_iff.mp distinct item member)

end Values

end Json

namespace Schema

open Json

/-- A column is presented by its four members among others, or by the row of their values. -/
inductive Column.PresentedBy (column : Column) : Value → Prop where
  | object {members : List (String × Value)}
      (name : ("name", .string column.name) ∈ members)
      (typeName : ("typeName", .string column.typeName) ∈ members)
      (sqlType : ("sqlType", .string column.sqlType) ∈ members)
      (nullable : ("nullable", .bool column.nullable) ∈ members) :
      PresentedBy column (.object members)
  | row : PresentedBy column
      (.array [.string column.name, .string column.typeName, .string column.sqlType,
        .bool column.nullable])

/--
A table is presented by its two members among others, or by the row of their values.  The list
of columns may be absent if there are none.
-/
inductive Table.PresentedBy (table : Table) : Value → Prop where
  | object {members : List (String × Value)} {items : List Value}
      (name : ("name", .string table.name) ∈ members)
      (columns : ("columns", .array items) ∈ members)
      (each : List.Forall₂ Column.PresentedBy table.columns items) :
      PresentedBy table (.object members)
  | bareObject {members : List (String × Value)}
      (name : ("name", .string table.name) ∈ members)
      (absent : ∀ value, ("columns", value) ∉ members) (blank : table.columns = []) :
      PresentedBy table (.object members)
  | row {items : List Value} (each : List.Forall₂ Column.PresentedBy table.columns items) :
      PresentedBy table (.array [.string table.name, .array items])
  | bareRow (blank : table.columns = []) : PresentedBy table (.array [.string table.name])

section Columns

variable {column : Column}

theorem Column.ofMembers?_eq_some_iff {name typeName sqlType nullable : Value} :
    Column.ofMembers? name typeName sqlType nullable = some column ↔
      name = .string column.name ∧ typeName = .string column.typeName ∧
        sqlType = .string column.sqlType ∧ nullable = .bool column.nullable := by
  constructor
  · intro read
    simp only [Column.ofMembers?, Option.bind_eq_bind, Option.bind_eq_some_iff,
      string?_eq_some_iff, bool?_eq_some_iff, Option.pure_def, Option.some.injEq] at read
    obtain ⟨_, rfl, _, rfl, _, rfl, _, rfl, rfl⟩ := read
    exact ⟨rfl, rfl, rfl, rfl⟩
  · rintro ⟨rfl, rfl, rfl, rfl⟩
    rfl

theorem Column.ofJson?_eq_some_iff {value : Value} (distinct : value.DistinctKeys) :
    Column.ofJson? value = some column ↔ column.PresentedBy value := by
  constructor
  · intro read
    unfold Column.ofJson? at read
    split at read
    · have keys := (distinctKeys_object_iff.mp distinct).1
      simp only [Option.bind_eq_bind, Option.bind_eq_some_iff, lookup_eq_some_iff_mem keys,
        Column.ofMembers?_eq_some_iff] at read
      obtain ⟨_, name, _, typeName, _, sqlType, _, nullable, rfl, rfl, rfl, rfl⟩ := read
      exact .object name typeName sqlType nullable
    · obtain ⟨rfl, rfl, rfl, rfl⟩ := Column.ofMembers?_eq_some_iff.mp read
      exact .row
    · cases read
  · intro presented
    cases presented with
    | object name typeName sqlType nullable =>
        have keys := (distinctKeys_object_iff.mp distinct).1
        rw [← lookup_eq_some_iff_mem keys] at name typeName sqlType nullable
        simp [Column.ofJson?, name, typeName, sqlType, nullable, Column.ofMembers?_eq_some_iff]
    | row => rfl

theorem columnsOfJson?_eq_some_iff {value : Value} (distinct : value.DistinctKeys)
    {columns : List Column} :
    columnsOfJson? value = some columns ↔
      ∃ items, value = .array items ∧ List.Forall₂ Column.PresentedBy columns items :=
  bind_items?_eq_some_iff (fun _ distinct _ => Column.ofJson?_eq_some_iff distinct) distinct

end Columns

section Tables

variable {table : Table} {value : Value}

theorem Table.ofMembers?_some_eq_some_iff {name columns : Value}
    (distinct : columns.DistinctKeys) :
    Table.ofMembers? name (some columns) = some table ↔
      name = .string table.name ∧
        ∃ items, columns = .array items ∧
          List.Forall₂ Column.PresentedBy table.columns items := by
  constructor
  · intro read
    simp only [Table.ofMembers?, Option.bind_eq_bind, Option.bind_eq_some_iff,
      string?_eq_some_iff, Option.pure_def, Option.some.injEq] at read
    obtain ⟨_, rfl, _, listed, rfl⟩ := read
    exact ⟨rfl, (columnsOfJson?_eq_some_iff distinct).mp listed⟩
  · rintro ⟨rfl, presented⟩
    have listed := (columnsOfJson?_eq_some_iff distinct).mpr presented
    simp [Table.ofMembers?, Value.string?, listed]

theorem Table.ofMembers?_none_eq_some_iff {name : Value} :
    Table.ofMembers? name none = some table ↔
      name = .string table.name ∧ table.columns = [] := by
  constructor
  · intro read
    simp only [Table.ofMembers?, Option.bind_eq_bind, Option.bind_eq_some_iff,
      string?_eq_some_iff, Option.pure_def, Option.some.injEq] at read
    obtain ⟨_, rfl, _, rfl, rfl⟩ := read
    exact ⟨rfl, rfl⟩
  · obtain ⟨name, columns⟩ := table
    rintro ⟨rfl, rfl⟩
    rfl

theorem Table.ofJson?_eq_some_iff (distinct : value.DistinctKeys) :
    Table.ofJson? value = some table ↔ table.PresentedBy value := by
  constructor
  · intro read
    unfold Table.ofJson? at read
    split at read
    · rename_i members
      obtain ⟨keys, each⟩ := distinctKeys_object_iff.mp distinct
      obtain ⟨_, named, read⟩ := Option.bind_eq_some_iff.mp read
      rw [lookup_eq_some_iff_mem keys] at named
      cases found : members.lookup "columns" with
      | none =>
          rw [found, Table.ofMembers?_none_eq_some_iff] at read
          obtain ⟨rfl, blank⟩ := read
          exact .bareObject named (lookup_eq_none_iff_not_mem.mp found) blank
      | some columns =>
          have listed := (lookup_eq_some_iff_mem keys).mp found
          rw [found, Table.ofMembers?_some_eq_some_iff (each _ listed)] at read
          obtain ⟨rfl, items, rfl, each⟩ := read
          exact .object named listed each
    · obtain ⟨rfl, blank⟩ := Table.ofMembers?_none_eq_some_iff.mp read
      exact .bareRow blank
    · have inside := distinctKeys_array_iff.mp distinct _ (.tail _ (.head _))
      obtain ⟨rfl, items, rfl, each⟩ := (Table.ofMembers?_some_eq_some_iff inside).mp read
      exact .row each
    · cases read
  · intro presented
    cases presented with
    | object named listed each =>
        obtain ⟨keys, inside⟩ := distinctKeys_object_iff.mp distinct
        have found := (lookup_eq_some_iff_mem keys).mpr named
        have columns := (lookup_eq_some_iff_mem keys).mpr listed
        have read := (Table.ofMembers?_some_eq_some_iff (inside _ listed)).mpr
          ⟨rfl, _, rfl, each⟩
        simp [Table.ofJson?, found, columns, read]
    | bareObject named absent blank =>
        have keys := (distinctKeys_object_iff.mp distinct).1
        have found := (lookup_eq_some_iff_mem keys).mpr named
        have columns := lookup_eq_none_iff_not_mem.mpr absent
        have read := Table.ofMembers?_none_eq_some_iff.mpr ⟨rfl, blank⟩
        simp [Table.ofJson?, found, columns, read]
    | row each =>
        have inside := distinctKeys_array_iff.mp distinct _ (.tail _ (.head _))
        exact (Table.ofMembers?_some_eq_some_iff inside).mpr ⟨rfl, _, rfl, each⟩
    | bareRow blank => exact Table.ofMembers?_none_eq_some_iff.mpr ⟨rfl, blank⟩

/-- A value presents tables by an array that presents them one by one. -/
def PresentsTables (value : Value) (tables : List Table) : Prop :=
  ∃ items, value = .array items ∧ List.Forall₂ Table.PresentedBy tables items

theorem tablesOfJson?_eq_some_iff (distinct : value.DistinctKeys) {tables : List Table} :
    tablesOfJson? value = some tables ↔ PresentsTables value tables :=
  bind_items?_eq_some_iff (fun _ distinct _ => Table.ofJson?_eq_some_iff distinct) distinct

theorem Table.ofJson?_toJson (table : Table) : Table.ofJson? table.toJson = some table := by
  have columns := columnsOfJson?_toJson table.columns
  change (columnsOfJson? (.array (table.columns.map Column.toJson))).bind _ = _
  rw [columns]
  rfl

theorem tablesOfJson?_toJson (tables : List Table) :
    tablesOfJson? (.array (tables.map Table.toJson)) = some tables := by
  have each := mapM_map_eq_some Table.ofJson?_toJson tables
  rw [tablesOfJson?, Value.items?, Option.bind_some, each, List.map_id']

/--
Where no object has two members of the same key, the values that are read as tables are exactly
those that present them, whatever the order of members and whichever others there are; all other
values are refused.  In particular tables that are written are read as they were.
-/
theorem tables_read_as_presented (distinct : value.DistinctKeys) :
    (∀ tables, tablesOfJson? value = some tables ↔ PresentsTables value tables) ∧
      (tablesOfJson? value = none ↔ ∀ tables, ¬ PresentsTables value tables) ∧
      ∀ tables, tablesOfJson? (.array (tables.map Table.toJson)) = some tables := by
  refine ⟨fun tables => tablesOfJson?_eq_some_iff distinct, ?_, tablesOfJson?_toJson⟩
  simp only [Option.eq_none_iff_forall_ne_some, ne_eq, tablesOfJson?_eq_some_iff distinct]

/-- A row, and an object with its members in another order and one more. -/
def mixedColumns : List Value :=
  [.array [.string "Id", .string "xs:int", .string "INT", .bool false],
    .object
      [("nullable", .bool true), ("sqlType", .string "BIT"), ("note", .null),
        ("typeName", .string "xs:boolean"), ("name", .string "Sold")]]

/-- An object that presents a table with columns, and a row that presents one without. -/
def mixedValue : Value :=
  .array
    [.object
      [("columns", .array mixedColumns), ("sourceName", .object []), ("name", .string "Item")],
      .array [.string "Log"]]

def mixedTables : List Table :=
  [⟨"Item", [⟨"Id", "xs:int", "INT", false⟩, ⟨"Sold", "xs:boolean", "BIT", true⟩]⟩, ⟨"Log", []⟩]

/-- A list of columns may be absent, but not null. -/
def nullColumns : Value :=
  .array [.object [("name", .string "Item"), ("columns", .null)]]

theorem tables_read_as_presented_mixed :
    mixedValue.DistinctKeys ∧ PresentsTables mixedValue mixedTables ∧
      tablesOfJson? mixedValue = some mixedTables ∧
      nullColumns.DistinctKeys ∧ (∀ tables, ¬ PresentsTables nullColumns tables) ∧
      tablesOfJson? nullColumns = none := by
  have mixed : mixedValue.DistinctKeys := by
    simp [mixedValue, mixedColumns, distinctKeys_array_iff, distinctKeys_object_iff,
      Value.DistinctKeys.null, Value.DistinctKeys.bool, Value.DistinctKeys.string]
  have unlisted : nullColumns.DistinctKeys := by
    simp [nullColumns, distinctKeys_array_iff, distinctKeys_object_iff, Value.DistinctKeys.null,
      Value.DistinctKeys.string]
  have columns : List.Forall₂ Column.PresentedBy
      [⟨"Id", "xs:int", "INT", false⟩, ⟨"Sold", "xs:boolean", "BIT", true⟩] mixedColumns :=
    .cons .row (.cons (.object (by simp) (by simp) (by simp) (by simp)) .nil)
  have presented : PresentsTables mixedValue mixedTables :=
    ⟨_, rfl, .cons (.object (.tail _ (.tail _ (.head _))) (.head _) columns)
      (.cons (.bareRow rfl) .nil)⟩
  exact ⟨mixed, presented, ((tables_read_as_presented mixed).1 _).mpr presented, unlisted,
    (tables_read_as_presented unlisted).2.1.mp rfl, rfl⟩

end Tables

end Schema

end SchemaScript
