import SchemaScript.Proofs.Schema.Survey

/-!
# Surveys with more types

A type table decides about single columns only.  The tables of a schema, their
names and their order are the same for every type table, and a type table that
knows more keeps all columns and adds others between them.
-/

namespace SchemaScript

namespace Schema

open Markup

/-- One type table knows all that another one knows, and agrees with it there. -/
def TypeTable.Extends (extended types : TypeTable) : Prop :=
  ∀ reference, types.contains reference = true →
    extended.resolve? reference = types.resolve? reference

/-- A table without the columns whose type references a type table does not contain. -/
def Table.restrict (types : TypeTable) (table : Table) : Table :=
  ⟨table.name, table.columns.filter fun column => types.contains column.typeName⟩

section Columns

variable {types extended : TypeTable} {element : Element} {column : Column}

theorem DescribesColumn.contains (described : DescribesColumn types element column) :
    types.contains column.typeName = true := by
  rw [TypeTable.contains_eq_isSome, described.resolved]
  rfl

/-- All that a description takes from the type table is how one reference resolves. -/
theorem DescribesColumn.of_resolve?_eq {other : TypeTable}
    (described : DescribesColumn types element column)
    (same : other.resolve? column.typeName = types.resolve? column.typeName) :
    DescribesColumn other element column :=
  ⟨described.named, described.refers, described.typed, same.trans described.resolved,
    described.nullable⟩

theorem describesColumn_iff (knows : extended.Extends types) :
    DescribesColumn types element column ↔
      DescribesColumn extended element column ∧ types.contains column.typeName = true := by
  constructor
  · intro described
    have known := described.contains
    exact ⟨described.of_resolve?_eq (knows _ known), known⟩
  · rintro ⟨described, known⟩
    exact described.of_resolve?_eq (knows _ known).symm

theorem column?_eq_filter (knows : extended.Extends types) (element : Element) :
    column? types element =
      (column? extended element).filter fun column => types.contains column.typeName := by
  ext column
  rw [column?_eq_some_iff, describesColumn_iff knows, ← column?_eq_some_iff,
    Option.filter_eq_some_iff]

end Columns

section Tables

variable {types extended : TypeTable}

theorem table?_eq_map_restrict (knows : extended.Extends types) (element : Element) :
    table? types element = (table? extended element).map (Table.restrict types) := by
  rw [table?_eq, table?_eq]
  split
  · rfl
  · rw [Option.map_some, Table.restrict, List.filter_filterMap]
    simp only [column?_eq_filter knows]

theorem map_name_table? (types other : TypeTable) (element : Element) :
    (table? types element).map Table.name = (table? other element).map Table.name := by
  rw [table?_eq, table?_eq]
  split <;> rfl

theorem tables_eq_map_restrict (knows : extended.Extends types) (document : Document) :
    tables types document = (tables extended document).map (Table.restrict types) := by
  rw [tables_eq_filterMap, tables_eq_filterMap, List.map_filterMap]
  simp only [table?_eq_map_restrict knows]

theorem map_name_tables (types other : TypeTable) (document : Document) :
    (tables types document).map Table.name = (tables other document).map Table.name := by
  rw [tables_eq_filterMap, tables_eq_filterMap, List.map_filterMap, List.map_filterMap]
  simp only [map_name_table? types other]

/--
The tables found with fewer types are those found with more types, each without the columns
whose references are not among the fewer.  Hence no column is lost, changed or moved as the
types get more, and for any two type tables the same tables are found in the same order.
-/
theorem tables_of_extends (knows : extended.Extends types) (document : Document) :
    tables types document = (tables extended document).map (Table.restrict types) ∧
      List.Forall₂ (fun table larger =>
          table.name = larger.name ∧ table.columns.Sublist larger.columns)
        (tables types document) (tables extended document) ∧
      ∀ other : TypeTable,
        (tables other document).map Table.name = (tables types document).map Table.name := by
  have restricted := tables_eq_map_restrict knows document
  refine ⟨restricted, ?_, fun other => map_name_tables other types document⟩
  rw [restricted, List.forall₂_map_left_iff]
  exact List.forall₂_same.mpr fun table _ => ⟨rfl, List.filter_sublist⟩

end Tables

section Example

def fewTypes : TypeTable :=
  .ofPairs [("xs:int", "INT")]

def moreTypes : TypeTable :=
  fewTypes.insert "xs:string" "TEXT"

def schemaElement (localName : String) (attributes : List Attribute) (children : List Element) :
    Element :=
  ⟨⟨some schemaUri, localName, attributes⟩, children⟩

def typedElement (name type : String) : Element :=
  schemaElement "element" [⟨"name", "name", name⟩, ⟨"type", "type", type⟩] []

/-- A schema with one table, in which a text stands between two numbers. -/
def itemSchema : Document :=
  let columns := [typedElement "Id" "xs:int", typedElement "Note" "xs:string",
    typedElement "Size" "xs:int"]
  let table := schemaElement "element" [⟨"name", "name", "Item"⟩]
    [schemaElement "complexType" [] [schemaElement "sequence" [] columns]]
  ⟨schemaElement "element" [⟨"m:IsDataSet", "IsDataSet", "true"⟩]
    [schemaElement "complexType" [] [schemaElement "choice" [] [table]]]⟩

theorem tables_of_extends_item :
    moreTypes.Extends fewTypes ∧
      tables moreTypes itemSchema =
        [⟨"Item", [⟨"Id", "xs:int", "INT", false⟩, ⟨"Note", "xs:string", "TEXT", false⟩,
          ⟨"Size", "xs:int", "INT", false⟩]⟩] ∧
      tables fewTypes itemSchema =
        [⟨"Item", [⟨"Id", "xs:int", "INT", false⟩, ⟨"Size", "xs:int", "INT", false⟩]⟩] := by
  have knows : moreTypes.Extends fewTypes := by
    intro reference known
    rw [moreTypes, TypeTable.resolve?_insert, if_neg]
    rintro rfl
    exact absurd known (by decide)
  have more : tables moreTypes itemSchema =
      [⟨"Item", [⟨"Id", "xs:int", "INT", false⟩, ⟨"Note", "xs:string", "TEXT", false⟩,
        ⟨"Size", "xs:int", "INT", false⟩]⟩] := by
    decide +kernel
  refine ⟨knows, more, (tables_of_extends knows itemSchema).1.trans ?_⟩
  rw [more]
  decide

end Example

end Schema

end SchemaScript
