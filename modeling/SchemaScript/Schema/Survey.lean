import SchemaScript.Schema.Shape
import SchemaScript.Schema.Table
import SchemaScript.Schema.TypeTable

/-!
# Surveys

A survey looks at every element of a schema that could describe a table or a
column and says what comes of it.  Nothing in a schema is an error: an element
that does not describe a table or column is passed over, and the survey keeps
the reason.  The tables of a schema are the kept findings of its survey.
-/

namespace SchemaScript

namespace Schema

open Markup

/-- What comes of an element that could describe a column. -/
inductive ColumnFinding where
  /-- The column has no name or no type. -/
  | incomplete (name : String)
  /-- The type of the column is not in the table of types. -/
  | unmapped (name typeName : String)
  | kept (column : Column)
deriving Repr, DecidableEq

inductive TableFinding where
  | unnamed
  | kept (name : String) (columns : List ColumnFinding)
deriving Repr, DecidableEq

def ColumnFinding.column? : ColumnFinding → Option Column
  | kept column => some column
  | incomplete _ => none
  | unmapped _ _ => none

def TableFinding.table? : TableFinding → Option Table
  | kept name columns => some ⟨name, columns.filterMap ColumnFinding.column?⟩
  | unnamed => none

/-- The `name` of an element; an absent one counts as blank. -/
def nameOf (element : Element) : String :=
  (element.attribute? "name").getD ""

def examineColumn (types : TypeTable) (element : Element) : ColumnFinding :=
  let name := nameOf element
  let typeName := (typeName? element).getD ""
  if name = "" ∨ typeName = "" then
    .incomplete name
  else
    match types.resolve? typeName with
    | none => .unmapped name typeName
    | some sqlType => .kept ⟨name, typeName, sqlType, isNullable element⟩

def examineTable (types : TypeTable) (element : Element) : TableFinding :=
  let name := nameOf element
  if name = "" then
    .unnamed
  else
    .kept name ((columnElements element).map (examineColumn types))

def column? (types : TypeTable) (element : Element) : Option Column :=
  (examineColumn types element).column?

def table? (types : TypeTable) (element : Element) : Option Table :=
  (examineTable types element).table?

/-- The findings on a schema: dataset by dataset, and in document order. -/
def survey (types : TypeTable) (document : Document) : List TableFinding :=
  ((datasets document).flatMap tableElements).map (examineTable types)

def tables (types : TypeTable) (document : Document) : List Table :=
  (survey types document).filterMap TableFinding.table?

def tablesOfText (types : TypeTable) (text : String) : Except Markup.Error (List Table) :=
  (Document.parse text).map (tables types)

end Schema

end SchemaScript
