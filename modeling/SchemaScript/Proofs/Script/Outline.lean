import SchemaScript.Script.Statement
import SchemaScript.Text.Cut

/-!
# What a script tells of its tables

A script can be taken apart again: a line end closes the name of a table and
the line of a column, a blank closes the name of a column, and what is left of
the line ends in one of two clauses.  So two lists of tables with the same
script agree in everything but the type references, which no script shows.
-/

namespace SchemaScript

namespace Schema

/-- What a script shows of a column: everything but its type reference. -/
def Column.outline (column : Column) : String × String × Bool :=
  (column.name, column.sqlType, column.nullable)

def Table.outline (table : Table) : String × List (String × String × Bool) :=
  (table.name, table.columns.map Column.outline)

/-- A column whose parts can be told apart in the line that a script has for it. -/
structure Column.IsPlain (column : Column) : Prop where
  blank_not_mem_name : ' ' ∉ column.name.toList
  lineEnd_not_mem_name : '\n' ∉ column.name.toList
  lineEnd_not_mem_sqlType : '\n' ∉ column.sqlType.toList
  sqlType_end : ¬ [' ', 'N', 'O', 'T'] <:+ column.sqlType.toList

structure Table.IsPlain (table : Table) : Prop where
  lineEnd_not_mem_name : '\n' ∉ table.name.toList
  columns_plain : ∀ column ∈ table.columns, column.IsPlain

end Schema

namespace Script

open Schema

section Lines

variable {column other : Column} {separator otherSeparator : String}

/-- The characters of a column's line behind its indentation and before its line end. -/
def lineBody (separator : String) (column : Column) : List Char :=
  column.name.toList ++ ' ' ::
    (column.sqlType.toList ++ ' ' :: (column.nullClause.toList ++ separator.toList))

theorem toList_columnLine (separator : String) (column : Column) :
    (columnLine separator column).toList =
      [' ', ' ', ' ', ' '] ++ (lineBody separator column ++ ['\n']) := by
  unfold columnLine lineBody
  simp

theorem toList_nullClause (column : Column) :
    column.nullClause.toList =
      (if column.nullable then [] else ['N', 'O', 'T', ' ']) ++ ['N', 'U', 'L', 'L'] := by
  unfold Column.nullClause
  cases column.nullable <;> rfl

theorem lineEnd_not_mem_lineBody (plain : column.IsPlain) (separates : separator ∈ ["", ","]) :
    '\n' ∉ lineBody separator column := by
  have clause : '\n' ∉ column.nullClause.toList := by
    rw [toList_nullClause]
    cases column.nullable <;> simp
  have comma : '\n' ∉ separator.toList := by
    have table : ∀ separator ∈ ["", ","], '\n' ∉ separator.toList := by simp
    exact table separator separates
  simp [lineBody, plain.lineEnd_not_mem_name, plain.lineEnd_not_mem_sqlType, clause, comma]

/--
The clause about blanks ends in the same letters either way.  A type that ends in the
difference could pass it on to the clause, and that is what plain columns exclude.
-/
theorem eq_of_append_nullClause_eq (plain : column.IsPlain) (otherPlain : other.IsPlain)
    (same : column.sqlType.toList ++ ' ' :: column.nullClause.toList =
      other.sqlType.toList ++ ' ' :: other.nullClause.toList) :
    column.sqlType = other.sqlType ∧ column.nullable = other.nullable := by
  have split (column : Column) : column.sqlType.toList ++ ' ' :: column.nullClause.toList =
      (column.sqlType.toList ++ if column.nullable then [] else [' ', 'N', 'O', 'T']) ++
        [' ', 'N', 'U', 'L', 'L'] := by
    rw [toList_nullClause]
    cases column.nullable <;> simp
  rw [split, split, List.append_left_inj] at same
  cases nullable : column.nullable <;> cases otherNullable : other.nullable <;>
    simp only [nullable, otherNullable, if_true, Bool.false_eq_true, if_false,
      List.append_nil, List.append_left_inj] at same
  · exact ⟨String.toList_inj.mp same, rfl⟩
  · exact absurd ⟨_, same⟩ otherPlain.sqlType_end
  · exact absurd ⟨_, same.symm⟩ plain.sqlType_end
  · exact ⟨String.toList_inj.mp same, rfl⟩

theorem separator_eq_of_lineBody_eq (separates : separator ∈ ["", ","])
    (otherSeparates : otherSeparator ∈ ["", ","])
    (same : lineBody separator column = lineBody otherSeparator other) :
    separator = otherSeparator := by
  have last (separator : String) (column : Column) :
      (lineBody separator column).getLast? = some (separator.toList.getLast?.getD 'L') := by
    simp only [lineBody, toList_nullClause, List.getLast?_append, List.getLast?_cons]
    cases separator.toList.getLast? <;> simp
  have lasts := congrArg List.getLast? same
  rw [last, last] at lasts
  have table : ∀ first ∈ ["", ","], ∀ second ∈ ["", ","],
      first.toList.getLast?.getD 'L' = second.toList.getLast?.getD 'L' → first = second := by
    decide
  exact table separator separates otherSeparator otherSeparates (Option.some_inj.mp lasts)

theorem outline_eq_of_lineBody_eq (plain : column.IsPlain) (otherPlain : other.IsPlain)
    (separates : separator ∈ ["", ","]) (otherSeparates : otherSeparator ∈ ["", ","])
    (same : lineBody separator column = lineBody otherSeparator other) :
    column.outline = other.outline := by
  obtain rfl := separator_eq_of_lineBody_eq separates otherSeparates same
  obtain ⟨names, tails⟩ := Text.eq_and_eq_of_append_cons_eq plain.blank_not_mem_name
    otherPlain.blank_not_mem_name same
  have ends : column.sqlType.toList ++ ' ' :: column.nullClause.toList =
      other.sqlType.toList ++ ' ' :: other.nullClause.toList := by
    rw [← List.append_left_inj separator.toList]
    simpa using tails
  obtain ⟨types, clauses⟩ := eq_of_append_nullClause_eq plain otherPlain ends
  rw [Column.outline, Column.outline, String.toList_inj.mp names, types, clauses]

/-- A line at the start of a text is read back, and so is what follows it. -/
theorem outline_eq_of_columnLine_append_eq {rest more : List Char} (plain : column.IsPlain)
    (otherPlain : other.IsPlain) (separates : separator ∈ ["", ","])
    (otherSeparates : otherSeparator ∈ ["", ","])
    (same : (columnLine separator column).toList ++ rest =
      (columnLine otherSeparator other).toList ++ more) :
    column.outline = other.outline ∧ rest = more := by
  simp only [toList_columnLine, List.append_assoc, List.append_right_inj] at same
  obtain ⟨bodies, tails⟩ := Text.eq_and_eq_of_append_cons_eq
    (lineEnd_not_mem_lineBody plain separates)
    (lineEnd_not_mem_lineBody otherPlain otherSeparates) same
  exact ⟨outline_eq_of_lineBody_eq plain otherPlain separates otherSeparates bodies, tails⟩

theorem columnLine_eq_of_outline_eq (separator : String)
    (same : column.outline = other.outline) :
    columnLine separator column = columnLine separator other := by
  simp only [Column.outline, Prod.mk.injEq] at same
  obtain ⟨names, types, clauses⟩ := same
  unfold columnLine Column.nullClause
  rw [names, types, clauses]

end Lines

section Columns

variable {trailingComma : Bool} {first second : List Column}

/-- What ends the line of a column that has the given columns behind it. -/
def separatorBefore (trailingComma : Bool) (later : List Column) : String :=
  if later.isEmpty then lastSeparator trailingComma else ","

theorem columnLines_cons (trailingComma : Bool) (column : Column) (later : List Column) :
    columnLines trailingComma (column :: later) =
      columnLine (separatorBefore trailingComma later) column ++
        columnLines trailingComma later := by
  cases later with
  | nil => simp [columnLines, separatorBefore]
  | cons next later => rfl

theorem separatorBefore_mem (trailingComma : Bool) (later : List Column) :
    separatorBefore trailingComma later ∈ ["", ","] := by
  unfold separatorBefore lastSeparator
  cases later <;> cases trailingComma <;> simp

/--
No line of a column opens with the bracket that closes the table, so the lines end in
both texts at the same column.
-/
theorem outlines_eq_of_columnLines_append_eq {rest more : List Char}
    (firstPlain : ∀ column ∈ first, column.IsPlain)
    (secondPlain : ∀ column ∈ second, column.IsPlain)
    (same : (columnLines trailingComma first).toList ++ ')' :: rest =
      (columnLines trailingComma second).toList ++ ')' :: more) :
    first.map Column.outline = second.map Column.outline ∧ rest = more := by
  induction first generalizing second with
  | nil =>
      cases second with
      | nil => simpa [columnLines] using same
      | cons column later =>
          rw [columnLines_cons, String.toList_append, toList_columnLine] at same
          simp [columnLines] at same
  | cons column later ih =>
      cases second with
      | nil =>
          rw [columnLines_cons, String.toList_append, toList_columnLine] at same
          simp [columnLines] at same
      | cons other others =>
          rw [List.forall_mem_cons] at firstPlain secondPlain
          rw [columnLines_cons, columnLines_cons, String.toList_append, String.toList_append,
            List.append_assoc, List.append_assoc] at same
          obtain ⟨outlines, tails⟩ := outline_eq_of_columnLine_append_eq firstPlain.1
            secondPlain.1 (separatorBefore_mem _ _) (separatorBefore_mem _ _) same
          obtain ⟨later, rests⟩ := ih firstPlain.2 secondPlain.2 tails
          exact ⟨by rw [List.map_cons, List.map_cons, outlines, later], rests⟩

theorem columnLines_eq_of_outlines_eq (trailingComma : Bool)
    (same : first.map Column.outline = second.map Column.outline) :
    columnLines trailingComma first = columnLines trailingComma second := by
  induction first generalizing second with
  | nil =>
      rw [List.map_nil, eq_comm, List.map_eq_nil_iff] at same
      rw [same]
  | cons column later ih =>
      cases second with
      | nil => simp at same
      | cons other others =>
          rw [List.map_cons, List.map_cons, List.cons.injEq] at same
          have ends := congrArg List.isEmpty same.2
          have separators : separatorBefore trailingComma later =
              separatorBefore trailingComma others := by
            rw [List.isEmpty_map, List.isEmpty_map] at ends
            rw [separatorBefore, separatorBefore, ends]
          rw [columnLines_cons, columnLines_cons, columnLine_eq_of_outline_eq _ same.1,
            separators, ih same.2]

end Columns

section Tables

variable {trailingComma : Bool} {tablePrefix : String}

theorem toList_statement (trailingComma : Bool) (tablePrefix : String) (table : Table) :
    (statement trailingComma tablePrefix table).toList =
      "CREATE TABLE ".toList ++ ((tablePrefix ++ "_").toList ++ ((table.name ++ " (").toList ++
        '\n' :: ((columnLines trailingComma table.columns).toList ++
          ')' :: [';', '\n', '\n']))) := by
  have opening : " (\n".toList = " (".toList ++ ['\n'] := by decide
  have closing : ");\n\n".toList = ')' :: [';', '\n', '\n'] := by decide
  unfold statement Table.qualifiedName
  simp only [String.toList_append, opening, closing, List.append_assoc, List.cons_append,
    List.nil_append]

/-- A statement at the start of a text is read back, and so is what follows it. -/
theorem outline_eq_of_statement_append_eq {table other : Table} {rest more : List Char}
    (plain : table.IsPlain) (otherPlain : other.IsPlain)
    (same : (statement trailingComma tablePrefix table).toList ++ rest =
      (statement trailingComma tablePrefix other).toList ++ more) :
    table.outline = other.outline ∧ rest = more := by
  have heading {table : Table} (plain : table.IsPlain) : '\n' ∉ (table.name ++ " (").toList := by
    simp [plain.lineEnd_not_mem_name]
  simp only [toList_statement, List.append_assoc, List.append_right_inj, List.cons_append] at same
  obtain ⟨names, bodies⟩ := Text.eq_and_eq_of_append_cons_eq (heading plain) (heading otherPlain)
    same
  obtain ⟨columns, tails⟩ := outlines_eq_of_columnLines_append_eq plain.columns_plain
    otherPlain.columns_plain bodies
  rw [String.toList_append, String.toList_append, List.append_left_inj] at names
  refine ⟨?_, by simpa using tails⟩
  rw [Table.outline, Table.outline, String.toList_inj.mp names, columns]

theorem statement_eq_of_outline_eq (trailingComma : Bool) (tablePrefix : String)
    {table other : Table} (same : table.outline = other.outline) :
    statement trailingComma tablePrefix table = statement trailingComma tablePrefix other := by
  simp only [Table.outline, Prod.mk.injEq] at same
  unfold statement Table.qualifiedName
  rw [same.1, columnLines_eq_of_outlines_eq trailingComma same.2]

theorem script_cons (trailingComma : Bool) (tablePrefix : String) (table : Table)
    (later : List Table) :
    script trailingComma tablePrefix (table :: later) =
      statement trailingComma tablePrefix table ++ script trailingComma tablePrefix later := by
  rw [script, statements, List.map_cons, String.join_cons]
  rfl

variable {first second : List Table}

theorem outlines_eq_of_script_eq (firstPlain : ∀ table ∈ first, table.IsPlain)
    (secondPlain : ∀ table ∈ second, table.IsPlain)
    (same : (script trailingComma tablePrefix first).toList =
      (script trailingComma tablePrefix second).toList) :
    first.map Table.outline = second.map Table.outline := by
  have opens (table : Table) (later : List Table) :
      (script trailingComma tablePrefix (table :: later)).toList ≠ [] := by
    rw [script_cons, String.toList_append, toList_statement]
    simp
  induction first generalizing second with
  | nil =>
      cases second with
      | nil => rfl
      | cons table later => exact absurd same.symm (opens table later)
  | cons table later ih =>
      cases second with
      | nil => exact absurd same (opens table later)
      | cons other others =>
          rw [List.forall_mem_cons] at firstPlain secondPlain
          rw [script_cons, script_cons, String.toList_append, String.toList_append] at same
          obtain ⟨outlines, rests⟩ := outline_eq_of_statement_append_eq firstPlain.1
            secondPlain.1 same
          rw [List.map_cons, List.map_cons, outlines, ih firstPlain.2 secondPlain.2 rests]

theorem script_eq_of_outlines_eq (trailingComma : Bool) (tablePrefix : String)
    (same : first.map Table.outline = second.map Table.outline) :
    script trailingComma tablePrefix first = script trailingComma tablePrefix second := by
  induction first generalizing second with
  | nil =>
      rw [List.map_nil, eq_comm, List.map_eq_nil_iff] at same
      rw [same]
  | cons table later ih =>
      cases second with
      | nil => simp at same
      | cons other others =>
          rw [List.map_cons, List.map_cons, List.cons.injEq] at same
          rw [script_cons, script_cons, statement_eq_of_outline_eq _ _ same.1, ih same.2]

/--
Plain tables have the same script exactly if they agree, one by one and column by column,
in everything that a script shows.  Only type references are lost.
-/
theorem script_eq_iff_outlines_eq (trailingComma : Bool) (tablePrefix : String)
    (firstPlain : ∀ table ∈ first, table.IsPlain)
    (secondPlain : ∀ table ∈ second, table.IsPlain) :
    script trailingComma tablePrefix first = script trailingComma tablePrefix second ↔
      first.map Table.outline = second.map Table.outline := by
  constructor
  · intro same
    exact outlines_eq_of_script_eq firstPlain secondPlain (congrArg String.toList same)
  · intro same
    exact script_eq_of_outlines_eq trailingComma tablePrefix same

/-- A table with one column, whose type has a blank or is the start of a clause. -/
def smallTable (typeName sqlType : String) (nullable : Bool) : Table :=
  ⟨"Line", [⟨"Total", typeName, sqlType, nullable⟩]⟩

/--
A type reference leaves no trace, while a type that reads like the start of a clause is
told from the clause.
-/
theorem script_eq_iff_outlines_eq_of_small :
    (∀ table ∈ [smallTable "xs:unsignedLong" "DECIMAL(20, 0)" true], table.IsPlain) ∧
      (∀ table ∈ [smallTable "Amount" "DECIMAL(20, 0)" true], table.IsPlain) ∧
      (∀ table ∈ [smallTable "Amount" "NOT" true], table.IsPlain) ∧
      (∀ table ∈ [smallTable "Amount" "" false], table.IsPlain) ∧
      script false "S" [smallTable "xs:unsignedLong" "DECIMAL(20, 0)" true] =
        script false "S" [smallTable "Amount" "DECIMAL(20, 0)" true] ∧
      script false "S" [smallTable "Amount" "NOT" true] ≠
        script false "S" [smallTable "Amount" "" false] := by
  have plain (typeName sqlType : String) (nullable : Bool)
      (oneLine : '\n' ∉ sqlType.toList) (ending : ¬ [' ', 'N', 'O', 'T'] <:+ sqlType.toList) :
      ∀ table ∈ [smallTable typeName sqlType nullable], table.IsPlain := by
    intro table member
    obtain rfl := List.mem_singleton.mp member
    refine ⟨by simp [smallTable], fun column among => ?_⟩
    obtain rfl := List.mem_singleton.mp among
    exact ⟨by simp, by simp, oneLine, ending⟩
  have reference := plain "xs:unsignedLong" "DECIMAL(20, 0)" true (by decide) (by decide)
  have amount := plain "Amount" "DECIMAL(20, 0)" true (by decide) (by decide)
  have keyword := plain "Amount" "NOT" true (by decide) (by decide)
  have blank := plain "Amount" "" false (by decide) (by decide)
  refine ⟨reference, amount, keyword, blank, ?_, ?_⟩
  · exact (script_eq_iff_outlines_eq false "S" reference amount).mpr rfl
  · intro same
    have outlines := (script_eq_iff_outlines_eq false "S" keyword blank).mp same
    exact absurd outlines (by decide)

end Tables

end Script

end SchemaScript
