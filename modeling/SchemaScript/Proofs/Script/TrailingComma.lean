import SchemaScript.Proofs.Script.Outline

/-!
# Scripts with and without trailing commas

The two styles of a script differ in one comma for each table that has columns,
which ends the line of its last column.  All that a statement has before that
comma, and all that it has behind it, is the same in both styles.
-/

namespace SchemaScript

namespace Script

open Schema

section Statements

variable (trailingComma : Bool) (tablePrefix name : String)

/-- The line of a column up to its clause, without what separates it from the next. -/
def columnStem (column : Column) : String :=
  "    " ++ column.name ++ " " ++ column.sqlType ++ " " ++ column.nullClause

/-- A statement up to the clause of its last column; the lines before that one have commas. -/
def statementStem (before : List Column) (last : Column) : String :=
  "CREATE TABLE " ++ tablePrefix ++ "_" ++ name ++ " (\n"
    ++ String.join (before.map (columnLine ",")) ++ columnStem last

theorem columnLine_eq_stem (separator : String) (column : Column) :
    columnLine separator column = columnStem column ++ separator ++ "\n" :=
  rfl

/-- What ends the line of the column at an index, if the last column is at the given one. -/
def separatorAt (last index : Nat) : String :=
  if trailingComma ∨ index < last then "," else ""

theorem separatorAt_self (last : Nat) :
    separatorAt trailingComma last last = lastSeparator trailingComma := by
  simp [separatorAt, lastSeparator]

theorem separatorAt_of_lt {last index : Nat} (earlier : index < last) :
    separatorAt trailingComma last index = "," :=
  if_pos (.inr earlier)

private theorem columnLines_eq_join_zipIdx_from (columns : List Column) (start : Nat) :
    columnLines trailingComma columns =
      String.join ((columns.zipIdx start).map fun entry =>
        columnLine (separatorAt trailingComma (start + columns.length - 1) entry.2) entry.1) := by
  induction columns generalizing start with
  | nil => rfl
  | cons first later ih =>
      have last : start + 1 + later.length - 1 = start + (first :: later).length - 1 := by
        rw [List.length_cons]
        omega
      have separator : separatorBefore trailingComma later =
          separatorAt trailingComma (start + (first :: later).length - 1) start := by
        cases later with
        | nil => exact (separatorAt_self trailingComma start).symm
        | cons next rest => exact (separatorAt_of_lt trailingComma (by simp)).symm
      rw [columnLines_cons, separator, ih (start + 1), last, List.zipIdx_cons, List.map_cons,
        String.join_cons]

/-- The lines of columns are those of a loop that compares the index of each with the last one. -/
theorem columnLines_eq_join_zipIdx (columns : List Column) :
    columnLines trailingComma columns =
      String.join (columns.zipIdx.map fun entry =>
        columnLine (separatorAt trailingComma (columns.length - 1) entry.2) entry.1) := by
  simpa using columnLines_eq_join_zipIdx_from trailingComma columns 0

/-- So the loop treats only the last column by the style. -/
theorem columnLines_concat (before : List Column) (last : Column) :
    columnLines trailingComma (before ++ [last]) =
      String.join (before.map (columnLine ",")) ++
        columnLine (lastSeparator trailingComma) last := by
  have earlier : ∀ entry ∈ before.zipIdx,
      columnLine (separatorAt trailingComma before.length entry.2) entry.1 =
        columnLine "," entry.1 := by
    intro entry member
    have smaller : entry.2 < before.length := by simpa using List.snd_lt_of_mem_zipIdx member
    rw [separatorAt_of_lt trailingComma smaller]
  have lines : (before.zipIdx.map fun entry =>
      columnLine (separatorAt trailingComma before.length entry.2) entry.1) =
        before.map (columnLine ",") :=
    calc
      _ = before.zipIdx.map (fun entry => columnLine "," entry.1) := List.map_congr_left earlier
      _ = (before.zipIdx.map Prod.fst).map (columnLine ",") := by
        rw [List.map_map, Function.comp_def]
      _ = before.map (columnLine ",") := by rw [List.zipIdx_map_fst]
  rw [columnLines_eq_join_zipIdx, List.length_append, List.length_singleton,
    Nat.add_sub_cancel, List.zipIdx_append, List.map_append, lines, String.join_append]
  simp [separatorAt_self]

theorem statement_concat (before : List Column) (last : Column) :
    statement trailingComma tablePrefix ⟨name, before ++ [last]⟩ =
      statementStem tablePrefix name before last ++ lastSeparator trailingComma ++
        "\n);\n\n" := by
  have ending : "\n);\n\n" = "\n" ++ ");\n\n" := by decide
  unfold statement statementStem Table.qualifiedName
  simp only [columnLines_concat, columnLine_eq_stem, ending, String.append_assoc]

end Statements

section Measures

variable {measure : String → Nat}

/-- The number of the tables that have columns. -/
def filledCount (tables : List Table) : Nat :=
  tables.countP fun table => !table.columns.isEmpty

theorem measure_statement
    (additive : ∀ text more, measure (text ++ more) = measure text + measure more)
    (comma : measure "," = 1) (tablePrefix : String) (table : Table) :
    measure (statement true tablePrefix table) =
      measure (statement false tablePrefix table) + if table.columns.isEmpty then 0 else 1 := by
  obtain ⟨name, columns⟩ := table
  rcases List.eq_nil_or_concat columns with rfl | ⟨before, last, rfl⟩
  · rfl
  · rw [List.concat_eq_append]
    have blank : measure "" = 0 := by
      have twice := additive "" ""
      rw [String.append_empty] at twice
      omega
    have filled : (before ++ [last]).isEmpty = false := by simp
    have wanted : lastSeparator true = "," := rfl
    have unwanted : lastSeparator false = "" := rfl
    simp only [statement_concat, additive, wanted, unwanted, comma, blank, filled]
    simp only [Bool.false_eq_true, if_false]
    omega

/-- Characters and bytes are counted alike: a script has one comma more for each filled table. -/
theorem measure_script
    (additive : ∀ text more, measure (text ++ more) = measure text + measure more)
    (comma : measure "," = 1) (tablePrefix : String) (tables : List Table) :
    measure (script true tablePrefix tables) =
      measure (script false tablePrefix tables) + filledCount tables := by
  induction tables with
  | nil => simp [script, statements, filledCount]
  | cons table later ih =>
      have first := measure_statement additive comma tablePrefix table
      rw [script_cons, script_cons, additive, additive, ih, first, filledCount, filledCount,
        List.countP_cons]
      cases table.columns.isEmpty <;> simp <;> omega

end Measures

/--
With trailing commas and without them a statement with columns has the same text up to the
clause of its last column and the same ending; in between stands one comma or nothing.  A
statement without columns is the same in both styles.  Scripts are their statements one after
another, so with trailing commas they are longer by one for each table that has columns.
-/
theorem styles_differ_in_last_commas (tablePrefix : String) (tables : List Table) :
    (∀ name before last,
      statement true tablePrefix ⟨name, before ++ [last]⟩ =
          statementStem tablePrefix name before last ++ ",\n);\n\n" ∧
        statement false tablePrefix ⟨name, before ++ [last]⟩ =
          statementStem tablePrefix name before last ++ "\n);\n\n") ∧
    (∀ name, statement true tablePrefix ⟨name, []⟩ = statement false tablePrefix ⟨name, []⟩) ∧
    (∀ trailingComma, script trailingComma tablePrefix tables =
      String.join (tables.map (statement trailingComma tablePrefix))) ∧
    (script true tablePrefix tables).length =
      (script false tablePrefix tables).length + filledCount tables ∧
    (script true tablePrefix tables).utf8ByteSize =
      (script false tablePrefix tables).utf8ByteSize + filledCount tables := by
  refine ⟨?_, ?_, ?_, ?_, ?_⟩
  · intro name before last
    have wanted : lastSeparator true ++ "\n);\n\n" = ",\n);\n\n" := by decide
    have unwanted : lastSeparator false ++ "\n);\n\n" = "\n);\n\n" := by decide
    simp only [statement_concat, String.append_assoc, wanted, unwanted, and_self]
  · intro name
    rfl
  · intro trailingComma
    rfl
  · exact measure_script String.length_append rfl tablePrefix tables
  · exact measure_script (fun _ _ => String.utf8ByteSize_append) rfl tablePrefix tables

end Script

end SchemaScript
