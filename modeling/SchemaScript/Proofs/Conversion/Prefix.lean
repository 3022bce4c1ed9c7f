import SchemaScript.Conversion.Converter
import Mathlib.Control.Monad.Basic

/-!
# Prefixes of table names

The prefix of a script tells its tables from those of other scripts, but not
always: prefix and name are joined by a character that both may hold.  This
file says exactly which names two scripts with different prefixes share.
-/

namespace SchemaScript

namespace Text

/--
Two joined texts are equal if they are joined at the same place, or if one of the first
parts goes on with the joining character and the start of the other's second part.
-/
theorem append_cons_eq_append_cons_iff {char : Char} {first second rest more : List Char} :
    first ++ char :: rest = second ++ char :: more ↔
      (first = second ∧ rest = more) ∨
        (∃ middle, second = first ++ char :: middle ∧ rest = middle ++ char :: more) ∨
        (∃ middle, first = second ++ char :: middle ∧ more = middle ++ char :: rest) := by
  have overlap {short long tail remaining : List Char} :
      (∃ between, long = short ++ between ∧ char :: tail = between ++ char :: remaining) ↔
        (short = long ∧ tail = remaining) ∨
          ∃ middle, long = short ++ char :: middle ∧ tail = middle ++ char :: remaining := by
    constructor
    · rintro ⟨between, rfl, same⟩
      cases between with
      | nil => exact .inl ⟨by simp, by simpa using same⟩
      | cons head middle =>
          rw [List.cons_append, List.cons.injEq] at same
          obtain ⟨rfl, rfl⟩ := same
          exact .inr ⟨middle, rfl, rfl⟩
    · rintro (⟨rfl, rfl⟩ | ⟨middle, rfl, rfl⟩)
      · exact ⟨[], by simp, rfl⟩
      · exact ⟨char :: middle, rfl, rfl⟩
  rw [List.append_eq_append_iff, overlap, overlap]
  constructor
  · rintro ((⟨rfl, rfl⟩ | early) | (⟨rfl, rfl⟩ | late))
    · exact .inl ⟨rfl, rfl⟩
    · exact .inr (.inl early)
    · exact .inl ⟨rfl, rfl⟩
    · exact .inr (.inr late)
  · rintro (⟨rfl, rfl⟩ | early | late)
    · exact .inl (.inl ⟨rfl, rfl⟩)
    · exact .inl (.inr early)
    · exact .inr (.inr late)

end Text

namespace Schema

/--
Whether a table of a source with a short name is called, after the short name, like another
table after the long one: what the long name has in addition opens the table's own name.
-/
def TakesUp (shortSource : String) (table : Table) (longSource : String) (other : Table) : Prop :=
  ∃ middle, longSource = shortSource ++ "_" ++ middle ∧ table.name = middle ++ "_" ++ other.name

theorem takesUp_iff {shortSource longSource : String} {table other : Table} :
    TakesUp shortSource table longSource other ↔
      ∃ middle, longSource.toList = shortSource.toList ++ '_' :: middle ∧
        table.name.toList = middle ++ '_' :: other.name.toList := by
  constructor
  · rintro ⟨middle, long, name⟩
    exact ⟨middle.toList, by simp [long], by simp [name]⟩
  · rintro ⟨middle, long, name⟩
    refine ⟨String.ofList middle, ?_, ?_⟩
    · apply String.toList_inj.mp
      simp [long]
    · apply String.toList_inj.mp
      simp [name]

theorem qualifiedName_eq_iff {first second : String} {table other : Table} :
    table.qualifiedName first = other.qualifiedName second ↔
      (first = second ∧ table.name = other.name) ∨
        TakesUp first table second other ∨ TakesUp second other first table := by
  have spelled (source : String) (table : Table) :
      (table.qualifiedName source).toList = source.toList ++ '_' :: table.name.toList := by
    simp [Table.qualifiedName]
  rw [← String.toList_inj, spelled, spelled, Text.append_cons_eq_append_cons_iff,
    ← takesUp_iff, ← takesUp_iff, String.toList_inj, String.toList_inj]

end Schema

namespace Converter

open Schema

/-- The names that the tables of a schema get in a script. -/
def emittedNames (converter : Converter) (path : String) (tables : List Table) : List String :=
  tables.map (Table.qualifiedName (converter.prefixFor path))

/--
Scripts with different prefixes create a table of the same name exactly if one prefix is
the other with `_` and more behind it, and a table of the shorter one takes that up.
-/
theorem emittedNames_share_iff (converter : Converter) {firstPath secondPath : String}
    (different : converter.prefixFor firstPath ≠ converter.prefixFor secondPath)
    (firstTables secondTables : List Table) :
    (∃ name, name ∈ converter.emittedNames firstPath firstTables ∧
        name ∈ converter.emittedNames secondPath secondTables) ↔
      ∃ table ∈ firstTables, ∃ other ∈ secondTables,
        TakesUp (converter.prefixFor firstPath) table (converter.prefixFor secondPath) other ∨
          TakesUp (converter.prefixFor secondPath) other
            (converter.prefixFor firstPath) table := by
  have pair {table other : Table} :
      table.qualifiedName (converter.prefixFor firstPath) =
          other.qualifiedName (converter.prefixFor secondPath) ↔
        TakesUp (converter.prefixFor firstPath) table (converter.prefixFor secondPath) other ∨
          TakesUp (converter.prefixFor secondPath) other
            (converter.prefixFor firstPath) table := by
    rw [qualifiedName_eq_iff]
    simp [different]
  constructor
  · rintro ⟨name, among, amongOthers⟩
    obtain ⟨table, member, rfl⟩ := List.mem_map.mp among
    obtain ⟨other, otherMember, same⟩ := List.mem_map.mp amongOthers
    exact ⟨table, member, other, otherMember, pair.mp same.symm⟩
  · rintro ⟨table, member, other, otherMember, takesUp⟩
    refine ⟨_, List.mem_map_of_mem member, ?_⟩
    rw [pair.mpr takesUp]
    exact List.mem_map_of_mem otherMember

/-- The default prefix of a file can be that of another file with an ending that starts in `_`. -/
theorem emittedNames_share_iff_of_extended :
    ({} : Converter).prefixFor "Orders.xsd" ≠ ({} : Converter).prefixFor "old/Orders_Old.xsd" ∧
      ∃ name,
        name ∈ ({} : Converter).emittedNames "Orders.xsd" [⟨"Line", []⟩, ⟨"Old_Line", []⟩] ∧
        name ∈ ({} : Converter).emittedNames "old/Orders_Old.xsd" [⟨"Line", []⟩] := by
  have different : ({} : Converter).prefixFor "Orders.xsd" ≠
      ({} : Converter).prefixFor "old/Orders_Old.xsd" := by
    decide +kernel
  have taken : TakesUp (({} : Converter).prefixFor "Orders.xsd") ⟨"Old_Line", []⟩
      (({} : Converter).prefixFor "old/Orders_Old.xsd") ⟨"Line", []⟩ :=
    ⟨"Old", by decide +kernel, by decide +kernel⟩
  refine ⟨different, (emittedNames_share_iff {} different _ _).mpr ?_⟩
  exact ⟨_, .tail _ (.head _), _, .head _, .inl taken⟩

/-- A schema with one dataset of one table, which has no columns. -/
def schemaOfTable (name : String) : String :=
  "<element xmlns=\"http://www.w3.org/2001/XMLSchema\" IsDataSet=\"true\"><complexType><choice>" ++
    "<element name=\"" ++ name ++ "\"/></choice></complexType></element>"

/-- Different default prefixes do not keep the names of discovered tables apart. -/
theorem not_forall_emittedNames_disjoint :
    ¬ ∀ (converter : Converter) (firstPath secondPath firstText secondText : String)
        (firstTables secondTables : List Table),
      converter.options.tablePrefix = none →
      converter.prefixFor firstPath ≠ converter.prefixFor secondPath →
      tablesOfText converter.types firstText = .ok firstTables →
      tablesOfText converter.types secondText = .ok secondTables →
      ∀ name ∈ converter.emittedNames firstPath firstTables,
        name ∉ converter.emittedNames secondPath secondTables := by
  intro apart
  have first : tablesOfText builtinTypes (schemaOfTable "B_C") = .ok [⟨"B_C", []⟩] := by
    decide +kernel
  have second : tablesOfText builtinTypes (schemaOfTable "C") = .ok [⟨"C", []⟩] := by
    decide +kernel
  have different : ({} : Converter).prefixFor "A.xsd" ≠ ({} : Converter).prefixFor "A_B.xsd" := by
    decide +kernel
  exact apart {} "A.xsd" "A_B.xsd" _ _ _ _ rfl different first second "A_B_C"
    (by decide +kernel) (by decide +kernel)

end Converter

end SchemaScript
