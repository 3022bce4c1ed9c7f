import SchemaScript.Proofs.Markup.Position
import SchemaScript.Proofs.Text.Cut
import SchemaScript.Schema.Survey
import Mathlib.Data.List.Forall2

/-!
# What the tables of a schema are

The survey selects elements by walking through a schema.  This file says by
positions alone which tables and columns it finds: one for each position that
leads through the right names, in the order of the positions, and no others.
-/

namespace SchemaScript

namespace Schema

open Markup

/--
Child numbers lead from one element to another, by way of elements that have
the given names in the schema language.
-/
inductive LeadsThrough : List String → Element → List Nat → Element → Prop where
  | here (element : Element) : LeadsThrough [] element [] element
  | down {name : String} {names : List String} {start child finish : Element} {number : Nat}
      {path : List Nat} (stands : start.children[number]? = some child)
      (named : child.hasName schemaUri name = true)
      (onward : LeadsThrough names child path finish) :
      LeadsThrough (name :: names) start (number :: path) finish

theorem LeadsThrough.length_eq {names : List String} {start finish : Element} {path : List Nat}
    (leads : LeadsThrough names start path finish) : path.length = names.length := by
  induction leads with
  | here element => rfl
  | down stands named onward ih => rw [List.length_cons, List.length_cons, ih]

/-- The elements to which child numbers lead through the given names, with those numbers. -/
def follow : List String → Element → List (List Nat × Element)
  | [], element => [([], element)]
  | name :: names, element =>
    element.children |> Element.inChildren fun child =>
      if child.hasName schemaUri name then follow names child else []

theorem mem_follow_iff {names : List String} {start finish : Element} {path : List Nat} :
    (path, finish) ∈ follow names start ↔ LeadsThrough names start path finish := by
  induction names generalizing start path with
  | nil =>
      constructor
      · intro member
        obtain ⟨rfl, rfl⟩ : path = [] ∧ finish = start := by simpa [follow] using member
        exact .here finish
      · rintro ⟨⟩
        simp [follow]
  | cons name names ih =>
      rw [follow, Element.mem_inChildren_iff]
      constructor
      · rintro ⟨number, rest, child, rfl, stands, member⟩
        split at member
        · rename_i named
          exact .down stands named (ih.mp member)
        · simp at member
      · intro leads
        cases leads with
        | down stands named onward =>
            refine ⟨_, _, _, rfl, stands, ?_⟩
            rw [if_pos named]
            exact ih.mpr onward

theorem pairwise_follow (names : List String) (start : Element) :
    (follow names start).Pairwise fun first second => first.1 < second.1 := by
  induction names generalizing start with
  | nil => exact List.pairwise_singleton _ _
  | cons name names ih =>
      refine Element.pairwise_inChildren fun child _ => ?_
      split
      · exact ih child
      · exact .nil

theorem map_snd_follow_cons (name : String) (names : List String) (start : Element) :
    (follow (name :: names) start).map Prod.snd =
      (childrenNamed start name).flatMap fun child => (follow names child).map Prod.snd := by
  rw [follow, Element.map_snd_inChildren, childrenNamed, Element.childrenNamed]
  induction start.children with
  | nil => rfl
  | cons first rest ih =>
      by_cases named : first.hasName schemaUri name = true
      · rw [List.flatMap_cons, if_pos named, ih, List.filter_cons_of_pos named, List.flatMap_cons]
      · rw [List.flatMap_cons, if_neg named, ih, List.filter_cons_of_neg named, List.map_nil,
          List.nil_append]

theorem map_snd_follow_singleton (name : String) (start : Element) :
    (follow [name] start).map Prod.snd = childrenNamed start name := by
  rw [map_snd_follow_cons]
  simp [follow]

theorem tableElements_eq_follow (dataset : Element) :
    tableElements dataset = (follow ["complexType", "choice", "element"] dataset).map Prod.snd := by
  rw [map_snd_follow_cons, tableElements]
  congr 1
  funext type
  rw [map_snd_follow_cons]
  simp only [map_snd_follow_singleton]

theorem columnElements_eq_follow (table : Element) :
    columnElements table =
      (follow ["complexType", "sequence", "element"] table).map Prod.snd := by
  rw [map_snd_follow_cons, columnElements]
  congr 1
  funext type
  rw [map_snd_follow_cons]
  simp only [map_snd_follow_singleton]

theorem restrictions_eq_follow (column : Element) :
    restrictions column = (follow ["simpleType", "restriction"] column).map Prod.snd := by
  rw [map_snd_follow_cons, restrictions]
  simp only [map_snd_follow_singleton]

/--
A list has one entry for each key that qualifies, in the order of the keys, and
the entry describes what the key stands for.
-/
def ListsInOrder {Key Value : Type} (before : Key → Key → Prop) (qualifies : Key → Prop)
    (describes : Key → Value → Prop) (values : List Value) : Prop :=
  ∃ keys : List Key, keys.Pairwise before ∧ (∀ key, key ∈ keys ↔ qualifies key) ∧
    List.Forall₂ describes keys values

theorem listsInOrder_filterMap {Key Thing Value : Type} {before : Key → Key → Prop}
    {stands : Key → Thing → Prop} {entries : List (Key × Thing)}
    (increasing : entries.Pairwise fun first second => before first.1 second.1)
    (complete : ∀ key thing, (key, thing) ∈ entries ↔ stands key thing)
    (keep? : Thing → Option Value) :
    ListsInOrder before
      (fun key => ∃ thing, stands key thing ∧ (keep? thing).isSome)
      (fun key value => ∃ thing, stands key thing ∧ keep? thing = some value)
      (entries.filterMap fun entry => keep? entry.2) := by
  refine ⟨(entries.filter fun entry => (keep? entry.2).isSome).map Prod.fst, ?_, ?_, ?_⟩
  · exact List.pairwise_map.mpr (increasing.filter _)
  · intro key
    simp only [List.mem_map, List.mem_filter, Prod.exists, exists_and_right, exists_eq_right,
      complete]
  · have sound : ∀ entry ∈ entries, stands entry.1 entry.2 := fun entry member =>
      (complete entry.1 entry.2).mp member
    clear complete increasing
    induction entries with
    | nil => exact .nil
    | cons first rest ih =>
        have later := ih fun entry member => sound entry (.tail _ member)
        cases kept : keep? first.2 with
        | none => simpa [List.filterMap_cons, kept] using later
        | some value =>
            have found : ∃ thing, stands first.1 thing ∧ keep? thing = some value :=
              ⟨first.2, sound first (.head _), kept⟩
            simpa [List.filterMap_cons, kept] using List.Forall₂.cons found later

theorem ListsInOrder.congr {Key Value : Type} {before : Key → Key → Prop}
    {qualifies qualifies' : Key → Prop} {describes describes' : Key → Value → Prop}
    {values : List Value} (lists : ListsInOrder before qualifies describes values)
    (sameKeys : ∀ key, qualifies key ↔ qualifies' key)
    (stronger : ∀ key value, describes key value → describes' key value) :
    ListsInOrder before qualifies' describes' values := by
  obtain ⟨keys, increasing, complete, described⟩ := lists
  exact ⟨keys, increasing, fun key => (complete key).trans (sameKeys key),
    described.imp stronger⟩

/-- An element of the schema language that is marked as a dataset by its first mark. -/
def IsMarkedDataset (element : Element) : Prop :=
  element.hasName schemaUri "element" = true ∧
    ∃ before mark after, element.tag.attributes = before ++ mark :: after ∧
      (∀ earlier ∈ before, earlier.localName ≠ "IsDataSet") ∧
      mark.localName = "IsDataSet" ∧ "true".toList <:+: mark.value.toList

theorem isDataset_iff (element : Element) :
    isDataset element = true ↔ IsMarkedDataset element := by
  have contains_true (text : String) : saysTrue text = true ↔ "true".toList <:+: text.toList :=
    Text.cut?_isSome_iff
  rw [isDataset, IsMarkedDataset, Bool.and_eq_true, Option.any_eq_true]
  refine and_congr_right fun _ => ?_
  simp only [Element.attributesByLocalName, List.head?_filter, List.find?_eq_some_iff_append,
    contains_true, decide_eq_true_eq, Bool.not_eq_true', decide_eq_false_iff_not]
  constructor
  · rintro ⟨mark, ⟨named, before, after, split, others⟩, contains⟩
    exact ⟨before, mark, after, split, others, named, contains⟩
  · rintro ⟨before, mark, after, split, others, named, contains⟩
    exact ⟨mark, ⟨named, before, after, split, others⟩, contains⟩

/-- The restriction of an element that comes first among those inside its simple types. -/
def IsFirstRestriction (element restriction : Element) : Prop :=
  ∃ path, LeadsThrough ["simpleType", "restriction"] element path restriction ∧
    ∀ other found, LeadsThrough ["simpleType", "restriction"] element other found →
      ¬ other < path

theorem head?_restrictions_eq_some_iff {element restriction : Element} :
    (restrictions element).head? = some restriction ↔ IsFirstRestriction element restriction := by
  simp only [IsFirstRestriction, ← mem_follow_iff]
  rw [restrictions_eq_follow]
  cases listed : follow ["simpleType", "restriction"] element with
  | nil => simp
  | cons first rest =>
      have increasing := pairwise_follow ["simpleType", "restriction"] element
      rw [listed] at increasing
      have least := (List.pairwise_cons.mp increasing).1
      constructor
      · rintro ⟨⟩
        refine ⟨first.1, .head _, fun other found member => ?_⟩
        cases member with
        | head => exact List.lt_irrefl _
        | tail _ member => exact List.lt_asymm (least _ member)
      · rintro ⟨path, member, first⟩
        cases member with
        | head => rfl
        | tail _ member => exact (first _ _ (.head _) (least _ member)).elim

/--
The type reference of an element: its `type`, even if that is blank, or else
the `base` of its first restriction.
-/
def RefersTo (element : Element) (reference : String) : Prop :=
  element.attribute? "type" = some reference ∨
    element.attribute? "type" = none ∧
      ∃ restriction, IsFirstRestriction element restriction ∧
        restriction.attribute? "base" = some reference

theorem typeName?_eq_some_iff {element : Element} {reference : String} :
    typeName? element = some reference ↔ RefersTo element reference := by
  rw [typeName?, RefersTo]
  cases given : element.attribute? "type" with
  | some name => simp
  | none => simp [Option.bind_eq_some_iff, head?_restrictions_eq_some_iff]

def IsNamed (element : Element) (name : String) : Prop :=
  element.attribute? "name" = some name ∧ name ≠ ""

structure DescribesColumn (types : TypeTable) (element : Element) (column : Column) : Prop where
  named : IsNamed element column.name
  refers : RefersTo element column.typeName
  typed : column.typeName ≠ ""
  resolved : types.resolve? column.typeName = some column.sqlType
  nullable : column.nullable = true ↔ element.attribute? "minOccurs" = some "0"

theorem nameOf_eq_iff {element : Element} {name : String} (visible : name ≠ "") :
    nameOf element = name ↔ element.attribute? "name" = some name := by
  rw [nameOf]
  cases element.attribute? "name" with
  | none => simp [visible.symm]
  | some given => simp

theorem column?_eq_some_iff {types : TypeTable} {element : Element} {column : Column} :
    column? types element = some column ↔ DescribesColumn types element column := by
  constructor
  · intro found
    rw [column?, examineColumn] at found
    split at found
    · simp [ColumnFinding.column?] at found
    · rename_i complete
      rw [not_or] at complete
      split at found
      · simp [ColumnFinding.column?] at found
      · rename_i sqlType resolved
        cases found
        obtain ⟨reference, given⟩ : ∃ reference, typeName? element = some reference := by
          cases given : typeName? element with
          | none => simp [given] at complete
          | some reference => exact ⟨reference, rfl⟩
        rw [given, Option.getD_some] at complete resolved
        refine ⟨⟨(nameOf_eq_iff complete.1).mp rfl, complete.1⟩, ?_, ?_, ?_, ?_⟩
        · simpa [given] using typeName?_eq_some_iff.mp given
        · simpa [given] using complete.2
        · simpa [given] using resolved
        · simp [isNullable]
  · intro described
    obtain ⟨⟨named, visible⟩, refers, typed, resolved, nullable⟩ := described
    have name : nameOf element = column.name := (nameOf_eq_iff visible).mpr named
    have reference : typeName? element = some column.typeName := typeName?_eq_some_iff.mpr refers
    have optional : isNullable element = column.nullable := by
      rw [isNullable, Bool.eq_iff_iff, nullable, decide_eq_true_eq]
    simp [column?, examineColumn, name, reference, visible, typed, resolved, optional,
      ColumnFinding.column?]

/-- An element describes some column: it is named and has a type that resolves. -/
def IsColumn (types : TypeTable) (element : Element) : Prop :=
  ∃ name reference, IsNamed element name ∧ RefersTo element reference ∧ reference ≠ "" ∧
    (types.resolve? reference).isSome

theorem column?_isSome_iff {types : TypeTable} {element : Element} :
    (column? types element).isSome = true ↔ IsColumn types element := by
  simp only [Option.isSome_iff_exists, column?_eq_some_iff]
  constructor
  · rintro ⟨column, named, refers, typed, resolved, _⟩
    exact ⟨column.name, column.typeName, named, refers, typed,
      Option.isSome_iff_exists.mpr ⟨column.sqlType, resolved⟩⟩
  · rintro ⟨name, reference, named, refers, typed, resolves⟩
    obtain ⟨sqlType, resolved⟩ := Option.isSome_iff_exists.mp resolves
    exact ⟨⟨name, reference, sqlType, isNullable element⟩, named, refers, typed, resolved,
      by simp [isNullable]⟩

/-- Columns are those that are described inside a table element, in document order. -/
def ListsColumns (types : TypeTable) (table : Element) (columns : List Column) : Prop :=
  ListsInOrder (· < ·)
    (fun path => ∃ element,
      LeadsThrough ["complexType", "sequence", "element"] table path element ∧
        IsColumn types element)
    (fun path column => ∃ element,
      LeadsThrough ["complexType", "sequence", "element"] table path element ∧
        DescribesColumn types element column)
    columns

theorem listsColumns_filterMap (types : TypeTable) (table : Element) :
    ListsColumns types table ((columnElements table).filterMap (column? types)) := by
  have ordered := pairwise_follow ["complexType", "sequence", "element"] table
  have listed := listsInOrder_filterMap ordered (fun path element => mem_follow_iff)
    (column? types)
  rw [columnElements_eq_follow, List.filterMap_map]
  refine listed.congr ?_ ?_
  · intro path
    simp only [column?_isSome_iff]
  · intro path column
    simp only [column?_eq_some_iff, imp_self]

structure DescribesTable (types : TypeTable) (element : Element) (table : Table) : Prop where
  named : IsNamed element table.name
  columns : ListsColumns types element table.columns

theorem table?_eq {types : TypeTable} {element : Element} :
    table? types element =
      if nameOf element = "" then none
      else some ⟨nameOf element, (columnElements element).filterMap (column? types)⟩ := by
  rw [table?, examineTable]
  split
  · rfl
  · rw [TableFinding.table?, List.filterMap_map]
    rfl

theorem table?_isSome_iff {types : TypeTable} {element : Element} :
    (table? types element).isSome = true ↔ ∃ name, IsNamed element name := by
  rw [table?_eq]
  split
  · rename_i blank
    simp only [Option.isSome_none, Bool.false_eq_true, false_iff, not_exists]
    rintro name ⟨given, visible⟩
    rw [(nameOf_eq_iff visible).mpr given] at blank
    exact visible blank
  · rename_i visible
    simp only [Option.isSome_some, true_iff]
    exact ⟨nameOf element, (nameOf_eq_iff visible).mp rfl, visible⟩

theorem describesTable_of_table? {types : TypeTable} {element : Element} {table : Table}
    (found : table? types element = some table) : DescribesTable types element table := by
  rw [table?_eq] at found
  split at found
  · cases found
  · rename_i visible
    cases found
    exact ⟨⟨(nameOf_eq_iff visible).mp rfl, visible⟩, listsColumns_filterMap types element⟩

/-- Where a table is described: the position of a dataset, and child numbers from there. -/
structure TablePlace where
  dataset : List Nat
  steps : List Nat

namespace TablePlace

def path (place : TablePlace) : List Nat :=
  place.dataset ++ place.steps

/-- Tables come in the order of their datasets, and inside a dataset in document order. -/
def Before (first second : TablePlace) : Prop :=
  first.dataset < second.dataset ∨ first.dataset = second.dataset ∧ first.steps < second.steps

end TablePlace

def StandsAt (document : Document) (place : TablePlace) (element : Element) : Prop :=
  ∃ dataset, document.root.descend? place.dataset = some dataset ∧ IsMarkedDataset dataset ∧
    LeadsThrough ["complexType", "choice", "element"] dataset place.steps element

def placesIn (entry : List Nat × Element) : List (TablePlace × Element) :=
  (follow ["complexType", "choice", "element"] entry.2).map fun found =>
    (⟨entry.1, found.1⟩, found.2)

def places (document : Document) : List (TablePlace × Element) :=
  (document.root.located.filter fun entry => isDataset entry.2).flatMap placesIn

theorem mem_places_iff {document : Document} {place : TablePlace} {element : Element} :
    (place, element) ∈ places document ↔ StandsAt document place element := by
  simp only [places, placesIn, StandsAt, List.mem_flatMap, List.mem_filter, List.mem_map,
    Prod.exists, Element.mem_located_iff, isDataset_iff, mem_follow_iff, Prod.mk.injEq]
  constructor
  · rintro ⟨path, dataset, ⟨stands, marked⟩, steps, found, leads, rfl, rfl⟩
    exact ⟨dataset, stands, marked, leads⟩
  · rintro ⟨dataset, stands, marked, leads⟩
    exact ⟨place.dataset, dataset, ⟨stands, marked⟩, place.steps, element, leads, rfl, rfl⟩

theorem pairwise_places (document : Document) :
    (places document).Pairwise fun first second => first.1.Before second.1 := by
  rw [places, List.pairwise_flatMap]
  constructor
  · intro entry _
    rw [placesIn, List.pairwise_map]
    exact (pairwise_follow _ entry.2).imp fun less => .inr ⟨rfl, less⟩
  · refine ((Element.pairwise_located document.root).filter _).imp ?_
    intro first second less
    simp only [placesIn, List.mem_map]
    rintro _ ⟨early, _, rfl⟩ _ ⟨late, _, rfl⟩
    exact .inl less

theorem tables_eq_filterMap (types : TypeTable) (document : Document) :
    tables types document = (places document).filterMap fun entry => table? types entry.2 := by
  have elements : (datasets document).flatMap tableElements = (places document).map Prod.snd := by
    rw [datasets, Document.elements_eq_preorder, ← Element.map_snd_located, List.filter_map,
      List.flatMap_map, places, List.map_flatMap]
    refine List.flatMap_congr fun entry _ => ?_
    simp [tableElements_eq_follow, placesIn, Function.comp_def]
  rw [tables, survey, elements, List.filterMap_map, List.filterMap_map]
  rfl

/-- Two places of tables are the same if they are the same position of the document. -/
theorem StandsAt.place_eq {document : Document} {first second : TablePlace}
    {element found : Element} (early : StandsAt document first element)
    (late : StandsAt document second found) (same : first.path = second.path) :
    first = second := by
  obtain ⟨_, _, _, leads⟩ := early
  obtain ⟨_, _, _, leads'⟩ := late
  have equal := leads.length_eq.trans leads'.length_eq.symm
  obtain ⟨sameDataset, sameSteps⟩ := List.append_inj' same equal
  cases first
  cases second
  exact congrArg₂ TablePlace.mk sameDataset sameSteps

/--
The tables of a schema are, in the order of their places, exactly those that
are described by a named element at a place of a dataset; and no two of the
places are one position of the document.
-/
theorem tables_listed_by_place (types : TypeTable) (document : Document) :
    ListsInOrder TablePlace.Before
      (fun place => ∃ element, StandsAt document place element ∧ ∃ name, IsNamed element name)
      (fun place table => ∃ element, StandsAt document place element ∧
        DescribesTable types element table)
      (tables types document) ∧
    ∀ first second element found, StandsAt document first element →
      StandsAt document second found → first.path = second.path → first = second := by
  refine ⟨?_, fun first second element found early late => early.place_eq late⟩
  have listed := listsInOrder_filterMap (pairwise_places document)
    (fun place element => mem_places_iff) (table? types)
  rw [tables_eq_filterMap]
  refine listed.congr ?_ ?_
  · intro place
    simp only [table?_isSome_iff]
  · rintro place table ⟨element, stands, found⟩
    exact ⟨element, stands, describesTable_of_table? found⟩

end Schema

end SchemaScript
