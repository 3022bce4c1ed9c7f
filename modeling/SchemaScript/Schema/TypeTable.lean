/-!
# Type tables

A type table gives column types to the type references of a schema.  A
reference is looked up exactly as it is written.  The entries are kept in
strictly increasing order of their references, so a table is determined by what
it resolves: two tables that resolve every reference alike are equal.
-/

namespace SchemaScript

namespace Schema

/-- A finite map from type references to column types. -/
structure TypeTable where
  entries : List (String × String)
  increasing : entries.Pairwise fun first second => first.1 < second.1

instance : DecidableEq TypeTable := fun first second =>
  decidable_of_iff (first.entries = second.entries) (by cases first; cases second; simp)

namespace TypeTable

def empty : TypeTable :=
  ⟨[], .nil⟩

/-- Sets the value of a key in increasing entries. -/
def insertEntry (key value : String) : List (String × String) → List (String × String)
  | [] => [(key, value)]
  | first :: rest =>
    if key < first.1 then
      (key, value) :: first :: rest
    else if first.1 < key then
      first :: insertEntry key value rest
    else
      (key, value) :: rest

private theorem mem_insertEntry {key value : String} {entries : List (String × String)}
    {entry : String × String} (member : entry ∈ insertEntry key value entries) :
    entry = (key, value) ∨ entry ∈ entries := by
  induction entries with
  | nil => simpa [insertEntry] using member
  | cons first rest ih =>
      unfold insertEntry at member
      split at member
      · simpa using member
      · split at member
        · cases member with
          | head => exact Or.inr (by simp)
          | tail _ member =>
              cases ih member with
              | inl same => exact Or.inl same
              | inr member => exact Or.inr (by simp [member])
        · cases member with
          | head => exact Or.inl rfl
          | tail _ member => exact Or.inr (.tail _ member)

private theorem increasing_insertEntry (key value : String) {entries : List (String × String)}
    (increasing : entries.Pairwise fun first second => first.1 < second.1) :
    (insertEntry key value entries).Pairwise fun first second => first.1 < second.1 := by
  induction entries with
  | nil => simp [insertEntry]
  | cons first rest ih =>
      have ⟨before, later⟩ := List.pairwise_cons.mp increasing
      unfold insertEntry
      split
      · rename_i below
        refine List.pairwise_cons.mpr ⟨fun entry member => ?_, increasing⟩
        cases member with
        | head => exact below
        | tail _ member => exact String.lt_trans below (before entry member)
      · split
        · rename_i above
          refine List.pairwise_cons.mpr ⟨fun entry member => ?_, ih later⟩
          cases mem_insertEntry member with
          | inl same => exact same ▸ above
          | inr member => exact before entry member
        · rename_i notBelow notAbove
          have same : key = first.1 :=
            String.le_antisymm (String.not_lt.mp notAbove) (String.not_lt.mp notBelow)
          exact List.pairwise_cons.mpr ⟨fun entry member => same ▸ before entry member, later⟩

def insert (table : TypeTable) (reference columnType : String) : TypeTable :=
  ⟨insertEntry reference columnType table.entries,
    increasing_insertEntry reference columnType table.increasing⟩

/-- The table of some pairs; a later pair replaces an earlier one. -/
def ofPairs (pairs : List (String × String)) : TypeTable :=
  pairs.foldl (fun table pair => table.insert pair.1 pair.2) empty

def resolve? (table : TypeTable) (reference : String) : Option String :=
  (table.entries.find? fun entry => entry.1 = reference).map Prod.snd

def contains (table : TypeTable) (reference : String) : Bool :=
  table.entries.any fun entry => entry.1 = reference

def size (table : TypeTable) : Nat :=
  table.entries.length

def isEmpty (table : TypeTable) : Bool :=
  table.entries.isEmpty

private theorem find?_insertEntry (key value reference : String)
    (entries : List (String × String))
    (increasing : entries.Pairwise fun first second => first.1 < second.1) :
    ((insertEntry key value entries).find? fun entry => entry.1 = reference).map Prod.snd =
      if key = reference then some value
      else (entries.find? fun entry => entry.1 = reference).map Prod.snd := by
  induction entries with
  | nil => by_cases same : key = reference <;> simp [insertEntry, same]
  | cons first rest ih =>
      have ⟨before, later⟩ := List.pairwise_cons.mp increasing
      unfold insertEntry
      split
      · by_cases same : key = reference <;> simp [same]
      · split
        · rename_i above
          by_cases hit : first.1 = reference
          · have other : key ≠ reference := by
              intro same
              exact String.lt_irrefl _ (hit ▸ same ▸ above)
            simp [hit, other]
          · simpa [List.find?_cons, hit] using ih later
        · rename_i notBelow notAbove
          have same : key = first.1 :=
            String.le_antisymm (String.not_lt.mp notAbove) (String.not_lt.mp notBelow)
          by_cases hit : key = reference
          · simp [hit]
          · have miss : first.1 ≠ reference := same ▸ hit
            simp [hit, miss]

/-- Inserting changes what one reference resolves to and nothing else. -/
theorem resolve?_insert (table : TypeTable) (key value reference : String) :
    (table.insert key value).resolve? reference =
      if key = reference then some value else table.resolve? reference :=
  find?_insertEntry key value reference table.entries table.increasing

theorem contains_eq_isSome (table : TypeTable) (reference : String) :
    table.contains reference = (table.resolve? reference).isSome := by
  unfold contains resolve?
  rw [Option.isSome_map, List.isSome_find?]

end TypeTable

end Schema

end SchemaScript
