import Mathlib.Data.Finset.Card
import SchemaScript.Schema.TypeTable

/-!
# What type tables resolve

A table made of pairs resolves a reference by the last pair for it, so earlier
pairs for the same reference leave no trace.  It has one entry for each
reference among the pairs.  Since entries are kept in increasing order, tables
that resolve every reference alike are equal, whatever pairs they are made of.
-/

namespace SchemaScript

namespace Schema

/-- The last of some pairs for a reference gives it this column type. -/
def LastPair (pairs : List (String × String)) (reference columnType : String) : Prop :=
  ∃ before after, pairs = before ++ (reference, columnType) :: after ∧
    ∀ pair ∈ after, pair.1 ≠ reference

section Pairs

variable {pairs : List (String × String)} {reference columnType : String}

theorem find?_eq_none_iff_not_mem :
    (pairs.find? fun pair => pair.1 = reference).map Prod.snd = none ↔
      reference ∉ pairs.map Prod.fst := by
  simp only [Option.map_eq_none_iff, List.find?_eq_none, decide_eq_true_eq, List.mem_map,
    not_exists, not_and]

theorem find?_eq_some_iff_mem (distinct : (pairs.map Prod.fst).Nodup) :
    (pairs.find? fun pair => pair.1 = reference).map Prod.snd = some columnType ↔
      (reference, columnType) ∈ pairs := by
  have read {pair : String × String}
      (found : (pairs.find? fun pair => pair.1 = reference) = some pair) :
      pair ∈ pairs ∧ pair.1 = reference :=
    ⟨List.mem_of_find?_eq_some found, by simpa using List.find?_some found⟩
  rw [Option.map_eq_some_iff]
  constructor
  · rintro ⟨pair, found, rfl⟩
    exact (read found).2 ▸ (read found).1
  · intro member
    have present : (pairs.find? fun pair => pair.1 = reference).isSome := by
      rw [List.find?_isSome]
      exact ⟨_, member, decide_eq_true rfl⟩
    obtain ⟨pair, found⟩ := Option.isSome_iff_exists.mp present
    have same : pair = (reference, columnType) :=
      List.inj_on_of_nodup_map distinct (read found).1 member (read found).2
    exact ⟨pair, found, congrArg Prod.snd same⟩

theorem find?_reverse_eq_some_iff :
    (pairs.reverse.find? fun pair => pair.1 = reference).map Prod.snd = some columnType ↔
      LastPair pairs reference columnType := by
  simp only [Option.map_eq_some_iff, List.find?_eq_some_iff_append, decide_eq_true_eq]
  constructor
  · rintro ⟨pair, ⟨rfl, later, earlier, split, others⟩, rfl⟩
    refine ⟨earlier.reverse, later.reverse, ?_, by simpa using others⟩
    rw [List.reverse_eq_iff.mp split, List.reverse_append, List.reverse_cons, List.append_assoc,
      List.singleton_append]
  · rintro ⟨before, after, rfl, others⟩
    refine ⟨(reference, columnType), ⟨rfl, after.reverse, before.reverse, ?_, ?_⟩, rfl⟩
    · rw [List.reverse_append, List.reverse_cons, List.append_assoc, List.singleton_append]
    · simpa using others

end Pairs

namespace TypeTable

theorem nodup_references (table : TypeTable) : (table.entries.map Prod.fst).Nodup := by
  rw [List.Nodup, List.pairwise_map]
  refine table.increasing.imp ?_
  intro first second less same
  exact String.lt_irrefl _ (same ▸ less)

theorem resolve?_eq_some_iff {table : TypeTable} {reference columnType : String} :
    table.resolve? reference = some columnType ↔ (reference, columnType) ∈ table.entries :=
  find?_eq_some_iff_mem table.nodup_references

theorem resolve?_eq_none_iff {table : TypeTable} {reference : String} :
    table.resolve? reference = none ↔ reference ∉ table.entries.map Prod.fst :=
  find?_eq_none_iff_not_mem

theorem ext_entries {first second : TypeTable} (same : first.entries = second.entries) :
    first = second := by
  cases first
  cases second
  exact (mk.injEq ..).mpr same

/-- Tables are equal as soon as they resolve every reference alike. -/
theorem eq_iff_resolve?_eq {first second : TypeTable} :
    first = second ↔ ∀ reference, first.resolve? reference = second.resolve? reference := by
  constructor
  · rintro rfl _
    rfl
  · intro alike
    have members (entry : String × String) : entry ∈ first.entries ↔ entry ∈ second.entries := by
      rw [← resolve?_eq_some_iff, alike, resolve?_eq_some_iff]
    have permuted : first.entries.Perm second.entries :=
      (List.perm_ext_iff_of_nodup first.nodup_references.of_map
        second.nodup_references.of_map).mpr members
    -- The order is strict, so the same entries can stand in it in one way only.
    apply ext_entries
    exact permuted.eq_of_pairwise
      (fun _ _ _ _ less more => absurd (String.lt_trans less more) (String.lt_irrefl _))
      first.increasing second.increasing

theorem size_eq_card (table : TypeTable) :
    table.size = (table.entries.map Prod.fst).toFinset.card := by
  rw [List.toFinset_card_of_nodup table.nodup_references, List.length_map, size]

theorem ofPairs_concat (pairs : List (String × String)) (pair : String × String) :
    ofPairs (pairs ++ [pair]) = (ofPairs pairs).insert pair.1 pair.2 :=
  List.foldl_concat ..

/-- A look-up in the table is a search among the pairs that begins with the last one. -/
theorem resolve?_ofPairs (pairs : List (String × String)) (reference : String) :
    (ofPairs pairs).resolve? reference =
      (pairs.reverse.find? fun pair => pair.1 = reference).map Prod.snd := by
  induction pairs using List.reverseRecOn with
  | nil => rfl
  | append_singleton pairs pair ih =>
      rw [ofPairs_concat, resolve?_insert, ih, List.reverse_concat]
      by_cases same : pair.1 = reference
      · simp [same]
      · simp [same]

theorem resolve?_ofPairs_eq_none_iff {pairs : List (String × String)} {reference : String} :
    (ofPairs pairs).resolve? reference = none ↔ reference ∉ pairs.map Prod.fst := by
  rw [resolve?_ofPairs, find?_eq_none_iff_not_mem, List.map_reverse, List.mem_reverse]

theorem size_ofPairs (pairs : List (String × String)) :
    (ofPairs pairs).size = (pairs.map Prod.fst).toFinset.card := by
  rw [size_eq_card]
  congr 1
  ext reference
  rw [List.mem_toFinset, List.mem_toFinset, ← not_iff_not, ← resolve?_eq_none_iff,
    resolve?_ofPairs_eq_none_iff]

/--
The table of some pairs resolves a reference to what the last pair for it says,
and contains it exactly then.  Its size is the number of different references.
Two rows of pairs make the same table exactly if these resolve everything alike.
-/
theorem ofPairs_by_last_pairs :
    (∀ (pairs : List (String × String)) (reference : String),
      (∀ columnType, (ofPairs pairs).resolve? reference = some columnType ↔
        LastPair pairs reference columnType) ∧
      ((ofPairs pairs).resolve? reference = none ↔ ∀ pair ∈ pairs, pair.1 ≠ reference) ∧
      (ofPairs pairs).contains reference = ((ofPairs pairs).resolve? reference).isSome) ∧
    (∀ pairs : List (String × String),
      (ofPairs pairs).size = (pairs.map Prod.fst).toFinset.card) ∧
    ∀ first second : List (String × String),
      ofPairs first = ofPairs second ↔
        ∀ reference, (ofPairs first).resolve? reference = (ofPairs second).resolve? reference := by
  refine ⟨fun pairs reference => ⟨fun columnType => ?_, ?_, contains_eq_isSome ..⟩,
    size_ofPairs, fun first second => eq_iff_resolve?_eq⟩
  · rw [resolve?_ofPairs, find?_reverse_eq_some_iff]
  · simp only [resolve?_ofPairs_eq_none_iff, List.mem_map, not_exists, not_and]

end TypeTable

end Schema

end SchemaScript
