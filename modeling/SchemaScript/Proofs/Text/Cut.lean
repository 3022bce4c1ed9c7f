import SchemaScript.Text.Cut

/-!
# What a cut depends on

Where a text is cut depends on the text before the cut and on the marker there,
and on nothing that follows.
-/

namespace SchemaScript

namespace Text

variable {marker text : List Char}

theorem cut?_append_self (marker rest : List Char) :
    cut? marker (marker ++ rest) = some ([], rest) := by
  cases whole : marker ++ rest with
  | nil =>
      obtain ⟨rfl, rfl⟩ := List.append_eq_nil_iff.mp whole
      rfl
  | cons first text => rw [cut?, ← whole, after?_append]

/-- A marker is found exactly if it stands somewhere in the text. -/
theorem cut?_isSome_iff : (cut? marker text).isSome = true ↔ marker <:+: text := by
  constructor
  · intro found
    obtain ⟨⟨before, rest⟩, cut⟩ := Option.isSome_iff_exists.mp found
    exact ⟨before, rest, by rw [append_of_cut? cut, List.append_assoc]⟩
  · rintro ⟨before, rest, rfl⟩
    induction before with
    | nil => simp [cut?_append_self]
    | cons first before ih =>
        rw [List.cons_append, List.cons_append, cut?]
        split
        · rfl
        · simpa using ih

theorem after?_eq_none_iff : after? marker text = none ↔ ¬ marker <+: text := by
  simp [after?]

theorem isPrefix_append_iff {front : List Char} (short : marker.length ≤ front.length)
    (rest : List Char) : marker <+: front ++ rest ↔ marker <+: front :=
  ⟨fun starts => List.prefix_of_prefix_length_le starts (List.prefix_append front rest) short,
    fun starts => starts.trans (List.prefix_append front rest)⟩

/-- A cut stays where it is if the text behind it is another. -/
theorem cut?_append_other {before rest : List Char} (found : cut? marker text = some (before, rest))
    (other : List Char) : cut? marker (before ++ (marker ++ other)) = some (before, other) := by
  induction text generalizing before with
  | nil =>
      obtain ⟨tail, -, same⟩ := Option.map_eq_some_iff.mp found
      cases same
      exact cut?_append_self marker other
  | cons first text ih =>
      unfold cut? at found
      split at found
      · cases found
        exact cut?_append_self marker other
      · rename_i missed
        obtain ⟨⟨inner, tail⟩, cut, same⟩ := Option.map_eq_some_iff.mp found
        cases same
        -- A marker that starts before the cut would end before the text behind it.
        have short : marker.length ≤ (first :: (inner ++ marker)).length := by
          simp only [List.length_cons, List.length_append]
          omega
        have missedStill : after? marker (first :: (inner ++ (marker ++ other))) = none := by
          rw [after?_eq_none_iff, append_of_cut? cut, ← List.append_assoc, ← List.cons_append,
            isPrefix_append_iff short] at missed
          rwa [after?_eq_none_iff, ← List.append_assoc, ← List.cons_append,
            isPrefix_append_iff short]
        rw [List.cons_append, cut?, missedStill, ih cut]
        rfl

/-- A marker whose last character stands nowhere else in it does not overlap itself. -/
theorem not_isPrefix_of_free {front content : List Char} {mark : Char} (single : mark ∉ front)
    (free : ¬ front ++ [mark] <:+: content) (some : content ≠ []) (rest : List Char) :
    ¬ front ++ [mark] <+: content ++ (front ++ [mark] ++ rest) := by
  intro starts
  rcases List.prefix_or_prefix_of_prefix starts (List.prefix_append content _) with
    inside | ⟨tail, shape⟩
  · exact free inside.isInfix
  · rw [← shape, List.prefix_append_right_inj, shape, List.append_assoc] at starts
    have lengths := congrArg List.length shape
    have front_le : tail.length ≤ front.length := by
      have := List.length_pos_iff.mpr some
      simp only [List.length_append, List.length_cons, List.length_nil] at lengths
      omega
    have within : tail <+: front := (isPrefix_append_iff front_le _).mp starts
    rcases List.eq_nil_or_concat tail with rfl | ⟨before, last, rfl⟩
    · rw [List.append_nil] at shape
      exact free (shape ▸ List.infix_rfl)
    · rw [List.concat_eq_append, ← List.append_assoc] at shape
      have same : last = mark := (List.append_inj' shape rfl).2 |> List.singleton_inj.mp
      exact single (within.subset (by simp [same]))

/-- A text without such a marker reaches up to the marker that follows it. -/
theorem cut?_append_of_free {front content : List Char} {mark : Char} (single : mark ∉ front)
    (free : ¬ front ++ [mark] <:+: content) (rest : List Char) :
    cut? (front ++ [mark]) (content ++ (front ++ [mark] ++ rest)) = some (content, rest) := by
  induction content with
  | nil => exact cut?_append_self (front ++ [mark]) rest
  | cons first content ih =>
      have missed := after?_eq_none_iff.mpr
        (not_isPrefix_of_free single free (List.cons_ne_nil first content) rest)
      rw [List.cons_append] at missed
      rw [List.cons_append, cut?, missed, ih fun found => free (List.infix_cons found)]
      rfl

end Text

end SchemaScript
