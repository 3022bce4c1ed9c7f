/-!
# Cutting texts

Texts are lists of characters while they are being read.  This file measures
them in bytes of their UTF-8 form and cuts them around the first occurrence of
a marker.  A cut loses nothing: the two parts and the marker between them give
the text back.
-/

namespace SchemaScript

namespace Text

/-- Number of bytes of the UTF-8 form of a text. -/
def byteLength (text : List Char) : Nat :=
  text.foldr (fun char total => char.utf8Size + total) 0

/-- The rest of a text after an opening marker, if the text starts with it. -/
def after? (marker : List Char) (text : List Char) : Option (List Char) :=
  if marker <+: text then some (text.drop marker.length) else none

theorem append_of_after? {marker text rest : List Char}
    (found : after? marker text = some rest) : text = marker ++ rest := by
  unfold after? at found
  split at found
  · rename_i starts
    obtain ⟨tail, rfl⟩ := starts
    simp at found
    rw [found]
  · simp at found

@[simp]
theorem after?_append (marker rest : List Char) : after? marker (marker ++ rest) = some rest := by
  simp [after?]

@[simp]
theorem after?_singleton (mark : Char) (rest : List Char) :
    after? [mark] (mark :: rest) = some rest :=
  after?_append [mark] rest

theorem after?_eq_some_iff {marker text rest : List Char} :
    after? marker text = some rest ↔ text = marker ++ rest := by
  constructor
  · exact append_of_after?
  · rintro rfl
    exact after?_append marker rest

/-- The parts of a text before and after the first occurrence of a marker. -/
def cut? (marker : List Char) : List Char → Option (List Char × List Char)
  | [] => (after? marker []).map fun rest => ([], rest)
  | first :: text =>
    match after? marker (first :: text) with
    | some rest => some ([], rest)
    | none => (cut? marker text).map fun parts => (first :: parts.1, parts.2)

theorem append_of_cut? {marker text before rest : List Char}
    (found : cut? marker text = some (before, rest)) : text = before ++ (marker ++ rest) := by
  induction text generalizing before with
  | nil =>
      obtain ⟨tail, starts, same⟩ := Option.map_eq_some_iff.mp found
      cases same
      simpa using append_of_after? starts
  | cons first text ih =>
      unfold cut? at found
      split at found
      · rename_i tail starts
        cases found
        simpa using append_of_after? starts
      · obtain ⟨⟨inner, tail⟩, cut, same⟩ := Option.map_eq_some_iff.mp found
        cases same
        rw [ih cut]
        rfl

theorem cut?_cons_of_ne {mark first : Char} (other : first ≠ mark) (marker text : List Char) :
    cut? (mark :: marker) (first :: text) =
      (cut? (mark :: marker) text).map fun parts => (first :: parts.1, parts.2) := by
  have missed : after? (mark :: marker) (first :: text) = none := by
    rw [after?, if_neg]
    intro starts
    exact other (List.cons_prefix_cons.mp starts).1.symm
  rw [cut?, missed]

/-- A search for a marker passes over characters that are not the first of it. -/
theorem cut?_append_of_ne {mark : Char} {before : List Char} (free : mark ∉ before)
    (marker text : List Char) :
    cut? (mark :: marker) (before ++ text) =
      (cut? (mark :: marker) text).map fun parts => (before ++ parts.1, parts.2) := by
  induction before with
  | nil => simp
  | cons first before ih =>
      rw [List.mem_cons, not_or] at free
      rw [List.cons_append, cut?_cons_of_ne (Ne.symm free.1), ih free.2, Option.map_map]
      rfl

theorem cut?_append_of_not_mem {marker : Char} {before : List Char} (absent : marker ∉ before)
    (rest : List Char) : cut? [marker] (before ++ marker :: rest) = some (before, rest) := by
  rw [cut?_append_of_ne absent, cut?, after?_singleton]
  simp

theorem cut?_of_not_mem {marker : Char} {text : List Char} (absent : marker ∉ text) :
    cut? [marker] text = none := by
  have missed := cut?_append_of_ne absent [] []
  simpa [cut?, after?] using missed

theorem eq_and_eq_of_append_cons_eq {marker : Char} {first second rest more : List Char}
    (firstFree : marker ∉ first) (secondFree : marker ∉ second)
    (same : first ++ marker :: rest = second ++ marker :: more) :
    first = second ∧ rest = more := by
  have cut := cut?_append_of_not_mem firstFree rest
  rw [same, cut?_append_of_not_mem secondFree] at cut
  simp only [Option.some.injEq, Prod.mk.injEq] at cut
  exact ⟨cut.1.symm, cut.2.symm⟩

/-- What a search passes over, and what it leaves, if it stops where the rest begins. -/
theorem span_append {passes : Char → Bool} {inside rest : List Char}
    (passed : ∀ char ∈ inside, passes char = true)
    (stopped : ∀ char ∈ rest.head?, passes char = false) :
    (inside ++ rest).takeWhile passes = inside ∧ (inside ++ rest).dropWhile passes = rest := by
  rw [List.takeWhile_append_of_pos passed, List.dropWhile_append_of_pos passed]
  cases rest with
  | nil => simp
  | cons first rest => simp [stopped first rfl]

/-- A text without its first bytes; a character is not divided. -/
def dropBytes? : Nat → List Char → Option (List Char)
  | 0, text => some text
  | _ + 1, [] => none
  | count + 1, first :: rest =>
    if first.utf8Size ≤ count + 1 then dropBytes? (count + 1 - first.utf8Size) rest else none

def takeBytes? : Nat → List Char → Option (List Char)
  | 0, _ => some []
  | _ + 1, [] => none
  | count + 1, first :: rest =>
    if first.utf8Size ≤ count + 1 then
      (takeBytes? (count + 1 - first.utf8Size) rest).map (first :: ·)
    else
      none

def slice? (start finish : Nat) (text : List Char) : Option (List Char) :=
  (dropBytes? start text).bind (takeBytes? (finish - start))

end Text

end SchemaScript
