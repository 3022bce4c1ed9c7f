import SchemaScript.Encoding.Document

/-!
# Texts byte by byte

The declaration of a document is looked for before the encoding is known, in a
text that has one character for each byte.  If the bytes are in UTF-8, such a
text is spread out: an ASCII character stands for itself, and every other one
becomes a row of characters beyond ASCII.  What is searched for in a
declaration is ASCII, so it is found at the same places in both texts.
-/

namespace SchemaScript

namespace Encoding

def IsAscii (char : Char) : Prop :=
  char.toNat < 128

instance (char : Char) : Decidable (IsAscii char) :=
  inferInstanceAs (Decidable (char.toNat < 128))

def AllAscii (text : List Char) : Prop :=
  ∀ char ∈ text, IsAscii char

instance (text : List Char) : Decidable (AllAscii text) :=
  List.decidableBAll IsAscii text

theorem allAscii_cons {first : Char} {text : List Char} :
    AllAscii (first :: text) ↔ IsAscii first ∧ AllAscii text :=
  List.forall_mem_cons

theorem not_mem_of_ascii {chars : List Char} {char : Char} (ascii : AllAscii chars)
    (other : ¬ IsAscii char) : char ∉ chars :=
  fun member => other (ascii char member)

theorem exists_not_isAscii {text : List Char} (beyond : ¬ AllAscii text) :
    ∃ char ∈ text, ¬ IsAscii char := by
  simpa [AllAscii] using beyond

/-- The text that the bytes of another in UTF-8 are read as, one character for each byte. -/
def spread (text : List Char) : List Char :=
  bytewise (Utf8.encode text)

@[simp]
theorem spread_nil : spread [] = [] :=
  rfl

theorem spread_append (first second : List Char) :
    spread (first ++ second) = spread first ++ spread second := by
  rw [spread, Utf8.encode_append, bytewise, List.map_append]
  rfl

section Characters

variable {char : Char}

theorem toNat_ofNat_byte (byte : UInt8) : (Char.ofNat byte.toNat).toNat = byte.toNat := by
  have small := byte.toNat_lt
  have valid : byte.toNat.isValidChar := .inl (by omega)
  rw [Char.ofNat, dif_pos valid]
  rfl

theorem utf8EncodeChar_of_isAscii (ascii : IsAscii char) :
    String.utf8EncodeChar char = [UInt8.ofNat char.toNat] := by
  have small : char.val.toNat ≤ 127 := Nat.le_of_lt_succ ascii
  unfold String.utf8EncodeChar
  simp only [small, if_true]
  rfl

/-- The bytes of a character beyond ASCII lie beyond ASCII too, and end before `0xF8`. -/
theorem toNat_mem_utf8EncodeChar (other : ¬ IsAscii char) :
    ∀ byte ∈ String.utf8EncodeChar char, 128 ≤ byte.toNat ∧ byte.toNat < 0xF8 := by
  have large : ¬ char.val.toNat ≤ 127 := fun small => other (Nat.lt_succ_of_le small)
  unfold String.utf8EncodeChar
  simp only [large, if_false]
  split
  · intro byte member
    simp only [List.mem_cons, List.not_mem_nil, or_false] at member
    rcases member with rfl | rfl <;> (rw [UInt8.toNat_ofNat']; omega)
  · split
    · intro byte member
      simp only [List.mem_cons, List.not_mem_nil, or_false] at member
      rcases member with rfl | rfl | rfl <;> (rw [UInt8.toNat_ofNat']; omega)
    · intro byte member
      simp only [List.mem_cons, List.not_mem_nil, or_false] at member
      rcases member with rfl | rfl | rfl | rfl <;> (rw [UInt8.toNat_ofNat']; omega)

theorem spread_cons_of_isAscii (ascii : IsAscii char) (rest : List Char) :
    spread (char :: rest) = char :: spread rest := by
  have small : char.toNat < 256 := Nat.lt_trans ascii (by decide)
  have value : (UInt8.ofNat char.toNat).toNat = char.toNat := by
    rw [UInt8.toNat_ofNat', Nat.mod_eq_of_lt small]
  simp [spread, Utf8.encode, bytewise, utf8EncodeChar_of_isAscii ascii, value,
    Char.ofNat_toNat]

theorem spread_cons_of_not_isAscii (other : ¬ IsAscii char) :
    ∃ first more, (∀ char ∈ first :: more, ¬ IsAscii char) ∧
      ∀ rest, spread (char :: rest) = first :: (more ++ spread rest) := by
  have bytes := toNat_mem_utf8EncodeChar other
  have far (byte : UInt8) (member : byte ∈ String.utf8EncodeChar char) :
      ¬ IsAscii (Char.ofNat byte.toNat) := by
    have bounds := bytes byte member
    rw [IsAscii, toNat_ofNat_byte]
    omega
  cases written : String.utf8EncodeChar char with
  | nil => exact absurd written String.utf8EncodeChar_ne_nil
  | cons first more =>
      rw [written] at far
      refine ⟨Char.ofNat first.toNat, more.map fun byte => Char.ofNat byte.toNat, ?_, ?_⟩
      · rw [List.forall_mem_cons, List.forall_mem_map]
        exact List.forall_mem_cons.mp far
      · intro rest
        simp [spread, Utf8.encode, bytewise, written]

theorem exists_spread_cons (char : Char) :
    ∃ first more, (∀ char ∈ more, ¬ IsAscii char) ∧
      ∀ rest, spread (char :: rest) = first :: (more ++ spread rest) := by
  by_cases plain : IsAscii char
  · exact ⟨char, [], by simp, fun rest => spread_cons_of_isAscii plain rest⟩
  · obtain ⟨first, more, far, shape⟩ := spread_cons_of_not_isAscii plain
    exact ⟨first, more, (List.forall_mem_cons.mp far).2, shape⟩

end Characters

section Searches

variable {text marker rest : List Char}

theorem exists_of_spread_eq_append (ascii : AllAscii marker)
    (same : spread text = marker ++ rest) :
    ∃ tail, text = marker ++ tail ∧ spread tail = rest := by
  induction marker generalizing text with
  | nil => exact ⟨text, rfl, same⟩
  | cons char marker ih =>
      rw [allAscii_cons] at ascii
      cases text with
      | nil => simp at same
      | cons first text =>
          by_cases plain : IsAscii first
          · rw [spread_cons_of_isAscii plain, List.cons_append, List.cons.injEq] at same
            obtain ⟨tail, rfl, spreadTail⟩ := ih ascii.2 same.2
            exact ⟨tail, by rw [same.1, List.cons_append], spreadTail⟩
          · obtain ⟨head, more, far, shape⟩ := spread_cons_of_not_isAscii plain
            rw [shape, List.cons_append, List.cons.injEq] at same
            exact absurd (same.1 ▸ ascii.1) (far head List.mem_cons_self)

theorem spread_of_ascii (ascii : AllAscii text) : spread text = text := by
  induction text with
  | nil => rfl
  | cons first text ih =>
      rw [allAscii_cons] at ascii
      rw [spread_cons_of_isAscii ascii.1, ih ascii.2]

theorem spread_eq_iff_of_ascii (ascii : AllAscii marker) :
    spread text = marker ↔ text = marker := by
  constructor
  · intro same
    rw [← List.append_nil marker] at same
    obtain ⟨tail, rfl, nothing⟩ := exists_of_spread_eq_append ascii same
    cases tail with
    | nil => rw [List.append_nil]
    | cons first tail =>
        by_cases plain : IsAscii first
        · rw [spread_cons_of_isAscii plain] at nothing
          cases nothing
        · obtain ⟨head, more, -, shape⟩ := spread_cons_of_not_isAscii plain
          rw [shape] at nothing
          cases nothing
  · rintro rfl
    exact spread_of_ascii ascii

theorem after?_spread (ascii : AllAscii marker) (text : List Char) :
    Text.after? marker (spread text) = (Text.after? marker text).map spread := by
  ext rest
  rw [Text.after?_eq_some_iff, Option.map_eq_some_iff]
  simp only [Text.after?_eq_some_iff]
  constructor
  · exact exists_of_spread_eq_append ascii
  · rintro ⟨tail, rfl, rfl⟩
    rw [spread_append, spread_of_ascii ascii]

theorem cut?_spread {mark : Char} (ascii : AllAscii (mark :: marker))
    (text : List Char) :
    Text.cut? (mark :: marker) (spread text) =
      (Text.cut? (mark :: marker) text).map fun parts => (spread parts.1, spread parts.2) := by
  have opens := after?_spread ascii
  induction text with
  | nil =>
      have nothing := opens []
      rw [spread_nil] at nothing ⊢
      rw [Text.cut?, Option.map_map, nothing, Option.map_map]
      rfl
  | cons first text ih =>
      by_cases plain : IsAscii first
      · have found := opens (first :: text)
        rw [spread_cons_of_isAscii plain] at found ⊢
        rw [Text.cut?, Text.cut?, found]
        cases Text.after? (mark :: marker) (first :: text) with
        | some rest => rfl
        | none =>
            rw [Option.map_none]
            dsimp only
            rw [ih, Option.map_map, Option.map_map]
            simp [Function.comp_def, spread_cons_of_isAscii plain]
      · obtain ⟨head, more, far, shape⟩ := spread_cons_of_not_isAscii plain
        have other : first ≠ mark := by
          rintro rfl
          exact plain (ascii first List.mem_cons_self)
        have free : mark ∉ head :: more := by
          intro member
          exact far mark member (ascii mark List.mem_cons_self)
        rw [shape, ← List.cons_append, Text.cut?_append_of_ne free, ih, Text.cut?_cons_of_ne other,
          Option.map_map, Option.map_map]
        simp [Function.comp_def, shape]

end Searches

section Spans

variable {passes : Char → Bool} {beyond : Bool}

/-- Searches that treat all characters beyond ASCII alike stop at the same place. -/
theorem span_spread (uniform : ∀ char, ¬ IsAscii char → passes char = beyond)
    (text : List Char) :
    (spread text).takeWhile passes = spread (text.takeWhile passes) ∧
      (spread text).dropWhile passes = spread (text.dropWhile passes) := by
  induction text with
  | nil => exact ⟨rfl, rfl⟩
  | cons first text ih =>
      by_cases plain : IsAscii first
      · rw [spread_cons_of_isAscii plain]
        cases passed : passes first with
        | true => simp [passed, ih, spread_cons_of_isAscii plain]
        | false => simp [passed, spread_cons_of_isAscii plain]
      · obtain ⟨head, more, far, shape⟩ := spread_cons_of_not_isAscii plain
        have here := uniform first plain
        rw [shape]
        cases beyond with
        | true =>
            have passed : ∀ char ∈ head :: more, passes char = true :=
              fun char member => uniform char (far char member)
            rw [← List.cons_append, List.takeWhile_append_of_pos passed,
              List.dropWhile_append_of_pos passed]
            simp [here, ih, shape]
        | false =>
            have stopped : passes head = false := uniform head (far head List.mem_cons_self)
            simp [here, stopped, shape]

end Spans

end Encoding

end SchemaScript
