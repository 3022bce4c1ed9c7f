import SchemaScript.Proofs.Markup.Grammar

/-!
# Values read back

A written value expands to the value it was written for, whichever of its
characters were written by references, and it never holds the quote that ends it.
-/

namespace SchemaScript

namespace Markup

namespace Grammar

section Numerals

variable {base number : Nat} {text : List Char}

theorem hexValue?_of_isDigit {digit : Nat} {char : Char} (small : base ≤ 16)
    (written : IsDigit base digit char) : Text.hexValue? char = some digit := by
  have table : ∀ digit < 16, Text.hexValue? digit.digitChar = some digit ∧
      Text.hexValue? digit.digitChar.toUpper = some digit := by
    decide
  have values := table digit (Nat.lt_of_lt_of_le written.1 small)
  rcases written.2 with rfl | rfl
  · exact values.1
  · exact values.2

/-- No digit is mistaken for a sign, for the mark of a base, or for a delimiter. -/
theorem not_mem_of_isDigit {digit : Nat} {char : Char} (small : base ≤ 16)
    (written : IsDigit base digit char) :
    char ∉ ['+', '-', 'x', '&', ';', '"', '\x27'] := by
  have table : ∀ digit < 16,
      digit.digitChar ∉ ['+', '-', 'x', '&', ';', '"', '\x27'] ∧
        digit.digitChar.toUpper ∉ ['+', '-', 'x', '&', ';', '"', '\x27'] := by
    decide
  have free := table digit (Nat.lt_of_lt_of_le written.1 small)
  rcases written.2 with rfl | rfl
  · exact free.1
  · exact free.2

theorem not_mem_of_isNumeral (small : base ≤ 16) (written : IsNumeral base number text) :
    ∀ char ∈ text, char ∉ ['+', '-', 'x', '&', ';', '"', '\x27'] := by
  obtain ⟨digits, -, -, each⟩ := written
  induction each with
  | nil => simp
  | cons first _ ih =>
      intro char member
      rcases List.mem_cons.mp member with rfl | member
      · exact not_mem_of_isDigit small first
      · exact ih char member

theorem le_foldl_digits (positive : 0 < base) (digits : List Nat) (front : Nat) :
    front ≤ digits.foldl (fun front digit => front * base + digit) front := by
  induction digits generalizing front with
  | nil => exact Nat.le_refl front
  | cons digit digits ih =>
      calc
        front ≤ front * base := Nat.le_mul_of_pos_right front positive
        _ ≤ front * base + digit := Nat.le_add_right _ _
        _ ≤ _ := ih _

/-- Since a number only grows by further digits, none of its fronts is too large. -/
theorem continueNumber_eq_ok (positive : 0 < base) (small : base ≤ 16)
    {digits : List Nat} (written : List.Forall₂ (IsDigit base) digits text) (front : Nat)
    (fits : digits.foldl (fun front digit => front * base + digit) front <
      Reference.numberLimit) :
    Reference.continueNumber base front text =
      .ok (digits.foldl (fun front digit => front * base + digit) front) := by
  induction written generalizing front with
  | nil => rfl
  | @cons digit char digits text first rest ih =>
      have value : (Text.hexValue? char).filter (· < base) = some digit := by
        rw [hexValue?_of_isDigit small first]
        simp [Option.filter, first.1]
      have room : front * base + digit < Reference.numberLimit :=
        Nat.lt_of_le_of_lt (le_foldl_digits positive digits _) fits
      rw [Reference.continueNumber, value]
      dsimp only
      rw [if_pos room, ih _ fits]
      rfl

theorem readNumber_eq_ok (positive : 0 < base) (small : base ≤ 16)
    (written : IsNumeral base number text) (fits : number < Reference.numberLimit) :
    Reference.readNumber base text = .ok number := by
  have free := not_mem_of_isNumeral small written
  obtain ⟨digits, some, rfl, each⟩ := written
  unfold Reference.readNumber
  split
  · cases each
    exact absurd rfl some
  · exact absurd (free '+' (by simp)) (by decide)
  · exact absurd (free '-' (by simp)) (by decide)
  · exact continueNumber_eq_ok positive small each 0 fits

end Numerals

section Characters

variable {quote char : Char} {piece : List Char}

theorem toNat_lt_numberLimit (char : Char) : char.toNat < Reference.numberLimit := by
  have valid := char.valid
  rcases valid with small | ⟨-, small⟩
  all_goals
    simp only [Reference.numberLimit, Char.toNat]
    omega

theorem characterOf_toNat (free : char ≠ '\x00') :
    Reference.characterOf char.toNat = .ok char := by
  have nonzero : char.toNat ≠ 0 := by
    intro zero
    exact free (Char.ext (UInt32.toNat_inj.mp zero))
  have valid : char.toNat.isValidChar := char.valid
  rw [Reference.characterOf, if_neg nonzero, if_pos valid, Char.ofNat_toNat]

theorem readNumbered_decimal (free : char ≠ '\x00') {numeral : List Char}
    (written : IsNumeral 10 char.toNat numeral) :
    Reference.readNumbered numeral = .ok char := by
  have read := readNumber_eq_ok (by decide) (by decide) written (toNat_lt_numberLimit char)
  unfold Reference.readNumbered
  split
  · exact absurd (not_mem_of_isNumeral (by decide) written 'x' (by simp)) (by decide)
  · rw [read]
    exact characterOf_toNat free

theorem readNumbered_hexadecimal (free : char ≠ '\x00') {numeral : List Char}
    (written : IsNumeral 16 char.toNat numeral) :
    Reference.readNumbered ('x' :: numeral) = .ok char := by
  have read := readNumber_eq_ok (by decide) (by decide) written (toNat_lt_numberLimit char)
  simp only [Reference.readNumbered, read]
  exact characterOf_toNat free

/-- The text of a reference holds no delimiter. -/
theorem Names.not_mem {name : List Char} (names : Names char name) :
    ∀ inner ∈ name, inner ∉ ['&', ';', '"', '\x27'] := by
  have digits {base number : Nat} {numeral : List Char} (small : base ≤ 16)
      (written : IsNumeral base number numeral) :
      ∀ inner ∈ numeral, inner ∉ ['&', ';', '"', '\x27'] := by
    intro inner member
    have apart := not_mem_of_isNumeral small written inner member
    simp only [List.mem_cons, List.not_mem_nil, or_false, not_or] at apart ⊢
    exact apart.2.2.2
  cases names with
  | @word name known =>
      have table : ∀ entry ∈ [('<', "lt"), ('>', "gt"), ('&', "amp"), ('\x27', "apos"),
          ('"', "quot")], ∀ inner ∈ entry.2.toList, inner ∉ ['&', ';', '"', '\x27'] := by
        simp
      exact table _ known
  | decimal numbered =>
      rw [List.forall_mem_cons]
      exact ⟨by decide, digits (by decide) numbered⟩
  | hexadecimal numbered =>
      rw [List.forall_mem_cons, List.forall_mem_cons]
      exact ⟨by decide, by decide, digits (by decide) numbered⟩

theorem Names.resolve_eq_ok {name : List Char} (names : Names char name) (free : char ≠ '\x00')
    (offset : Nat) : Reference.resolve offset name = .ok char := by
  cases names with
  | @word name known =>
      have table : ∀ entry ∈ [('<', "lt"), ('>', "gt"), ('&', "amp"), ('\x27', "apos"),
          ('"', "quot")], Reference.resolve offset entry.2.toList = .ok entry.1 := by
        simp only [List.forall_mem_cons]
        exact ⟨rfl, rfl, rfl, rfl, rfl, by simp⟩
      exact table _ known
  | decimal numbered =>
      simp only [Reference.resolve, readNumbered_decimal free numbered]
      rfl
  | hexadecimal numbered =>
      simp only [Reference.resolve, readNumbered_hexadecimal free numbered]
      rfl

theorem expand_raw (raw : char ≠ '&') (offset : Nat) (rest : List Char) :
    Reference.expand offset (char :: rest) =
      (Reference.expand (offset + char.utf8Size) rest).map (char :: ·) := by
  rw [Reference.expand.eq_def]
  split
  · contradiction
  · rename_i same
    cases same
    exact absurd rfl raw
  · rename_i same
    cases same
    cases Reference.expand (offset + char.utf8Size) rest <;> rfl

theorem expand_reference {name : List Char} (names : Names char name) (free : char ≠ '\x00')
    (offset : Nat) (rest : List Char) :
    Reference.expand offset ('&' :: (name ++ ';' :: rest)) =
      (Reference.expand (offset + Text.byteLength name + 2) rest).map (char :: ·) := by
  have inside : ∀ inner ∈ name, (!Reference.endsSearch inner) = true := by
    intro inner member
    have apart := names.not_mem inner member
    simp only [List.mem_cons, not_or] at apart
    simp [Reference.endsSearch, apart]
  have stopped : ∀ char ∈ (';' :: rest).head?, (!Reference.endsSearch char) = false := by
    intro char head
    cases head
    rfl
  obtain ⟨taken, ended⟩ := Text.span_append inside stopped
  rw [Reference.expand.eq_def]
  split
  · contradiction
  · rename_i same
    cases same
    split
    · rename_i remaining found
      rw [ended] at found
      cases found
      simp only [taken, names.resolve_eq_ok free offset]
      cases Reference.expand (offset + Text.byteLength name + 2) rest <;> rfl
    · rename_i missed
      exact absurd ended (missed rest)
  · rename_i other same
    cases same
    exact absurd rfl other

/-- A written character is read back, and what follows it is read as it stands. -/
theorem expand_piece (written : WritesChar quote char piece) (free : char ≠ '\x00')
    (offset : Nat) (rest : List Char) :
    ∃ later, Reference.expand offset (piece ++ rest) =
      (Reference.expand later rest).map (char :: ·) := by
  cases written with
  | raw plain =>
      have other : char ≠ '&' := by
        intro same
        simp [same] at plain
      exact ⟨_, expand_raw other offset rest⟩
  | @reference name names =>
      have read := expand_reference names free offset rest
      exact ⟨_, by simpa using read⟩

theorem quote_not_mem_piece (quotes : quote ∈ ['"', '\x27'])
    (written : WritesChar quote char piece) : quote ∉ piece := by
  cases written with
  | raw plain =>
      intro member
      rw [List.mem_singleton.mp member] at plain
      simp at plain
  | @reference name names =>
      have apart := names.not_mem quote
      intro member
      simp only [List.mem_cons, List.mem_append, List.not_mem_nil, or_false] at quotes member apart
      rcases quotes with rfl | rfl
      · simp_all
      · simp_all

end Characters

section Values

variable {quote : Char} {value text : List Char}

theorem expand_value (written : Writes (WritesChar quote) value text) (free : '\x00' ∉ value)
    (offset : Nat) : Reference.expand offset text = .ok value := by
  induction written generalizing offset with
  | nil => rw [Reference.expand]
  | cons part _ ih =>
      rw [List.mem_cons, not_or] at free
      obtain ⟨later, read⟩ := expand_piece part (Ne.symm free.1) offset _
      rw [read, ih free.2]
      rfl

theorem quote_not_mem_value (quotes : quote ∈ ['"', '\x27'])
    (written : Writes (WritesChar quote) value text) : quote ∉ text := by
  induction written with
  | nil => exact List.not_mem_nil
  | cons part _ ih =>
      rw [List.mem_append, not_or]
      exact ⟨quote_not_mem_piece quotes part, ih⟩

end Values

end Grammar

end Markup

end SchemaScript
