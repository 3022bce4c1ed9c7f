import SchemaScript.Proofs.Encoding.Malformed

/-!
# Units without a partner

In UTF-16, the bytes at which no character can be read are those of a surrogate
unit outside of a pair, or there is only half a unit.
-/

namespace SchemaScript

namespace Encoding

namespace Utf16

/-- The bytes of a single character. -/
def encodeChar (order : ByteOrder) (char : Char) : List UInt8 :=
  (unitsOfChar char).flatMap (bytesOfUnit order)

/-- Bytes at whose start no character stands. -/
inductive Malformed (order : ByteOrder) : List UInt8 → Prop where
  /-- The first byte of a unit, without the second. -/
  | halfUnit (byte : UInt8) : Malformed order [byte]
  /-- The second unit of a pair, without the first. -/
  | loneEnd {unit : UInt16} (rest : List UInt8) (ends : EndsPair unit) :
      Malformed order (bytesOfUnit order unit ++ rest)
  /-- The first unit of a pair, without the second. -/
  | loneStart {unit : UInt16} {rest : List UInt8} (starts : StartsPair unit)
      (unpaired : ∀ next more, EndsPair next → rest ≠ bytesOfUnit order next ++ more) :
      Malformed order (bytesOfUnit order unit ++ rest)

variable {order : ByteOrder}

theorem encode_eq_flatMap (order : ByteOrder) (text : List Char) :
    encode order text = text.flatMap (encodeChar order) :=
  List.flatMap_assoc

theorem not_startsPair_of_endsPair {unit : UInt16} (ends : EndsPair unit) :
    ¬ StartsPair unit :=
  fun starts => Nat.not_lt_of_le ends.1 starts.2

theorem length_bytesOfUnit (order : ByteOrder) (unit : UInt16) :
    (bytesOfUnit order unit).length = 2 := by
  cases order <;> rfl

theorem eq_and_eq_of_bytesOfUnit_append_eq {unit other : UInt16} {rest more : List UInt8}
    (same : bytesOfUnit order unit ++ rest = bytesOfUnit order other ++ more) :
    unit = other ∧ rest = more := by
  obtain ⟨sameBytes, sameRest⟩ :=
    List.append_inj same (by rw [length_bytesOfUnit, length_bytesOfUnit])
  obtain ⟨first, second, written, value⟩ := unitOfBytes_bytesOfUnit order unit
  obtain ⟨first', second', written', value'⟩ := unitOfBytes_bytesOfUnit order other
  rw [written, written', List.cons.injEq, List.cons.injEq] at sameBytes
  refine ⟨?_, sameRest⟩
  rw [← value, ← value', sameBytes.1, sameBytes.2.1]

theorem encodeChar_apart {first second : Char} {rest more : List UInt8}
    (same : encodeChar order first ++ rest = encodeChar order second ++ more) :
    first = second := by
  unfold encodeChar at same
  rcases unitsOfChar_eq first with
    ⟨unit, notStart, notEnd, rfl, units⟩ | ⟨high, low, starts, ends, rfl, units⟩ <;>
  rcases unitsOfChar_eq second with
    ⟨unit', notStart', notEnd', rfl, units'⟩ | ⟨high', low', starts', ends', rfl, units'⟩ <;>
  rw [units, units'] at same <;>
  simp only [List.flatMap_cons, List.flatMap_nil, List.append_assoc] at same
  · rw [(eq_and_eq_of_bytesOfUnit_append_eq same).1]
  · obtain rfl := (eq_and_eq_of_bytesOfUnit_append_eq same).1
    exact absurd starts' notStart
  · obtain rfl := (eq_and_eq_of_bytesOfUnit_append_eq same).1
    exact absurd starts notStart'
  · obtain ⟨rfl, later⟩ := eq_and_eq_of_bytesOfUnit_append_eq same
    rw [(eq_and_eq_of_bytesOfUnit_append_eq later).1]

/-- A character does not begin with the second unit of a pair, and goes on after the first. -/
theorem exists_first_unit (order : ByteOrder) (char : Char) :
    ∃ unit units, encodeChar order char = bytesOfUnit order unit ++ units ∧ ¬ EndsPair unit ∧
      (StartsPair unit → ∃ low, EndsPair low ∧ units = bytesOfUnit order low) := by
  unfold encodeChar
  rcases unitsOfChar_eq char with
    ⟨unit, notStart, notEnd, -, units⟩ | ⟨high, low, starts, ends, -, units⟩
  · refine ⟨unit, [], ?_, notEnd, fun starts => absurd starts notStart⟩
    rw [units, List.flatMap_singleton, List.append_nil]
  · refine ⟨high, bytesOfUnit order low, ?_,
      fun highEnds => not_startsPair_of_endsPair highEnds starts, fun _ => ⟨low, ends, rfl⟩⟩
    rw [units, List.flatMap_cons, List.flatMap_singleton]

theorem Malformed.no_char {bytes : List UInt8} (malformed : Malformed order bytes) (char : Char)
    (more : List UInt8) : bytes ≠ encodeChar order char ++ more := by
  intro same
  obtain ⟨unit, units, written, notEnd, paired⟩ := exists_first_unit order char
  rw [written, List.append_assoc] at same
  cases malformed with
  | halfUnit byte =>
      have lengths := congrArg List.length same
      rw [List.length_append, length_bytesOfUnit, List.length_singleton] at lengths
      omega
  | loneEnd rest ends =>
      obtain ⟨rfl, -⟩ := eq_and_eq_of_bytesOfUnit_append_eq same
      exact notEnd ends
  | loneStart starts unpaired =>
      obtain ⟨rfl, later⟩ := eq_and_eq_of_bytesOfUnit_append_eq same
      obtain ⟨low, ends, rfl⟩ := paired starts
      exact unpaired low more ends later

theorem malformed_of_no_char {bytes : List UInt8} (present : bytes ≠ [])
    (unread : ∀ char rest, bytes ≠ encodeChar order char ++ rest) : Malformed order bytes := by
  match bytes with
  | [] => exact absurd rfl present
  | [byte] => exact .halfUnit byte
  | first :: second :: rest =>
      have written : first :: second :: rest =
          bytesOfUnit order (unitOfBytes order first second) ++ rest := by
        rw [bytesOfUnit_unitOfBytes]
        rfl
      rw [written] at unread ⊢
      generalize unitOfBytes order first second = unit at unread
      by_cases ends : EndsPair unit
      · exact .loneEnd rest ends
      · by_cases starts : StartsPair unit
        · refine .loneStart starts ?_
          rintro next more nextEnds rfl
          refine unread (charOfPair unit next) more ?_
          simp [encodeChar, unitsOfChar_charOfPair starts nextEnds]
        · refine absurd ?_ (unread (Char.ofNat unit.toNat) rest)
          simp [encodeChar, unitsOfChar_ofNat starts ends]

theorem bytesOfUnit_append_ne_nil (order : ByteOrder) (unit : UInt16) (rest : List UInt8) :
    bytesOfUnit order unit ++ rest ≠ [] := by
  cases order <;> exact List.cons_ne_nil _ _

theorem Malformed.ne_nil {bytes : List UInt8} (malformed : Malformed order bytes) :
    bytes ≠ [] := by
  cases malformed with
  | halfUnit byte => exact List.cons_ne_nil _ _
  | loneEnd rest ends => exact bytesOfUnit_append_ne_nil _ _ _
  | loneStart starts unpaired => exact bytesOfUnit_append_ne_nil _ _ _

theorem characterCode (order : ByteOrder) :
    CharacterCode (encodeChar order) (Malformed order) where
  some_byte char := by
    obtain ⟨unit, units, written, -⟩ := exists_first_unit order char
    rw [written]
    exact bytesOfUnit_append_ne_nil order unit units
  apart _ _ _ _ := encodeChar_apart
  malformed_iff _ :=
    ⟨fun malformed => ⟨malformed.ne_nil, malformed.no_char⟩,
      fun unread => malformed_of_no_char unread.1 unread.2⟩

end Utf16

end Encoding

end SchemaScript
