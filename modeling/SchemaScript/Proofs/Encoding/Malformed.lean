import Mathlib.Data.List.Basic
import SchemaScript.Proofs.Encoding.Presentation

/-!
# Bytes that are no text

Bytes that are not the encoding of a text are one up to a place at which no
character can be read.  In UTF-8 a few kinds of malformed sequences can stand at
such a place, and nothing else.
-/

namespace SchemaScript

namespace Encoding

/--
An encoding of texts character by character: no character begins like another one, and
malformed bytes are those at whose start no character stands.
-/
structure CharacterCode (encodeChar : Char → List UInt8) (Malformed : List UInt8 → Prop) :
    Prop where
  some_byte : ∀ char, encodeChar char ≠ []
  apart : ∀ first second rest more,
    encodeChar first ++ rest = encodeChar second ++ more → first = second
  malformed_iff : ∀ bytes,
    Malformed bytes ↔ bytes ≠ [] ∧ ∀ char rest, bytes ≠ encodeChar char ++ rest

namespace CharacterCode

variable {encodeChar : Char → List UInt8} {Malformed : List UInt8 → Prop} {bytes : List UInt8}

theorem encode_ne (code : CharacterCode encodeChar Malformed) {rest : List UInt8}
    (malformed : Malformed rest) (front text : List Char) :
    text.flatMap encodeChar ≠ front.flatMap encodeChar ++ rest := by
  intro same
  induction front generalizing text with
  | nil =>
      obtain ⟨present, unread⟩ := (code.malformed_iff rest).mp malformed
      cases text with
      | nil => exact present same.symm
      | cons char text => exact unread char (text.flatMap encodeChar) same.symm
  | cons first front ih =>
      rw [List.flatMap_cons, List.append_assoc] at same
      cases text with
      | nil => exact code.some_byte first (List.append_eq_nil_iff.mp same.symm).1
      | cons char text =>
          rw [List.flatMap_cons] at same
          obtain rfl := code.apart _ _ _ _ same
          exact ih text (List.append_cancel_left same)

theorem exists_malformed (code : CharacterCode encodeChar Malformed) {bytes : List UInt8}
    (untold : ∀ text : List Char, text.flatMap encodeChar ≠ bytes) :
    ∃ (front : List Char) (rest : List UInt8),
      bytes = front.flatMap encodeChar ++ rest ∧ Malformed rest := by
  by_cases malformed : Malformed bytes
  · exact ⟨[], bytes, rfl, malformed⟩
  · have present : bytes ≠ [] := fun empty => untold [] empty.symm
    obtain ⟨char, rest, rfl⟩ : ∃ char rest, bytes = encodeChar char ++ rest := by
      rw [code.malformed_iff] at malformed
      simpa [present] using malformed
    have shorter : rest.length < (encodeChar char ++ rest).length := by
      have := List.length_pos_iff.mpr (code.some_byte char)
      rw [List.length_append]
      omega
    have untoldRest : ∀ text : List Char, text.flatMap encodeChar ≠ rest := fun text same =>
      untold (char :: text) (by rw [List.flatMap_cons, same])
    obtain ⟨front, last, rfl, found⟩ := exists_malformed code untoldRest
    exact ⟨char :: front, last, by rw [List.flatMap_cons, List.append_assoc], found⟩
termination_by bytes.length

/-- Bytes are no text exactly if some text goes on with malformed bytes in them. -/
theorem encode_ne_iff (code : CharacterCode encodeChar Malformed) :
    (∀ text : List Char, text.flatMap encodeChar ≠ bytes) ↔
      ∃ (front : List Char) (rest : List UInt8),
      bytes = front.flatMap encodeChar ++ rest ∧ Malformed rest := by
  constructor
  · exact code.exists_malformed
  · rintro ⟨front, rest, rfl, malformed⟩ text
    exact code.encode_ne malformed front text

end CharacterCode

namespace Utf8

/-- The number of bytes that a character takes. -/
inductive Width where
  | one
  | two
  | three
  | four
deriving DecidableEq

namespace Width

def length : Width → Nat
  | one => 1
  | two => 2
  | three => 3
  | four => 4

/-- The least byte that begins a character of this width. -/
def lead : Width → Nat
  | one => 0x00
  | two => 0xC0
  | three => 0xE0
  | four => 0xF0

/-- The first byte behind those that begin a character of this width. -/
def leadEnd : Width → Nat
  | one => 0x80
  | two => 0xE0
  | three => 0xF0
  | four => 0xF8

/-- The first number that cannot be written in so few bytes. -/
def limit : Width → Nat
  | one => 0x80
  | two => 0x800
  | three => 0x10000
  | four => 0x200000

/-- The first number that needs so many bytes. -/
def least : Width → Nat
  | one => 0
  | two => one.limit
  | three => two.limit
  | four => three.limit

theorem length_pos (width : Width) : 0 < width.length := by
  cases width <;> decide

theorem least_le_limit (width : Width) : width.least ≤ width.limit := by
  cases width <;> decide

end Width

/-- The byte that goes on with the last six bits of a number. -/
def following (number : Nat) : UInt8 :=
  .ofNat (0x80 + number % 0x40)

/-- The bytes of a number in the given width, whether or not it should be written so. -/
def row : Width → Nat → List UInt8
  | .one, number => [.ofNat number]
  | .two, number => [.ofNat (0xC0 + number / 0x40), following number]
  | .three, number =>
    [.ofNat (0xE0 + number / 0x1000), following (number / 0x40), following number]
  | .four, number =>
    [.ofNat (0xF0 + number / 0x40000), following (number / 0x1000), following (number / 0x40),
      following number]

/-- The number that the bytes of a row carry. -/
def carried : List UInt8 → Nat
  | [first] => first.toNat
  | [first, last] => first.toNat % 0x20 * 0x40 + last.toNat % 0x40
  | [first, second, last] =>
    first.toNat % 0x10 * 0x1000 + second.toNat % 0x40 * 0x40 + last.toNat % 0x40
  | [first, second, third, last] =>
    first.toNat % 0x08 * 0x40000 + second.toNat % 0x40 * 0x1000 + third.toNat % 0x40 * 0x40 +
      last.toNat % 0x40
  | _ => 0

/-- A byte that goes on with a character. -/
def Continues (byte : UInt8) : Prop :=
  0x80 ≤ byte.toNat ∧ byte.toNat < 0xC0

instance (byte : UInt8) : Decidable (Continues byte) :=
  inferInstanceAs (Decidable (_ ∧ _))

/-- A byte that begins a character of the given width. -/
def Begins (width : Width) (byte : UInt8) : Prop :=
  width.lead ≤ byte.toNat ∧ byte.toNat < width.leadEnd

/-- Bytes at whose start no character stands. -/
inductive Malformed : List UInt8 → Prop where
  /-- A byte that only goes on with a character, or stands in none. -/
  | stray {byte : UInt8} (rest : List UInt8) (unfit : Continues byte ∨ 0xF8 ≤ byte.toNat) :
      Malformed (byte :: rest)
  /-- A number in more bytes than it needs. -/
  | overlong {width : Width} {number : Nat} (rest : List UInt8) (small : number < width.least) :
      Malformed (row width number ++ rest)
  /-- A number that UTF-16 needs for its pairs. -/
  | surrogate {number : Nat} (rest : List UInt8) (least : 0xD800 ≤ number)
      (below : number < 0xE000) : Malformed (row .three number ++ rest)
  /-- A number beyond all characters. -/
  | beyond {number : Nat} (rest : List UInt8) (least : 0x110000 ≤ number)
      (below : number < Width.four.limit) : Malformed (row .four number ++ rest)
  /-- A sequence that ends before it has all the bytes that its first one announces. -/
  | truncated {width : Width} {number : Nat} {front rest : List UInt8}
      (below : number < width.limit) (present : front ≠ []) (starts : front <+: row width number)
      (short : front.length < width.length) (ends : ∀ byte ∈ rest.head?, ¬ Continues byte) :
      Malformed (front ++ rest)

section Rows

variable {width : Width} {number : Nat}

theorem toNat_following (number : Nat) : (following number).toNat = 0x80 + number % 0x40 := by
  rw [following, UInt8.toNat_ofNat']
  omega

theorem continues_following (number : Nat) : Continues (following number) := by
  rw [Continues, toNat_following]
  omega

theorem eq_of_begins {other : Width} {byte : UInt8} (begins : Begins width byte)
    (beginsOther : Begins other byte) : width = other := by
  cases width <;> cases other <;>
    simp only [Begins, Width.lead, Width.leadEnd] at begins beginsOther <;>
    first | rfl | omega

theorem begins_or_unfit (byte : UInt8) :
    (∃ width, Begins width byte) ∨ Continues byte ∨ 0xF8 ≤ byte.toNat := by
  by_cases one : byte.toNat < 0x80
  · exact .inl ⟨.one, Nat.zero_le _, one⟩
  · by_cases goesOn : byte.toNat < 0xC0
    · exact .inr (.inl ⟨Nat.le_of_not_lt one, goesOn⟩)
    · by_cases two : byte.toNat < 0xE0
      · exact .inl ⟨.two, Nat.le_of_not_lt goesOn, two⟩
      · by_cases three : byte.toNat < 0xF0
        · exact .inl ⟨.three, Nat.le_of_not_lt two, three⟩
        · by_cases four : byte.toNat < 0xF8
          · exact .inl ⟨.four, Nat.le_of_not_lt three, four⟩
          · exact .inr (.inr (Nat.le_of_not_lt four))

theorem Begins.not_unfit {byte : UInt8} (begins : Begins width byte) :
    ¬ (Continues byte ∨ 0xF8 ≤ byte.toNat) := by
  cases width <;>
    simp only [Begins, Width.lead, Width.leadEnd, Continues] at begins ⊢ <;>
    omega

/-- The first byte of a row tells its width, and all others go on. -/
theorem row_eq_cons (below : number < width.limit) :
    ∃ first tail, row width number = first :: tail ∧ Begins width first ∧
      ∀ byte ∈ tail, Continues byte := by
  cases width <;>
    · refine ⟨_, _, rfl, ?_, by simp [continues_following]⟩
      simp only [Begins, Width.lead, Width.leadEnd, Width.limit, UInt8.toNat_ofNat'] at below ⊢
      omega

theorem carried_row (below : number < width.limit) : carried (row width number) = number := by
  cases width <;>
    simp only [Width.limit, row, carried, toNat_following, UInt8.toNat_ofNat'] at below ⊢ <;>
    omega

theorem length_row (width : Width) (number : Nat) : (row width number).length = width.length := by
  cases width <;> rfl

/-- The bytes of a row may be any, if the first one begins its width and the others go on. -/
theorem row_carried {first : UInt8} {tail : List UInt8} (begins : Begins width first)
    (whole : tail.length + 1 = width.length) (goOn : ∀ byte ∈ tail, Continues byte) :
    carried (first :: tail) < width.limit ∧
      row width (carried (first :: tail)) = first :: tail := by
  cases width with
  | one =>
      obtain rfl : tail = [] := List.length_eq_zero_iff.mp (Nat.succ.inj whole)
      simp only [Begins, Width.lead, Width.leadEnd] at begins
      refine ⟨begins.2, ?_⟩
      simp [row, carried]
  | two =>
      obtain ⟨last, rfl⟩ : ∃ last, tail = [last] :=
        List.length_eq_one_iff.mp (Nat.succ.inj whole)
      simp only [List.forall_mem_cons, Continues, Begins, Width.lead, Width.leadEnd] at goOn begins
      simp only [Width.limit, row, carried, List.cons.injEq, and_true, ← UInt8.toNat_inj,
        toNat_following, UInt8.toNat_ofNat']
      omega
  | three =>
      obtain ⟨second, last, rfl⟩ := List.length_eq_two.mp (Nat.succ.inj whole)
      simp only [List.forall_mem_cons, Continues, Begins, Width.lead, Width.leadEnd] at goOn begins
      simp only [Width.limit, row, carried, List.cons.injEq, and_true, ← UInt8.toNat_inj,
        toNat_following, UInt8.toNat_ofNat']
      omega
  | four =>
      obtain ⟨second, third, last, rfl⟩ := List.length_eq_three.mp (Nat.succ.inj whole)
      simp only [List.forall_mem_cons, Continues, Begins, Width.lead, Width.leadEnd] at goOn begins
      simp only [Width.limit, row, carried, List.cons.injEq, and_true, ← UInt8.toNat_inj,
        toNat_following, UInt8.toNat_ofNat']
      omega

/-- A width and a number in it are told by the bytes, whatever follows them. -/
theorem eq_of_row_append_eq {other : Width} {value : Nat} {rest more : List UInt8}
    (below : number < width.limit) (belowOther : value < other.limit)
    (same : row width number ++ rest = row other value ++ more) :
    width = other ∧ number = value := by
  obtain ⟨first, tail, shape, begins, -⟩ := row_eq_cons below
  obtain ⟨first', tail', shape', begins', -⟩ := row_eq_cons belowOther
  have firsts : first = first' := by
    rw [shape, shape'] at same
    exact (List.cons.inj same).1
  obtain rfl : width = other := eq_of_begins begins (firsts ▸ begins')
  have rows : row width number = row width value :=
    (List.append_inj same (by rw [length_row, length_row])).1
  exact ⟨rfl, by rw [← carried_row below, ← carried_row belowOther, rows]⟩

end Rows

section Characters

variable {width : Width} {number : Nat}

/-- Every character is written in the least width that its number fits in. -/
theorem exists_width (char : Char) :
    ∃ width : Width, width.least ≤ char.toNat ∧ char.toNat < width.limit ∧
      String.utf8EncodeChar char = row width char.toNat := by
  have small : char.toNat < 0x200000 := by
    have valid : char.toNat < 0xD800 ∨ 0xDFFF < char.toNat ∧ char.toNat < 0x110000 := char.valid
    omega
  have value : char.val.toNat = char.toNat := rfl
  unfold String.utf8EncodeChar
  dsimp only
  rw [value]
  split
  · rename_i one
    exact ⟨.one, Nat.zero_le _, Nat.lt_succ_of_le one, rfl⟩
  · rename_i one
    split
    · rename_i two
      refine ⟨.two, Nat.lt_of_not_le one, Nat.lt_succ_of_le two, ?_⟩
      simp only [row, List.cons.injEq, and_true, ← UInt8.toNat_inj, toNat_following,
        UInt8.toNat_ofNat']
      omega
    · rename_i two
      split
      · rename_i three
        refine ⟨.three, Nat.lt_of_not_le two, Nat.lt_succ_of_le three, ?_⟩
        simp only [row, List.cons.injEq, and_true, ← UInt8.toNat_inj, toNat_following,
          UInt8.toNat_ofNat']
        omega
      · rename_i three
        refine ⟨.four, Nat.lt_of_not_le three, small, ?_⟩
        simp only [row, List.cons.injEq, and_true, ← UInt8.toNat_inj, toNat_following,
          UInt8.toNat_ofNat']
        omega

theorem Width.eq_of_bounds {other : Width} (least : width.least ≤ number)
    (below : number < width.limit) (leastOther : other.least ≤ number)
    (belowOther : number < other.limit) : width = other := by
  cases width <;> cases other <;>
    simp only [Width.least, Width.limit] at least below leastOther belowOther <;>
    first | rfl | omega

theorem row_eq_utf8EncodeChar (least : width.least ≤ number) (below : number < width.limit)
    (valid : number.isValidChar) :
    row width number = String.utf8EncodeChar (Char.ofNat number) := by
  have value : (Char.ofNat number).toNat = number := by
    rw [Char.ofNat, dif_pos valid]
    rfl
  obtain ⟨other, leastOther, belowOther, written⟩ := exists_width (Char.ofNat number)
  rw [value] at leastOther belowOther written
  rw [Width.eq_of_bounds least below leastOther belowOther, written]

end Characters

section Refusals

variable {width : Width} {number : Nat} {bytes rest : List UInt8}

/-- A row that ends early is not followed by what it lacks. -/
theorem append_ne_row_append {first : UInt8} {front : List UInt8} (below : number < width.limit)
    (short : front.length + 1 < width.length) (ends : ∀ byte ∈ rest.head?, ¬ Continues byte)
    (more : List UInt8) : first :: front ++ rest ≠ row width number ++ more := by
  intro same
  obtain ⟨head, tail, shape, -, goOn⟩ := row_eq_cons below
  have longer : front.length < tail.length := by
    have whole := length_row width number
    rw [shape, List.length_cons] at whole
    omega
  rw [shape, List.cons_append, List.cons_append, List.cons.injEq] at same
  obtain ⟨left, rfl⟩ : front <+: tail :=
    List.prefix_of_prefix_length_le ⟨rest, same.2⟩ ⟨more, rfl⟩ (Nat.le_of_lt longer)
  cases left with
  | nil => simp at longer
  | cons next left =>
      have left : rest = next :: left ++ more := by
        rw [List.append_assoc] at same
        exact List.append_cancel_left same.2
      exact ends next (by rw [left]; rfl) (goOn next (by simp))

theorem Malformed.no_char (malformed : Malformed bytes) (char : Char) (more : List UInt8) :
    bytes ≠ String.utf8EncodeChar char ++ more := by
  intro same
  have valid : char.toNat < 0xD800 ∨ 0xDFFF < char.toNat ∧ char.toNat < 0x110000 := char.valid
  obtain ⟨width, least, below, written⟩ := exists_width char
  obtain ⟨head, tail, shape, begins, -⟩ := row_eq_cons below
  rw [written] at same
  cases malformed with
  | stray rest unfit =>
      rw [shape, List.cons_append, List.cons.injEq] at same
      exact begins.not_unfit (same.1 ▸ unfit)
  | overlong rest small =>
      have fits := Nat.lt_of_lt_of_le small (Width.least_le_limit _)
      obtain ⟨rfl, rfl⟩ := eq_of_row_append_eq fits below same
      omega
  | surrogate rest first last =>
      have fits := Nat.lt_trans last (show 0xE000 < Width.three.limit by decide)
      obtain ⟨rfl, rfl⟩ := eq_of_row_append_eq fits below same
      omega
  | beyond rest first last =>
      obtain ⟨rfl, rfl⟩ := eq_of_row_append_eq last below same
      omega
  | @truncated announced number front rest fits present starts short ends =>
      obtain ⟨lead, others, row_eq, beginsToo, -⟩ := row_eq_cons fits
      cases front with
      | nil => exact present rfl
      | cons first front =>
          rw [row_eq, List.cons_prefix_cons] at starts
          have firsts : first = head := by
            rw [shape] at same
            exact (List.cons.inj same).1
          rw [← starts.1, firsts] at beginsToo
          obtain rfl := eq_of_begins begins beginsToo
          exact append_ne_row_append below short ends more same

theorem malformed_row (below : number < width.limit) (rest : List UInt8)
    (unread : ∀ char, row width number ≠ String.utf8EncodeChar char) :
    Malformed (row width number ++ rest) := by
  by_cases least : width.least ≤ number
  · have invalid : ¬ number.isValidChar := fun valid =>
      unread _ (row_eq_utf8EncodeChar least below valid)
    rw [Nat.isValidChar] at invalid
    by_cases pairs : number < 0xE000
    · have first : 0xD800 ≤ number := by omega
      have three : number < Width.three.limit := Nat.lt_trans pairs (by decide)
      obtain rfl : width = .three :=
        Width.eq_of_bounds least below (Nat.le_trans (by decide) first) three
      exact .surrogate rest first pairs
    · have first : 0x110000 ≤ number := by omega
      cases width with
      | four => exact .beyond rest first below
      | one | two | three =>
          simp only [Width.limit] at below
          omega
  · exact .overlong rest (Nat.lt_of_not_le least)

/-- What a row lacks may be anything that goes on with it. -/
theorem malformed_cut {first : UInt8} {front : List UInt8} (begins : Begins width first)
    (goOn : ∀ byte ∈ front, Continues byte) (short : front.length + 1 < width.length)
    (ends : ∀ byte ∈ rest.head?, ¬ Continues byte) : Malformed (first :: front ++ rest) := by
  let lacking : List UInt8 := List.replicate (width.length - (front.length + 1)) 0x80
  have whole : (front ++ lacking).length + 1 = width.length := by
    rw [List.length_append, List.length_replicate]
    omega
  have allGoOn : ∀ byte ∈ front ++ lacking, Continues byte := by
    intro byte member
    rcases List.mem_append.mp member with early | late
    · exact goOn byte early
    · rw [List.eq_of_mem_replicate late]
      decide
  obtain ⟨below, same⟩ := row_carried begins whole allGoOn
  exact .truncated below (List.cons_ne_nil _ _) ⟨lacking, same.symm⟩ short ends

theorem exists_row_append {first : UInt8} {front : List UInt8} (begins : Begins width first)
    (goOn : ∀ byte ∈ front, Continues byte) (whole : width.length ≤ front.length + 1)
    (rest : List UInt8) :
    ∃ number more, number < width.limit ∧ first :: front ++ rest = row width number ++ more := by
  let tail := front.take (width.length - 1)
  have size : tail.length + 1 = width.length := by
    have := width.length_pos
    rw [List.length_take]
    omega
  obtain ⟨below, same⟩ := row_carried begins size fun byte member =>
    goOn byte (List.mem_of_mem_take member)
  refine ⟨carried (first :: tail), front.drop (width.length - 1) ++ rest, below, ?_⟩
  rw [same, List.cons_append, List.cons_append, ← List.append_assoc, List.take_append_drop]

theorem malformed_of_no_char (present : bytes ≠ [])
    (unread : ∀ char rest, bytes ≠ String.utf8EncodeChar char ++ rest) : Malformed bytes := by
  cases bytes with
  | nil => exact absurd rfl present
  | cons first rest =>
      rcases begins_or_unfit first with ⟨width, begins⟩ | unfit
      · -- Of the bytes that go on after the first one there are enough for its width or too few.
        let front := rest.takeWhile (Continues ·)
        have goOn : ∀ byte ∈ front, Continues byte := fun byte member => by
          simpa using List.all_eq_true.mp List.all_takeWhile byte member
        have parts : first :: rest = first :: front ++ rest.dropWhile (Continues ·) := by
          rw [List.cons_append, List.takeWhile_append_dropWhile]
        rcases Nat.lt_or_ge (front.length + 1) width.length with short | whole
        · rw [parts]
          refine malformed_cut begins goOn short ?_
          intro byte found
          have stops := List.head?_dropWhile_not (Continues ·) rest
          rw [found] at stops
          simpa using stops
        · obtain ⟨number, more, below, row_eq⟩ := exists_row_append begins goOn whole _
          rw [parts, row_eq] at unread ⊢
          exact malformed_row below more fun char written => unread char more (by rw [written])
      · exact .stray rest unfit

theorem Malformed.ne_nil (malformed : Malformed bytes) : bytes ≠ [] := by
  have row_ne_nil {width : Width} {number : Nat} {rest : List UInt8} :
      row width number ++ rest ≠ [] := by
    have := width.length_pos
    rw [← List.length_pos_iff, List.length_append, length_row]
    omega
  cases malformed with
  | stray rest unfit => exact List.cons_ne_nil _ _
  | overlong rest small => exact row_ne_nil
  | surrogate rest first last => exact row_ne_nil
  | beyond rest first last => exact row_ne_nil
  | truncated fits present starts short ends => exact List.append_ne_nil_of_left_ne_nil present _

theorem characterCode : CharacterCode String.utf8EncodeChar Malformed where
  some_byte _ := String.utf8EncodeChar_ne_nil
  apart _ _ _ _ := eq_of_utf8EncodeChar_append_eq
  malformed_iff _ :=
    ⟨fun malformed => ⟨malformed.ne_nil, malformed.no_char⟩,
      fun unread => malformed_of_no_char unread.1 unread.2⟩

end Refusals

end Utf8

end Encoding

end SchemaScript
