/-!
# UTF-16

Texts as bytes in UTF-16, with either byte of a unit first.  A character
beyond the first 65536 is written as a pair of surrogate units.  Decoding is
strict: a surrogate outside such a pair, or an odd number of bytes, is refused.
-/

namespace SchemaScript

namespace Encoding

/-- Which byte of a unit comes first. -/
inductive ByteOrder where
  | bigEndian
  | littleEndian
deriving Repr, DecidableEq

namespace Utf16

/-- The first unit of pairs. -/
def highSurrogate : Nat :=
  0xD800

/-- The first unit that may end a pair. -/
def lowSurrogate : Nat :=
  0xDC00

def afterSurrogates : Nat :=
  0xE000

/-- The number of units that may start a pair, and of those that may end one. -/
def surrogateCount : Nat :=
  0x400

def firstPaired : Nat :=
  0x10000

def unitsOfChar (char : Char) : List UInt16 :=
  if char.toNat < firstPaired then
    [UInt16.ofNat char.toNat]
  else
    let offset := char.toNat - firstPaired
    [UInt16.ofNat (highSurrogate + offset / surrogateCount),
      UInt16.ofNat (lowSurrogate + offset % surrogateCount)]

def bytesOfUnit (order : ByteOrder) (unit : UInt16) : List UInt8 :=
  let high := UInt8.ofNat (unit.toNat / 256)
  let low := UInt8.ofNat (unit.toNat % 256)
  match order with
  | .bigEndian => [high, low]
  | .littleEndian => [low, high]

def encode (order : ByteOrder) (text : List Char) : List UInt8 :=
  (text.flatMap unitsOfChar).flatMap (bytesOfUnit order)

def unitOfBytes (order : ByteOrder) (first second : UInt8) : UInt16 :=
  match order with
  | .bigEndian => UInt16.ofNat (first.toNat * 256 + second.toNat)
  | .littleEndian => UInt16.ofNat (second.toNat * 256 + first.toNat)

/-- The units that bytes are read as, if their number is even. -/
def unitsOfBytes? (order : ByteOrder) : List UInt8 → Option (List UInt16)
  | [] => some []
  | [_] => none
  | first :: second :: rest =>
    (unitsOfBytes? order rest).map (unitOfBytes order first second :: ·)

/-- A unit that is the first of a pair. -/
abbrev StartsPair (unit : UInt16) : Prop :=
  highSurrogate ≤ unit.toNat ∧ unit.toNat < lowSurrogate

/-- A unit that is the second of a pair. -/
abbrev EndsPair (unit : UInt16) : Prop :=
  lowSurrogate ≤ unit.toNat ∧ unit.toNat < afterSurrogates

def charOfPair (high low : UInt16) : Char :=
  Char.ofNat (firstPaired + (high.toNat - highSurrogate) * surrogateCount
    + (low.toNat - lowSurrogate))

def charsOfUnits? : List UInt16 → Option (List Char)
  | [] => some []
  | [unit] =>
    if StartsPair unit ∨ EndsPair unit then none else some [Char.ofNat unit.toNat]
  | unit :: next :: rest =>
    if StartsPair unit then
      if EndsPair next then (charsOfUnits? rest).map (charOfPair unit next :: ·) else none
    else if EndsPair unit then
      none
    else
      (charsOfUnits? (next :: rest)).map (Char.ofNat unit.toNat :: ·)

def decode? (order : ByteOrder) (bytes : List UInt8) : Option (List Char) :=
  (unitsOfBytes? order bytes).bind charsOfUnits?

theorem unitOfBytes_bytesOfUnit (order : ByteOrder) (unit : UInt16) :
    ∃ first second, bytesOfUnit order unit = [first, second] ∧
      unitOfBytes order first second = unit := by
  have := unit.toNat_lt
  cases order <;>
    exact ⟨_, _, rfl, UInt16.toNat_inj.mp (by simp [unitOfBytes]; omega)⟩

theorem bytesOfUnit_unitOfBytes (order : ByteOrder) (first second : UInt8) :
    bytesOfUnit order (unitOfBytes order first second) = [first, second] := by
  have := first.toNat_lt
  have := second.toNat_lt
  cases order <;>
    simp [bytesOfUnit, unitOfBytes, ← UInt8.toNat_inj] <;> omega

theorem unitsOfBytes?_eq_some_iff {order : ByteOrder} {bytes : List UInt8}
    {units : List UInt16} :
    unitsOfBytes? order bytes = some units ↔ units.flatMap (bytesOfUnit order) = bytes := by
  constructor
  · intro read
    induction bytes using unitsOfBytes?.induct generalizing units with
    | case1 => cases read; rfl
    | case2 byte => cases read
    | case3 first second rest ih =>
        obtain ⟨later, readLater, rfl⟩ := Option.map_eq_some_iff.mp read
        simp [bytesOfUnit_unitOfBytes, ih readLater]
  · rintro rfl
    induction units with
    | nil => rfl
    | cons unit units ih =>
        obtain ⟨first, second, written, same⟩ := unitOfBytes_bytesOfUnit order unit
        simp [written, unitsOfBytes?, ih, same]

private theorem toNat_ofNat_of_isValidChar {number : Nat} (valid : number.isValidChar) :
    (Char.ofNat number).toNat = number := by
  have same : Char.ofNat number = Char.ofNatAux number valid := dif_pos valid
  rw [same]
  rfl

theorem unitsOfChar_charOfPair {high low : UInt16}
    (starts : StartsPair high) (ends : EndsPair low) :
    unitsOfChar (charOfPair high low) = [high, low] := by
  simp only [StartsPair, EndsPair, highSurrogate, lowSurrogate, afterSurrogates] at starts ends
  have value : (charOfPair high low).toNat =
      0x10000 + (high.toNat - 0xD800) * 0x400 + (low.toNat - 0xDC00) :=
    toNat_ofNat_of_isValidChar (by
      simp only [Nat.isValidChar]
      right
      simp only [firstPaired, highSurrogate, lowSurrogate, surrogateCount]
      omega)
  unfold unitsOfChar
  rw [value, if_neg (by simp only [firstPaired]; omega)]
  simp only [firstPaired, highSurrogate, lowSurrogate, surrogateCount, List.cons.injEq, and_true]
  constructor <;> apply UInt16.toNat_inj.mp <;> simp <;> omega

theorem unitsOfChar_ofNat {unit : UInt16}
    (notStart : ¬ StartsPair unit) (notEnd : ¬ EndsPair unit) :
    unitsOfChar (Char.ofNat unit.toNat) = [unit] := by
  have := unit.toNat_lt
  simp only [StartsPair, EndsPair, highSurrogate, lowSurrogate, afterSurrogates]
    at notStart notEnd
  have value : (Char.ofNat unit.toNat).toNat = unit.toNat :=
    toNat_ofNat_of_isValidChar (by simp only [Nat.isValidChar]; omega)
  unfold unitsOfChar
  rw [value, if_pos (by simp only [firstPaired]; omega)]
  simp

/-- A character is one unit outside of pairs, or it is a pair. -/
theorem unitsOfChar_eq (char : Char) :
    (∃ unit, ¬ StartsPair unit ∧ ¬ EndsPair unit ∧ Char.ofNat unit.toNat = char ∧
      unitsOfChar char = [unit]) ∨
    ∃ high low, StartsPair high ∧ EndsPair low ∧ charOfPair high low = char ∧
      unitsOfChar char = [high, low] := by
  have range : char.toNat < 0xD800 ∨ 0xDFFF < char.toNat ∧ char.toNat < 0x110000 := char.valid
  unfold unitsOfChar
  split
  · rename_i small
    simp only [firstPaired] at small
    have value : (UInt16.ofNat char.toNat).toNat = char.toNat := by simp; omega
    generalize UInt16.ofNat char.toNat = unit at value
    refine .inl ⟨unit, ?_, ?_, by rw [value, Char.ofNat_toNat], rfl⟩
    · simp only [StartsPair, highSurrogate, lowSurrogate]; omega
    · simp only [EndsPair, lowSurrogate, afterSurrogates]; omega
  · rename_i large
    simp only [firstPaired] at large
    simp only [highSurrogate, lowSurrogate, firstPaired, surrogateCount]
    have highValue : (UInt16.ofNat (0xD800 + (char.toNat - 0x10000) / 0x400)).toNat =
        0xD800 + (char.toNat - 0x10000) / 0x400 := by
      rw [UInt16.toNat_ofNat']; omega
    have lowValue : (UInt16.ofNat (0xDC00 + (char.toNat - 0x10000) % 0x400)).toNat =
        0xDC00 + (char.toNat - 0x10000) % 0x400 := by
      rw [UInt16.toNat_ofNat']; omega
    generalize UInt16.ofNat (0xD800 + (char.toNat - 0x10000) / 0x400) = high at highValue
    generalize UInt16.ofNat (0xDC00 + (char.toNat - 0x10000) % 0x400) = low at lowValue
    refine .inr ⟨high, low, ?_, ?_, ?_, rfl⟩
    · simp only [StartsPair, highSurrogate, lowSurrogate]; omega
    · simp only [EndsPair, lowSurrogate, afterSurrogates]; omega
    · have value : 0x10000 + (high.toNat - 0xD800) * 0x400 + (low.toNat - 0xDC00) =
          char.toNat := by omega
      simp only [charOfPair, firstPaired, highSurrogate, lowSurrogate, surrogateCount]
      rw [value, Char.ofNat_toNat]

private theorem charsOfUnits?_unitsOfChar (char : Char) (rest : List UInt16) :
    charsOfUnits? (unitsOfChar char ++ rest) = (charsOfUnits? rest).map (char :: ·) := by
  rcases unitsOfChar_eq char with
    ⟨unit, notStart, notEnd, same, units⟩ | ⟨high, low, starts, ends, same, units⟩
  · cases rest with
    | nil => simp [charsOfUnits?, units, notStart, notEnd, same]
    | cons next rest => simp [charsOfUnits?, units, notStart, notEnd, same]
  · simp only [units, List.cons_append, List.nil_append, charsOfUnits?, if_pos starts, if_pos ends,
      same]

theorem charsOfUnits?_eq_some_iff {units : List UInt16} {text : List Char} :
    charsOfUnits? units = some text ↔ text.flatMap unitsOfChar = units := by
  constructor
  · intro read
    fun_induction charsOfUnits? units generalizing text with
    | case1 => cases read; rfl
    | case2 => cases read
    | case3 unit lone =>
        cases read
        rw [not_or] at lone
        simp [unitsOfChar_ofNat lone.1 lone.2]
    | case4 unit next rest starts ends ih =>
        obtain ⟨later, readLater, rfl⟩ := Option.map_eq_some_iff.mp read
        simp [unitsOfChar_charOfPair starts ends, ih readLater]
    | case5 => cases read
    | case6 => cases read
    | case7 unit next rest notStart notEnd ih =>
        obtain ⟨later, readLater, rfl⟩ := Option.map_eq_some_iff.mp read
        simp [unitsOfChar_ofNat notStart notEnd, ih readLater]
  · rintro rfl
    induction text with
    | nil => rfl
    | cons char text ih => simp [charsOfUnits?_unitsOfChar, ih]

/-- Bytes are read as a text exactly if they are its encoding. -/
theorem decode?_eq_some_iff {order : ByteOrder} {bytes : List UInt8} {text : List Char} :
    decode? order bytes = some text ↔ encode order text = bytes := by
  unfold decode? encode
  simp only [Option.bind_eq_some_iff, unitsOfBytes?_eq_some_iff, charsOfUnits?_eq_some_iff]
  constructor
  · rintro ⟨units, same, rfl⟩
    exact same
  · intro same
    exact ⟨_, same, rfl⟩

end Utf16

end Encoding

end SchemaScript
