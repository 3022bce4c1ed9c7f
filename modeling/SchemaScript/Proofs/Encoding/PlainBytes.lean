import SchemaScript.Conversion.Source
import SchemaScript.Proofs.Encoding.Presentation

/-!
# Plain documents

The lower half of every encoding that a declaration may name is ASCII, but for
the zero byte, which could be half a unit of UTF-16, and for the few bytes that
some encodings shift by.  A document of the other bytes is decoded to the
characters of ASCII that they stand for, whatever it declares.
-/

namespace SchemaScript

namespace Encoding

/-- The bytes by which some encodings go over to another set of characters. -/
def shiftBytes : List UInt8 :=
  [0x0E, 0x0F, 0x1B]

/-- A byte that stands for the same character of ASCII in all encodings of single bytes. -/
def IsPlain (byte : UInt8) : Prop :=
  0x01 ≤ byte.toNat ∧ byte.toNat ≤ 0x7F ∧ byte ∉ shiftBytes

instance (byte : UInt8) : Decidable (IsPlain byte) :=
  inferInstanceAs (Decidable (0x01 ≤ byte.toNat ∧ byte.toNat ≤ 0x7F ∧ byte ∉ shiftBytes))

/-- An encoding that shifts by no plain byte, and in which a unit is a byte. -/
def readsPlain : Encoding → Bool
  | utf8 => true
  | utf16 _ => false
  | codePage _ => true
  | multiByte set => set.shifts ⊆ shiftBytes

theorem readsPlain_of_mem_labelled : ∀ entry ∈ labelled, readsPlain entry.1 = true := by
  have table : labelled.all (fun entry => readsPlain entry.1) = true := rfl
  exact List.all_eq_true.mp table

section Decoding

variable {byte : UInt8} {bytes : List UInt8}

theorem utf8EncodeChar_of_isPlain (plain : IsPlain byte) :
    String.utf8EncodeChar (Char.ofNat byte.toNat) = [byte] := by
  obtain ⟨-, small, -⟩ := plain
  have ascii : IsAscii (Char.ofNat byte.toNat) := by
    rw [IsAscii, toNat_ofNat_byte]
    omega
  rw [utf8EncodeChar_of_isAscii ascii, toNat_ofNat_byte, UInt8.ofNat_toNat]

/-- Plain bytes are in UTF-8 the text that they are read as byte by byte. -/
theorem encode_bytewise (plain : ∀ byte ∈ bytes, IsPlain byte) :
    Utf8.encode (bytewise bytes) = bytes := by
  induction bytes with
  | nil => rfl
  | cons byte bytes ih =>
      obtain ⟨first, rest⟩ := List.forall_mem_cons.mp plain
      rw [bytewise, List.map_cons, Utf8.encode, List.flatMap_cons,
        utf8EncodeChar_of_isPlain first]
      exact congrArg (byte :: ·) (ih rest)

theorem decode?_of_isPlain [MultiByteReading] {encoding : Encoding}
    (reads : readsPlain encoding = true) (plain : ∀ byte ∈ bytes, IsPlain byte) :
    encoding.decode? bytes = some (bytewise bytes) := by
  have lower (byte : UInt8) (member : byte ∈ bytes) : byte.toNat < CodePage.lowerSize :=
    Nat.lt_succ_of_le (plain byte member).2.1
  cases encoding with
  | utf8 => exact Utf8.decode?_eq_some_iff.mpr (encode_bytewise plain)
  | utf16 order => cases reads
  | codePage page =>
      refine mapM_eq_bytewise fun byte member => ?_
      rw [CodePage.charOfByte?, if_pos (lower byte member)]
  | multiByte set =>
      have shifts : set.shifts ⊆ shiftBytes := by simpa [readsPlain] using reads
      refine MultiByteReading.decode?_of_shared set bytes fun byte member => ?_
      exact ⟨lower byte member, fun shift => (plain byte member).2.2 (shifts shift)⟩

/-- Each pattern holds a byte that is not plain. -/
theorem no_pattern_of_isPlain (plain : ∀ byte ∈ bytes, IsPlain byte) :
    ∀ pattern ∈ patterns, ¬ pattern <+: bytes := by
  have odd : ∀ pattern ∈ patterns, ∃ byte ∈ pattern, ¬ IsPlain byte := by decide
  intro pattern member starts
  obtain ⟨byte, within, other⟩ := odd pattern member
  exact other (plain byte (starts.subset within))

theorem readsPlain_declared? (bytes : List UInt8) :
    readsPlain ((declared? bytes).getD .utf8) = true := by
  cases named : declared? bytes with
  | none => rfl
  | some encoding =>
      obtain ⟨label, -, known⟩ := Option.bind_eq_some_iff.mp named
      obtain ⟨entry, found, rfl⟩ := Option.map_eq_some_iff.mp known
      exact readsPlain_of_mem_labelled entry (List.mem_of_find?_eq_some found)

end Decoding

/--
A document of plain bytes is decoded to the characters that the bytes stand for, whatever its
declaration says, and so it is loaded as their text is read.  All the encodings that have a
label agree on such bytes.
-/
theorem plain_documents_decode_alike [MultiByteReading] (bytes : List UInt8)
    (plain : ∀ byte ∈ bytes, IsPlain byte) :
    let text := String.ofList (bytes.map fun byte => Char.ofNat byte.toNat)
    decodeDocument bytes = .ok text ∧
      documentOfBytes bytes = (Markup.Document.parse text).mapError .malformed ∧
      ∀ entry ∈ labelled, entry.1.decode? bytes = some text.toList := by
  intro text
  have selected := select_of_no_pattern (no_pattern_of_isPlain plain)
  have decoded : decodeDocument bytes = .ok text := by
    refine decodeDocument_of_select selected ?_
    rw [decode?_of_isPlain (readsPlain_declared? bytes) plain, String.toList_ofList]
    rfl
  refine ⟨decoded, ?_, fun entry member => ?_⟩
  · rw [documentOfBytes, decoded]
    rfl
  · rw [decode?_of_isPlain (readsPlain_of_mem_labelled entry member) plain, String.toList_ofList]
    rfl

/-- The declarations of an encoding with shifts, followed by a fault, and of a retired one. -/
theorem plain_documents_decode_alike_declared :
    (∀ byte ∈ utf8Bytes "<?xml encoding=' ISO-2022-jp' a?>\x7F\x01~", IsPlain byte) ∧
      decodeDocument (utf8Bytes "<?xml encoding=' ISO-2022-jp' a?>\x7F\x01~") =
        .ok "<?xml encoding=' ISO-2022-jp' a?>\x7F\x01~" ∧
      (∀ byte ∈ utf8Bytes "<?xml encoding='replacement'?>", IsPlain byte) ∧
      decodeDocument (utf8Bytes "<?xml encoding='replacement'?>") =
        .ok "<?xml encoding='replacement'?>" := by
  have shifted : ∀ byte ∈ utf8Bytes "<?xml encoding=' ISO-2022-jp' a?>\x7F\x01~",
      IsPlain byte := by
    decide +kernel
  have retired : ∀ byte ∈ utf8Bytes "<?xml encoding='replacement'?>", IsPlain byte := by
    decide +kernel
  exact ⟨shifted, (plain_documents_decode_alike _ shifted).1, retired,
    (plain_documents_decode_alike _ retired).1⟩

end Encoding

end SchemaScript
