import SchemaScript.Proofs.Encoding.Declaration

/-!
# Texts in bytes

A text is presented in bytes in UTF-8 or in UTF-16, with a mark or without.
Without a mark, UTF-16 is recognized by the first two characters of a
declaration, and UTF-8 must neither look like something else nor be declared as
something else.  However a text is presented, it is what a document decodes to.
-/

namespace SchemaScript

namespace Encoding

namespace Utf8

/-- The bytes of the mark U+FEFF. -/
def mark : List UInt8 :=
  [0xEF, 0xBB, 0xBF]

variable {text : List Char}

theorem toNat_mem_encode : ∀ byte ∈ encode text, byte.toNat < 0xF8 := by
  intro byte member
  obtain ⟨char, -, within⟩ := List.mem_flatMap.mp member
  by_cases plain : IsAscii char
  · rw [utf8EncodeChar_of_isAscii plain, List.mem_singleton] at within
    rw [within, UInt8.toNat_ofNat']
    exact Nat.lt_of_le_of_lt (Nat.mod_le _ _) (Nat.lt_trans plain (by decide))
  · exact (toNat_mem_utf8EncodeChar plain byte within).2

/-- The first bytes decide about the first character. -/
theorem eq_of_utf8EncodeChar_append_eq {first second : Char} {rest more : List UInt8}
    (same : String.utf8EncodeChar first ++ rest = String.utf8EncodeChar second ++ more) :
    first = second := by
  have read := congrArg (fun bytes => bytes.toByteArray.utf8DecodeChar? 0) same
  simpa [List.toByteArray_append, ByteArray.utf8DecodeChar?_utf8EncodeChar_append] using read

theorem isPrefix_of_encode {start : List Char} (starts : encode start <+: encode text) :
    start <+: text := by
  induction start generalizing text with
  | nil => exact List.nil_prefix
  | cons char start ih =>
      obtain ⟨rest, same⟩ := starts
      cases text with
      | nil =>
          have empty := List.append_eq_nil_iff.mp (List.append_eq_nil_iff.mp same).1
          exact absurd empty.1 String.utf8EncodeChar_ne_nil
      | cons first text =>
          have whole : String.utf8EncodeChar char ++ (encode start ++ rest) =
              String.utf8EncodeChar first ++ encode text := by
            rw [← List.append_assoc]
            exact same
          obtain rfl := eq_of_utf8EncodeChar_append_eq whole
          exact List.cons_prefix_cons.mpr ⟨rfl, ih ⟨rest, List.append_cancel_left whole⟩⟩

end Utf8

namespace Utf16

/-- The bytes of the mark U+FEFF, which tell the order of all bytes. -/
def mark : ByteOrder → List UInt8
  | .bigEndian => [0xFE, 0xFF]
  | .littleEndian => [0xFF, 0xFE]

theorem encode_append (order : ByteOrder) (first second : List Char) :
    encode order (first ++ second) = encode order first ++ encode order second := by
  simp [encode]

theorem encode_isPrefix (order : ByteOrder) {start text : List Char} (starts : start <+: text) :
    encode order start <+: encode order text := by
  obtain ⟨rest, rfl⟩ := starts
  exact ⟨encode order rest, (encode_append order start rest).symm⟩

end Utf16

/-- Nothing in a text makes its bytes in UTF-8 look like those of another encoding. -/
structure StandsUnmarked (text : List Char) : Prop where
  no_mark : text.head? ≠ some '\uFEFF'
  no_bigEndian : ¬ ['\x00', '<', '\x00', '?'] <+: text
  no_littleEndian : ¬ ['<', '\x00', '?', '\x00'] <+: text
  declares : ∀ label, declaredLabel? text = some label →
    ofLabel? label = none ∨ String.ofList (normalizeLabel label) ∈ utf8Labels ++ utf16Labels

/-- The bytes that a text may be stored in. -/
inductive Presents (text : List Char) : List UInt8 → Prop where
  | markedUtf8 : Presents text (Utf8.mark ++ Utf8.encode text)
  | markedUtf16 (order : ByteOrder) : Presents text (Utf16.mark order ++ Utf16.encode order text)
  | openingUtf16 (order : ByteOrder) (opens : ['<', '?'] <+: text) :
      Presents text (Utf16.encode order text)
  | plainUtf8 (plain : StandsUnmarked text) : Presents text (Utf8.encode text)

section Selections

variable {text : List Char}

/-- The first bytes that choose an encoding before a declaration is looked for. -/
def patterns : List (List UInt8) :=
  [[0xFE, 0xFF], [0xFF, 0xFE], [0xEF, 0xBB, 0xBF], [0x00, 0x3C, 0x00, 0x3F],
    [0x3C, 0x00, 0x3F, 0x00]]

theorem select_of_no_pattern {bytes : List UInt8}
    (free : ∀ pattern ∈ patterns, ¬ pattern <+: bytes) :
    select bytes = ⟨(declared? bytes).getD .utf8, bytes⟩ := by
  simp only [patterns, List.forall_mem_cons] at free
  obtain ⟨bigMark, littleMark, utf8Mark, big, little, -⟩ := free
  unfold select
  split
  · exact absurd ⟨_, rfl⟩ bigMark
  · exact absurd ⟨_, rfl⟩ littleMark
  · exact absurd ⟨_, rfl⟩ utf8Mark
  · exact absurd ⟨_, rfl⟩ big
  · exact absurd ⟨_, rfl⟩ little
  · rfl

theorem select_markedUtf8 (body : List UInt8) : select (Utf8.mark ++ body) = ⟨.utf8, body⟩ :=
  rfl

theorem select_markedUtf16 (order : ByteOrder) (body : List UInt8) :
    select (Utf16.mark order ++ body) = ⟨.utf16 order, body⟩ := by
  cases order with
  | bigEndian => rfl
  | littleEndian => rfl

theorem select_openingUtf16 (order : ByteOrder) {bytes : List UInt8}
    (opens : Utf16.encode order ['<', '?'] <+: bytes) : select bytes = ⟨.utf16 order, bytes⟩ := by
  obtain ⟨rest, rfl⟩ := opens
  cases order with
  | bigEndian => rfl
  | littleEndian => rfl

theorem ofLabel?_of_mem {label : List Char}
    (listed : String.ofList (normalizeLabel label) ∈ utf8Labels ++ utf16Labels ++ retiredLabels) :
    ofLabel? label = some .utf8 := by
  have first : labelled =
      (.utf8, utf8Labels ++ utf16Labels ++ retiredLabels) :: labelled.tail := rfl
  unfold ofLabel?
  dsimp only
  rw [first, List.find?_cons_of_pos]
  · rfl
  · exact List.contains_iff_mem.mpr listed

theorem StandsUnmarked.no_pattern (plain : StandsUnmarked text) :
    ∀ pattern ∈ patterns, ¬ pattern <+: Utf8.encode text := by
  have small : ∀ byte ∈ Utf8.encode text, byte.toNat < 0xF8 := Utf8.toNat_mem_encode
  have bounded {first : UInt8} {rest : List UInt8} (large : 0xF8 ≤ first.toNat) :
      ¬ first :: rest <+: Utf8.encode text := by
    intro starts
    have bound := small first (starts.subset List.mem_cons_self)
    omega
  have written (start : List Char) (absent : ¬ start <+: text) :
      ¬ Utf8.encode start <+: Utf8.encode text :=
    fun starts => absent (Utf8.isPrefix_of_encode starts)
  have unmarked : ¬ ['\uFEFF'] <+: text := by
    rintro ⟨rest, rfl⟩
    exact plain.no_mark rfl
  simp only [patterns, List.forall_mem_cons]
  exact ⟨bounded (by decide), bounded (by decide), written ['\uFEFF'] unmarked,
    written ['\x00', '<', '\x00', '?'] plain.no_bigEndian,
    written ['<', '\x00', '?', '\x00'] plain.no_littleEndian, by simp⟩

theorem StandsUnmarked.select_eq (plain : StandsUnmarked text) :
    select (Utf8.encode text) = ⟨.utf8, Utf8.encode text⟩ := by
  rw [select_of_no_pattern plain.no_pattern, declared?_encode]
  cases named : declaredLabel? text with
  | none => rfl
  | some label =>
      rw [Option.bind_some]
      rcases plain.declares label named with unknown | listed
      · rw [unknown]
        rfl
      · rw [ofLabel?_of_mem (List.mem_append_left _ listed)]
        rfl

end Selections

section Decoding

variable [MultiByteReading] {text : String} {bytes : List UInt8}

theorem decodeDocument_of_select {body : List UInt8} {encoding : Encoding}
    (selected : select bytes = ⟨encoding, body⟩)
    (decoded : encoding.decode? body = some text.toList) : decodeDocument bytes = .ok text := by
  simp [decodeDocument, selected, decoded]

/-- A text is decoded from all the bytes that present it. -/
theorem decodeDocument_of_presents (presented : Presents text.toList bytes) :
    decodeDocument bytes = .ok text := by
  have fromUtf8 : decode? .utf8 (Utf8.encode text.toList) = some text.toList :=
    Utf8.decode?_eq_some_iff.mpr rfl
  have fromUtf16 (order : ByteOrder) :
      decode? (.utf16 order) (Utf16.encode order text.toList) = some text.toList :=
    Utf16.decode?_eq_some_iff.mpr rfl
  cases presented with
  | markedUtf8 => exact decodeDocument_of_select (select_markedUtf8 _) fromUtf8
  | markedUtf16 order =>
      exact decodeDocument_of_select (select_markedUtf16 order _) (fromUtf16 order)
  | openingUtf16 order opens =>
      have opensBytes := Utf16.encode_isPrefix order opens
      exact decodeDocument_of_select (select_openingUtf16 order opensBytes) (fromUtf16 order)
  | plainUtf8 plain => exact decodeDocument_of_select plain.select_eq fromUtf8

end Decoding

end Encoding

end SchemaScript
