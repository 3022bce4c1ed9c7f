import SchemaScript.Proofs.Encoding.Surrogates

/-!
# Documents are decoded exactly

A document in UTF-8 or in UTF-16 is decoded to the text whose bytes it has, and
to no other.  If its bytes are those of no text, then they are malformed at some
place, and it is refused.
-/

namespace SchemaScript

namespace Encoding

/-- The encodings that every text can be written in. -/
inductive UnicodeForm where
  | utf8
  | utf16 (order : ByteOrder)

namespace UnicodeForm

def encoding : UnicodeForm → Encoding
  | utf8 => .utf8
  | utf16 order => .utf16 order

def encode : UnicodeForm → List Char → List UInt8
  | utf8 => Utf8.encode
  | utf16 order => Utf16.encode order

def mark : UnicodeForm → List UInt8
  | utf8 => Utf8.mark
  | utf16 order => Utf16.mark order

/-- Bytes at whose start no character stands. -/
def Malformed : UnicodeForm → List UInt8 → Prop
  | utf8 => Utf8.Malformed
  | utf16 order => Utf16.Malformed order

variable {bytes body : List UInt8} {text : List Char}

theorem encoding_injective : Function.Injective encoding := by
  intro first second same
  cases first <;> cases second <;> cases same <;> rfl

theorem decode?_eq_some_iff [MultiByteReading] (form : UnicodeForm) :
    form.encoding.decode? body = some text ↔ form.encode text = body := by
  cases form with
  | utf8 => exact Utf8.decode?_eq_some_iff
  | utf16 order => exact Utf16.decode?_eq_some_iff

/-- Bytes are no text exactly if they are malformed somewhere behind a text. -/
theorem encode_ne_iff (form : UnicodeForm) :
    (∀ text, form.encode text ≠ bytes) ↔
      ∃ front rest, bytes = form.encode front ++ rest ∧ form.Malformed rest := by
  cases form with
  | utf8 => exact Utf8.characterCode.encode_ne_iff
  | utf16 order =>
      simp only [encode, Utf16.encode_eq_flatMap]
      exact (Utf16.characterCode order).encode_ne_iff

end UnicodeForm

/-- A label that leaves a document in UTF-8: no encoding has it, or it counts as one of UTF-8. -/
def KeepsUtf8 (label : List Char) : Prop :=
  ofLabel? label = none ∨
    String.ofList (normalizeLabel label) ∈ utf8Labels ++ utf16Labels ++ retiredLabels

/--
The bytes that say that a document is in UTF-8 or in UTF-16, and the part of them that is
decoded.
-/
inductive Selects : List UInt8 → UnicodeForm → List UInt8 → Prop where
  | marked (form : UnicodeForm) (body : List UInt8) : Selects (form.mark ++ body) form body
  | openingUtf16 (order : ByteOrder) {bytes : List UInt8}
      (opens : Utf16.encode order ['<', '?'] <+: bytes) : Selects bytes (.utf16 order) bytes
  | plain {bytes : List UInt8} (free : ∀ pattern ∈ patterns, ¬ pattern <+: bytes)
      (declares : ∀ label, declaredLabel? (bytewise bytes) = some label → KeepsUtf8 label) :
      Selects bytes .utf8 bytes

section Selections

variable {bytes body : List UInt8} {form : UnicodeForm} {label : List Char}

/-- An encoding that is neither UTF-8 nor UTF-16. -/
def isLegacy : Encoding → Bool
  | codePage _ => true
  | multiByte _ => true
  | utf8 => false
  | utf16 _ => false

theorem UnicodeForm.isLegacy_encoding (form : UnicodeForm) :
    isLegacy form.encoding = false := by
  cases form <;> rfl

theorem isLegacy_of_mem_tail : ∀ entry ∈ labelled.tail, isLegacy entry.1 = true := by
  have table : labelled.tail.all (fun entry => isLegacy entry.1) = true := rfl
  exact List.all_eq_true.mp table

/-- No label names UTF-16, and UTF-8 has three lists of them. -/
theorem ofLabel?_eq_some_encoding_iff :
    ofLabel? label = some form.encoding ↔ form = .utf8 ∧
      String.ofList (normalizeLabel label) ∈ utf8Labels ++ utf16Labels ++ retiredLabels := by
  constructor
  · intro named
    by_cases listed :
        String.ofList (normalizeLabel label) ∈ utf8Labels ++ utf16Labels ++ retiredLabels
    · rw [ofLabel?_of_mem listed] at named
      exact ⟨UnicodeForm.encoding_injective (Option.some.inj named).symm, listed⟩
    · have first : labelled =
          (.utf8, utf8Labels ++ utf16Labels ++ retiredLabels) :: labelled.tail := rfl
      unfold ofLabel? at named
      dsimp only at named
      rw [first, List.find?_cons_of_neg (by simpa using listed)] at named
      obtain ⟨entry, found, same⟩ := Option.map_eq_some_iff.mp named
      have legacy := isLegacy_of_mem_tail entry (List.mem_of_find?_eq_some found)
      rw [same, form.isLegacy_encoding] at legacy
      cases legacy
  · rintro ⟨rfl, listed⟩
    exact ofLabel?_of_mem listed

theorem utf8_eq_encoding_iff : .utf8 = form.encoding ↔ form = .utf8 := by
  constructor
  · intro same
    exact UnicodeForm.encoding_injective same.symm
  · rintro rfl
    rfl

theorem getD_ofLabel?_eq_iff :
    (ofLabel? label).getD .utf8 = form.encoding ↔ form = .utf8 ∧ KeepsUtf8 label := by
  rw [KeepsUtf8, and_or_left, ← ofLabel?_eq_some_encoding_iff]
  cases ofLabel? label with
  | none => simp [utf8_eq_encoding_iff]
  | some encoding => simp

theorem getD_declared?_eq_iff :
    (declared? bytes).getD .utf8 = form.encoding ↔ form = .utf8 ∧
      ∀ label, declaredLabel? (bytewise bytes) = some label → KeepsUtf8 label := by
  rw [declared?]
  cases declaredLabel? (bytewise bytes) with
  | none => simp [utf8_eq_encoding_iff]
  | some label => simp [getD_ofLabel?_eq_iff]

theorem exists_selects_of_pattern {pattern : List UInt8} (member : pattern ∈ patterns)
    (starts : pattern <+: bytes) :
    ∃ form body, select bytes = ⟨form.encoding, body⟩ ∧ Selects bytes form body := by
  obtain ⟨rest, rfl⟩ := starts
  simp only [patterns, List.mem_cons, List.not_mem_nil, or_false] at member
  rcases member with rfl | rfl | rfl | rfl | rfl
  · exact ⟨.utf16 .bigEndian, rest, rfl, .marked (.utf16 .bigEndian) rest⟩
  · exact ⟨.utf16 .littleEndian, rest, rfl, .marked (.utf16 .littleEndian) rest⟩
  · exact ⟨.utf8, rest, rfl, .marked .utf8 rest⟩
  · exact ⟨.utf16 .bigEndian, _, rfl, .openingUtf16 .bigEndian ⟨rest, rfl⟩⟩
  · exact ⟨.utf16 .littleEndian, _, rfl, .openingUtf16 .littleEndian ⟨rest, rfl⟩⟩

theorem select_eq_iff : select bytes = ⟨form.encoding, body⟩ ↔ Selects bytes form body := by
  constructor
  · intro selected
    by_cases free : ∀ pattern ∈ patterns, ¬ pattern <+: bytes
    · rw [select_of_no_pattern free, Selection.mk.injEq, getD_declared?_eq_iff] at selected
      obtain ⟨⟨rfl, declares⟩, rfl⟩ := selected
      exact .plain free declares
    · obtain ⟨pattern, member, starts⟩ : ∃ pattern ∈ patterns, pattern <+: bytes := by
        simpa using free
      obtain ⟨other, rest, selectedToo, selects⟩ := exists_selects_of_pattern member starts
      rw [selected, Selection.mk.injEq] at selectedToo
      obtain ⟨same, rfl⟩ := selectedToo
      obtain rfl := UnicodeForm.encoding_injective same
      exact selects
  · intro selects
    cases selects with
    | marked form body =>
        cases form with
        | utf8 => exact select_markedUtf8 _
        | utf16 order => exact select_markedUtf16 order _
    | openingUtf16 order opens => exact select_openingUtf16 order opens
    | plain free declares =>
        rw [select_of_no_pattern free, getD_declared?_eq_iff.mpr ⟨rfl, declares⟩]

end Selections

section Decoding

variable [MultiByteReading] {bytes body : List UInt8} {form : UnicodeForm}

theorem decodeDocument_eq_ok_iff (selected : select bytes = ⟨form.encoding, body⟩) {text : String} :
    decodeDocument bytes = .ok text ↔ form.encode text.toList = body := by
  rw [← form.decode?_eq_some_iff]
  unfold decodeDocument
  rw [selected]
  dsimp only
  cases form.encoding.decode? body with
  | none => simp
  | some chars => simp [String.ext_iff]

theorem decodeDocument_eq_error_iff (selected : select bytes = ⟨form.encoding, body⟩) :
    decodeDocument bytes = .error ⟨form.encoding⟩ ↔ ∀ text, form.encode text ≠ body := by
  simp only [ne_eq, ← form.decode?_eq_some_iff]
  unfold decodeDocument
  rw [selected]
  dsimp only
  cases form.encoding.decode? body with
  | none => simp
  | some chars => simp

/--
Which documents are in UTF-8 or UTF-16 is told by their first bytes and their declaration.
Such a document is decoded to the text that has its bytes, and if there is none it is
refused.  There is none exactly if the bytes are malformed somewhere.
-/
theorem decodeDocument_exact (bytes : List UInt8) (form : UnicodeForm) (body : List UInt8) :
    (select bytes = ⟨form.encoding, body⟩ ↔ Selects bytes form body) ∧
      (Selects bytes form body →
        (∀ text, decodeDocument bytes = .ok text ↔ form.encode text.toList = body) ∧
        (decodeDocument bytes = .error ⟨form.encoding⟩ ↔ ∀ text, form.encode text ≠ body) ∧
        ((∀ text, form.encode text ≠ body) ↔
          ∃ front rest, body = form.encode front ++ rest ∧ form.Malformed rest)) := by
  refine ⟨select_eq_iff, fun selects => ?_⟩
  have selected := select_eq_iff.mpr selects
  exact ⟨fun _ => decodeDocument_eq_ok_iff selected, decodeDocument_eq_error_iff selected,
    form.encode_ne_iff⟩

end Decoding

/-- The first half of a pair at the very end is found out. -/
theorem decodeDocument_exact_loneStart :
    Selects [0xFE, 0xFF, 0x00, 0x3C, 0xD8, 0x00] (.utf16 .bigEndian) [0x00, 0x3C, 0xD8, 0x00] ∧
      decodeDocument [0xFE, 0xFF, 0x00, 0x3C, 0xD8, 0x00] = .error ⟨.utf16 .bigEndian⟩ := by
  have selects : Selects [0xFE, 0xFF, 0x00, 0x3C, 0xD8, 0x00] (.utf16 .bigEndian)
      [0x00, 0x3C, 0xD8, 0x00] := .marked (.utf16 .bigEndian) _
  have malformed : Utf16.Malformed .bigEndian [0xD8, 0x00] := by
    refine @Utf16.Malformed.loneStart .bigEndian 0xD800 [] (by decide) ?_
    intro next more ends
    exact (Utf16.bytesOfUnit_append_ne_nil _ _ _).symm
  obtain ⟨-, refused, untold⟩ := (decodeDocument_exact _ _ _).2 selects
  exact ⟨selects, refused.mpr (untold.mpr ⟨['<'], [0xD8, 0x00], rfl, malformed⟩)⟩

end Encoding

end SchemaScript
