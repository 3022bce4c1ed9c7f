/-!
# UTF-8

Texts as bytes in UTF-8.  Decoding is strict, and `decode?_eq_some_iff` says
what that means: bytes are read as a text exactly if they are its encoding.
-/

namespace SchemaScript

namespace Encoding

namespace Utf8

def encode (text : List Char) : List UInt8 :=
  text.flatMap String.utf8EncodeChar

def decode? (bytes : List UInt8) : Option (List Char) :=
  (String.fromUTF8? bytes.toByteArray).map String.toList

theorem encode_append (first second : List Char) :
    encode (first ++ second) = encode first ++ encode second := by
  simp [encode]

private theorem toByteArray_encode (text : List Char) :
    (encode text).toByteArray = (String.ofList text).toByteArray := by
  rw [String.toByteArray_ofList]
  rfl

private theorem fromUTF8?_eq_some_iff {bytes : ByteArray} {text : String} :
    String.fromUTF8? bytes = some text ↔ text.toByteArray = bytes := by
  unfold String.fromUTF8?
  constructor
  · intro found
    split at found
    · cases found
      rfl
    · cases found
  · intro same
    subst same
    rw [dif_pos text.isValidUTF8]
    rfl

/-- Bytes are read as a text exactly if they are its encoding. -/
theorem decode?_eq_some_iff {bytes : List UInt8} {text : List Char} :
    decode? bytes = some text ↔ encode text = bytes := by
  unfold decode?
  rw [Option.map_eq_some_iff]
  constructor
  · rintro ⟨string, found, rfl⟩
    rw [← List.toByteArray_inj, toByteArray_encode, String.ofList_toList,
      fromUTF8?_eq_some_iff.mp found]
  · rintro rfl
    exact ⟨String.ofList text, fromUTF8?_eq_some_iff.mpr (toByteArray_encode text).symm,
      String.toList_ofList⟩

end Utf8

def utf8Bytes (text : String) : List UInt8 :=
  Utf8.encode text.toList

theorem utf8Bytes_join (texts : List String) :
    utf8Bytes (String.join texts) = (texts.map utf8Bytes).flatten := by
  induction texts with
  | nil => rfl
  | cons first rest ih =>
      rw [String.join_cons, List.map_cons, List.flatten_cons, ← ih]
      simp [utf8Bytes, Utf8.encode_append]

end Encoding

end SchemaScript
