import SchemaScript.Encoding.CodePageTables
import SchemaScript.Encoding.Utf16
import SchemaScript.Encoding.Utf8

/-!
# Encodings

The encodings that a document may be written in.  All decoding is strict: a
single byte that does not fit makes the whole text unreadable.

How the encodings with characters of several bytes are read is a parameter,
`MultiByteReading`.  All that is asked of it is that it reads the bytes that
such an encoding shares with ASCII.
-/

namespace SchemaScript

namespace Encoding

/-- The text of bytes in which every byte counts as one character. -/
def bytewise (bytes : List UInt8) : List Char :=
  bytes.map fun byte => Char.ofNat byte.toNat

/-- What reads each byte as a character of its own number reads a row of them so. -/
theorem mapM_eq_bytewise {read : UInt8 → Option Char} {bytes : List UInt8}
    (each : ∀ byte ∈ bytes, read byte = some (Char.ofNat byte.toNat)) :
    bytes.mapM read = some (bytewise bytes) := by
  induction bytes with
  | nil => rfl
  | cons byte bytes ih =>
      obtain ⟨first, rest⟩ := List.forall_mem_cons.mp each
      rw [List.mapM_cons, first, ih rest]
      rfl

end Encoding

/-- An encoding in which some characters take several bytes. -/
structure MultiByteSet where
  name : String
  /-- The ASCII bytes that do not stand for themselves. -/
  shifts : List UInt8
deriving Repr, DecidableEq

namespace MultiByteSet

/-- A byte that the encoding shares with ASCII. -/
def Shares (set : MultiByteSet) (byte : UInt8) : Prop :=
  byte.toNat < Encoding.CodePage.lowerSize ∧ byte ∉ set.shifts

instance (set : MultiByteSet) (byte : UInt8) : Decidable (set.Shares byte) :=
  inferInstanceAs (Decidable (_ ∧ _))

def sharedChar? (set : MultiByteSet) (byte : UInt8) : Option Char :=
  if set.Shares byte then some (Char.ofNat byte.toNat) else none

end MultiByteSet

/--
How the encodings with characters of several bytes are read.  Which bytes are such a character
is left open; a text of bytes that are shared with ASCII is read byte by byte.
-/
class MultiByteReading where
  decode? : MultiByteSet → List UInt8 → Option (List Char)
  decode?_of_shared (set : MultiByteSet) (bytes : List UInt8)
    (shared : ∀ byte ∈ bytes, set.Shares byte) :
    decode? set bytes = some (Encoding.bytewise bytes)

/-- The reading without any character of several bytes, for where no other is given. -/
instance (priority := low) MultiByteReading.sharedOnly : MultiByteReading where
  decode? set bytes := bytes.mapM set.sharedChar?
  decode?_of_shared _ _ shared :=
    Encoding.mapM_eq_bytewise fun byte member => if_pos (shared byte member)

inductive Encoding where
  | utf8
  | utf16 (order : Encoding.ByteOrder)
  | codePage (page : Encoding.CodePage)
  | multiByte (set : MultiByteSet)
deriving Repr, DecidableEq

namespace Encoding

def name : Encoding → String
  | utf8 => "UTF-8"
  | utf16 .bigEndian => "UTF-16BE"
  | utf16 .littleEndian => "UTF-16LE"
  | codePage page => page.name
  | multiByte set => set.name

def decode? [MultiByteReading] (encoding : Encoding) (bytes : List UInt8) :
    Option (List Char) :=
  match encoding with
  | utf8 => Utf8.decode? bytes
  | utf16 order => Utf16.decode? order bytes
  | codePage page => page.decode? bytes
  | multiByte set => MultiByteReading.decode? set bytes

end Encoding

end SchemaScript
