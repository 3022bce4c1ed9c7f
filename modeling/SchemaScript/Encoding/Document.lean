import SchemaScript.Encoding.Labels
import SchemaScript.Markup.Attribute

/-!
# The encoding of a document

The first bytes of a document tell its encoding: a byte-order mark, or the
first two characters of a declaration in UTF-16.  Otherwise the document may
open with a declaration that names its encoding, and if it does not it is in
UTF-8.
-/

namespace SchemaScript

namespace Encoding

/-- The key under which a declaration names an encoding. -/
def encodingKey : List Char :=
  ['e', 'n', 'c', 'o', 'd', 'i', 'n', 'g']

/--
The label in the content of the declaration that opens a text.  It is read up
to the first fault, and a text without a declaration names no encoding.
-/
def declaredLabel? (text : List Char) : Option (List Char) := do
  let opened ← Text.after? ['<', '?'] text
  match Markup.Token.readInstruction opened with
  | .ok (.instruction content, _) =>
    let row ← Text.after? ['x', 'm', 'l'] content
    if row.head?.all Markup.isBlank then
      let read := Markup.Assignment.readAll false [] 3 row
      let named ← read.assignments.find? fun assignment => assignment.key.name = encodingKey
      return named.value
    else
      none
  | _ => none

def declared? (bytes : List UInt8) : Option Encoding :=
  (declaredLabel? (bytewise bytes)).bind ofLabel?

structure Selection where
  encoding : Encoding
  body : List UInt8
deriving Repr, DecidableEq

/-- Chooses the encoding of a document; a byte-order mark is not part of it. -/
def select (bytes : List UInt8) : Selection :=
  match bytes with
  | 0xFE :: 0xFF :: body => ⟨.utf16 .bigEndian, body⟩
  | 0xFF :: 0xFE :: body => ⟨.utf16 .littleEndian, body⟩
  | 0xEF :: 0xBB :: 0xBF :: body => ⟨.utf8, body⟩
  | 0x00 :: 0x3C :: 0x00 :: 0x3F :: _ => ⟨.utf16 .bigEndian, bytes⟩
  | 0x3C :: 0x00 :: 0x3F :: 0x00 :: _ => ⟨.utf16 .littleEndian, bytes⟩
  | _ => ⟨(declared? bytes).getD .utf8, bytes⟩

/-- A document that its encoding cannot be read in. -/
structure Undecodable where
  encoding : Encoding
deriving Repr, DecidableEq

def Undecodable.message (failure : Undecodable) : String :=
  s!"Parse error: document is not valid {failure.encoding.name}"

def decodeDocument [MultiByteReading] (bytes : List UInt8) : Except Undecodable String :=
  let selection := select bytes
  match selection.encoding.decode? selection.body with
  | some text => .ok (String.ofList text)
  | none => .error ⟨selection.encoding⟩

end Encoding

end SchemaScript
