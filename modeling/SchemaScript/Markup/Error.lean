import SchemaScript.Markup.Namespace

/-!
# Errors of reading markup

An error names its cause.  Faults of the markup itself carry the offset of the
offending piece in bytes; faults of the tree name the element they concern.
-/

namespace SchemaScript

namespace Markup

/-- Markup that is well delimited but out of place. -/
inductive Misplaced where
  | mismatchedClosing (expected found : List Char)
  | unmatchedClosing (found : List Char)
  | namelessDocumentType
deriving Repr, DecidableEq

def Misplaced.message : Misplaced → String
  | mismatchedClosing expected found =>
    s!"expected `</{String.ofList expected}>`, but `</{String.ofList found}>` was found"
  | unmatchedClosing found =>
    s!"close tag `</{String.ofList found}>` does not match any open tag"
  | namelessDocumentType =>
    "`<!DOCTYPE>` declaration does not contain a name of a document type"

/-- Why the elements of a document do not form one tree. -/
inductive TreeFault where
  | unexpectedClosing
  | multipleRoots (second : String)
  | neverClosed (name : String)
  | missingRoot
deriving Repr, DecidableEq

def TreeFault.message : TreeFault → String
  | unexpectedClosing => "unexpected closing tag"
  | multipleRoots second => s!"multiple root elements (second is '{second}')"
  | neverClosed name => s!"element '{name}' is never closed"
  | missingRoot => "missing root element"

/-- Why a text is not a document. -/
inductive Error where
  | undelimited (offset : Nat) (cause : Token.Fault)
  | misplaced (offset : Nat) (cause : Misplaced)
  | reserved (cause : Namespace.Reserved)
  | assignment (cause : Attribute.Fault)
  | reference (cause : Reference.Fault)
  | tree (cause : TreeFault)
deriving Repr, DecidableEq

/-- A byte in a quoted display of bytes; other than plain ASCII it is shown by its number. -/
def displayByte (byte : UInt8) : String :=
  if byte = 34 then
    "\\\""
  else if 32 ≤ byte ∧ byte ≤ 126 then
    String.singleton (Char.ofNat byte.toNat)
  else
    "0x" ++ String.ofList ((Nat.toDigits 16 byte.toNat).map Char.toUpper)

def displayBytes (text : List Char) : String :=
  "\"" ++ String.join ((text.flatMap String.utf8EncodeChar).map displayByte) ++ "\""

def Error.message : Error → String
  | undelimited offset cause =>
    s!"Parse error: XML parsing error at position {offset}: syntax error: {cause.message}"
  | misplaced offset cause =>
    s!"Parse error: XML parsing error at position {offset}: ill-formed document: {cause.message}"
  | reserved cause =>
    let label := displayBytes cause.label
    let uri := displayBytes cause.uri
    "Parse error: XML parsing error at position 0: "
      ++ s!"The namespace prefix '{label}' cannot be bound to '{uri}'"
  | assignment cause => s!"Parse error: {cause.message}"
  | reference cause => s!"Parse error: {cause.message}"
  | tree cause => s!"Malformed document: {cause.message}"

end Markup

end SchemaScript
