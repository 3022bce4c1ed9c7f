import SchemaScript.Encoding.Document
import SchemaScript.Files.Access
import SchemaScript.Markup.Document

/-!
# Sources

The source of a conversion is a file: its bytes are read, decoded and read as
a document, and each of these steps can fail.
-/

namespace SchemaScript

/-- Why a source yields no document. -/
inductive SourceError where
  | unreadable (error : SystemError)
  | undecodable (failure : Encoding.Undecodable)
  | malformed (error : Markup.Error)
deriving Repr, DecidableEq

def SourceError.message : SourceError → String
  | unreadable error => error.report
  | undecodable failure => failure.message
  | malformed error => error.message

def documentOfBytes [MultiByteReading] (bytes : List UInt8) :
    Except SourceError Markup.Document := do
  let text ← (Encoding.decodeDocument bytes).mapError .undecodable
  (Markup.Document.parse text).mapError .malformed

def loadDocument {m : Type → Type} [Monad m] [FileAccess m] [MultiByteReading]
    (path : String) : m (Except SourceError Markup.Document) := do
  match ← FileAccess.readFile path with
  | .error error => return .error (.unreadable error)
  | .ok bytes => return documentOfBytes bytes

end SchemaScript
