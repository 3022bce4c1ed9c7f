import SchemaScript.Files.SystemError

/-!
# Access to files

The little that a conversion needs of a file system: to read a whole file, to
create a file or empty an existing one, and to write to a file it has created.
What is stated about conversions holds for every file system of this kind.
-/

namespace SchemaScript

/-- Computations that may read and write files. -/
class FileAccess (m : Type → Type) where
  Handle : Type
  readFile : String → m (Except SystemError (List UInt8))
  /-- Creates the file at a path, or empties it if it exists. -/
  createFile : String → m (Except SystemError Handle)
  /-- Appends bytes to a file; those that come before a failure are kept. -/
  writeBytes : Handle → List UInt8 → m (Except SystemError Unit)

/-- Writes pieces one after another, up to the first failure. -/
def writePieces {m : Type → Type} [Monad m] {ε : Type}
    (write : List UInt8 → m (Except ε Unit)) : List (List UInt8) → m (Except ε Unit)
  | [] => pure (.ok ())
  | piece :: rest => do
    match ← write piece with
    | .error error => pure (.error error)
    | .ok () => writePieces write rest

end SchemaScript
