import SchemaScript.CommandLine.Program

/-!
# The executable

Runs the program on the file system of the machine.  Everything that it decides
is decided elsewhere; here files are read and written and texts are shown.
-/

namespace SchemaScript

namespace CommandLine

def systemErrorOf (error : IO.Error) : SystemError :=
  match error with
  | .noFileOrDirectory .. => .notFound
  | .inappropriateType _ 20 _ => .notDirectory
  | .inappropriateType _ 21 _ => .isDirectory
  | .resourceExhausted _ 28 _ => .noSpace
  | .invalidArgument _ 36 _ => .nameTooLong
  | error => .other error.toString

def attempt {α : Type} (operation : IO α) : IO (Except SystemError α) := do
  try
    let result ← operation
    return .ok result
  catch error =>
    return .error (systemErrorOf error)

/-- An operation on a path, which has to be acceptable first. -/
def attemptAt {α : Type} (path : String) (operation : IO α) : IO (Except SystemError α) :=
  match Path.refusal? path.toList with
  | some error => return .error error
  | none => attempt operation

instance : FileAccess IO where
  Handle := IO.FS.Handle
  readFile path := attemptAt path do
    let bytes ← IO.FS.readBinFile path
    return bytes.data.toList
  createFile path := attemptAt path (IO.FS.Handle.mk path .write)
  writeBytes handle bytes := attempt do
    handle.write bytes.toByteArray
    handle.flush

end CommandLine

end SchemaScript

/-- Executes the program and shows what is seen of it. -/
def main (texts : List String) : IO UInt32 := do
  let setting ← IO.getEnv "RUST_LOG"
  let execution ← SchemaScript.CommandLine.execute setting texts
  for line in execution.log do
    IO.eprintln line
  IO.print execution.output
  return UInt32.ofNat execution.exitCode
