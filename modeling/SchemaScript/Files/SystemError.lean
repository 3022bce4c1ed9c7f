/-!
# Errors of the system

What can go wrong when bytes are read or written, with the wording that the
system has for it.
-/

namespace SchemaScript

/-- Why the system refuses to read or write. -/
inductive SystemError where
  | notFound
  | notDirectory
  | isDirectory
  | noSpace
  | nameTooLong
  /-- A path with a character that ends names. -/
  | endedName
  /-- A write that took nothing although it was given something. -/
  | writeZero
  | other (reason : String)
deriving Repr, DecidableEq

def SystemError.message : SystemError → String
  | notFound => "No such file or directory (os error 2)"
  | notDirectory => "Not a directory (os error 20)"
  | isDirectory => "Is a directory (os error 21)"
  | noSpace => "No space left on device (os error 28)"
  | nameTooLong => "File name too long (os error 36)"
  | endedName => "file name contained an unexpected NUL byte"
  | writeZero => "failed to write whole buffer"
  | other reason => reason

def SystemError.report (error : SystemError) : String :=
  s!"IO error: {error.message}"

end SchemaScript
