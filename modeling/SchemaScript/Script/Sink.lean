import SchemaScript.Encoding.Utf8
import SchemaScript.Files.Access
import SchemaScript.Script.Statement

/-!
# Sinks

A sink takes bytes until its room is used up, and perhaps only a few at a time.
Then it fails, or takes nothing more.  Bytes are offered to it again and again
until all are taken, and a script is written statement by statement.
-/

namespace SchemaScript

namespace Script

/-- What a sink without room does with further bytes. -/
inductive Refusal where
  | failing (error : SystemError)
  /-- It takes none of them and reports that. -/
  | idle
deriving Repr, DecidableEq

structure Sink where
  accepted : List UInt8
  room : Nat
  /-- How many bytes each of the next writes may take beyond its first. -/
  pace : List Nat
  refusal : Refusal
deriving Repr, DecidableEq

namespace Sink

/-- An empty sink that takes all bytes it is offered at once, as far as its room goes. -/
def ofRoom (room : Nat) (refusal : Refusal) : Sink :=
  ⟨[], room, [], refusal⟩

/-- The number of bytes that the next write takes of a number that is offered. -/
def takes (sink : Sink) (offered : Nat) : Nat :=
  let allowed := min offered sink.room
  match sink.pace with
  | [] => allowed
  | beyond :: _ => min allowed (beyond + 1)

/-- Offers bytes once; the result is the number of those that were taken. -/
def write (sink : Sink) (bytes : List UInt8) : Except SystemError Nat × Sink :=
  if sink.room = 0 then
    match sink.refusal with
    | .failing error => (.error error, sink)
    | .idle => (.ok 0, sink)
  else
    let count := sink.takes bytes.length
    (.ok count,
      { sink with
        accepted := sink.accepted ++ bytes.take count
        room := sink.room - count
        pace := sink.pace.tail })

end Sink

/--
Offers bytes until all are taken.  The given step offers them once; its result
is the number of those that were taken.  An offer that the system interrupts is
made again as part of that step.
-/
def writeAll {m : Type → Type} [Monad m] (offer : List UInt8 → m (Except SystemError Nat)) :
    List UInt8 → m (Except SystemError Unit)
  | [] => pure (.ok ())
  | first :: rest => do
    match ← offer (first :: rest) with
    | .error error => pure (.error error)
    | .ok 0 => pure (.error .writeZero)
    | .ok (count + 1) => writeAll offer (rest.drop count)
termination_by bytes => bytes.length
decreasing_by
  rw [List.length_drop, List.length_cons]
  omega

/-- The writing of bytes as a step that changes a sink. -/
def Sink.writer : List UInt8 → StateM Sink (Except SystemError Unit) :=
  writeAll fun bytes sink => sink.write bytes

def writeScript {m : Type → Type} [Monad m] {ε : Type} (trailingComma : Bool)
    (tablePrefix : String) (tables : List Schema.Table)
    (write : List UInt8 → m (Except ε Unit)) : m (Except ε Unit) :=
  writePieces write ((statements trailingComma tablePrefix tables).map Encoding.utf8Bytes)

end Script

end SchemaScript
