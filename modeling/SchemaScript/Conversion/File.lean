import SchemaScript.Conversion.Converter
import SchemaScript.Conversion.Source
import SchemaScript.Script.Sink

/-!
# Conversion of files

A file is converted in four steps: the source is loaded, its schema is
surveyed, the output is created, and the result is written, a script statement
by statement and a listing at once.  A source that fails leaves the output as
it was, because the output is created only after it.
-/

namespace SchemaScript

open Schema

/-- Why a file was not converted. -/
inductive ConversionError where
  | load (path : String) (cause : SourceError)
  | write (path : String) (cause : SystemError)
deriving Repr, DecidableEq

namespace ConversionError

def message : ConversionError → String
  | load path _ => s!"failed to load schema '{path}'"
  | write path _ => s!"failed to write '{path}'"

def causeMessage : ConversionError → String
  | load _ cause => cause.message
  | write _ cause => cause.report

end ConversionError

structure Summary where
  output : String
  tablePrefix : String
  tables : Nat
  columns : Nat
deriving Repr, DecidableEq

/-- A conversion with the findings of the survey, if it came so far. -/
structure Attempt where
  findings : List TableFinding
  result : Except ConversionError Summary

namespace Converter

/-- Writes tables in the chosen format, piece by piece. -/
def writeTables {m : Type → Type} [Monad m] {ε : Type} (converter : Converter)
    (tablePrefix : String) (tables : List Table) (write : List UInt8 → m (Except ε Unit)) :
    m (Except ε Unit) :=
  match converter.options.format with
  | .sql => Script.writeScript converter.options.trailingComma tablePrefix tables write
  | .json => write (Encoding.utf8Bytes (Script.listing tablePrefix tables))

def writeOutput {m : Type → Type} [Monad m] [FileAccess m] (converter : Converter)
    (output tablePrefix : String) (tables : List Table) : m (Except SystemError Unit) := do
  match ← FileAccess.createFile output with
  | .error error => return .error error
  | .ok handle => converter.writeTables tablePrefix tables (FileAccess.writeBytes handle)

/-- Converts the schema at one path and writes the result to another. -/
def convertFile {m : Type → Type} [Monad m] [FileAccess m] [MultiByteReading]
    (converter : Converter) (input output : String) : m Attempt := do
  match ← loadDocument input with
  | .error cause => return ⟨[], .error (.load input cause)⟩
  | .ok document =>
    let findings := survey converter.types document
    let tables := findings.filterMap TableFinding.table?
    let tablePrefix := converter.prefixFor input
    match ← converter.writeOutput output tablePrefix tables with
    | .error cause => return ⟨findings, .error (.write output cause)⟩
    | .ok () =>
      return ⟨findings, .ok ⟨output, tablePrefix, tables.length, columnCount tables⟩⟩

end Converter

end SchemaScript
