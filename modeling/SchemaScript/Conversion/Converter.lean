import SchemaScript.Conversion.Options
import SchemaScript.Files.Path
import SchemaScript.Schema.BuiltinTypes
import SchemaScript.Schema.Survey
import SchemaScript.Script.Listing
import SchemaScript.Script.Statement

/-!
# Converters

A converter turns a schema into a script or a listing.  The name before the
table names comes from its options or from the name of the input file, which
loses its last dot and what follows it.
-/

namespace SchemaScript

open Schema

/-- Options together with the table of types. -/
structure Converter where
  options : Options := {}
  types : TypeTable := builtinTypes
deriving DecidableEq

namespace Converter

/-- The name before the table names of a schema that is read from a path. -/
def prefixFor (converter : Converter) (path : String) : String :=
  match converter.options.tablePrefix with
  | some given => given
  | none => String.ofList (((Path.fileName? path.toList).map Path.stem).getD [])

def render (converter : Converter) (tablePrefix : String) (tables : List Table) : String :=
  match converter.options.format with
  | .sql => Script.script converter.options.trailingComma tablePrefix tables
  | .json => Script.listing tablePrefix tables

def convertText (converter : Converter) (text tablePrefix : String) :
    Except Markup.Error String :=
  (tablesOfText converter.types text).map (converter.render tablePrefix)

end Converter

end SchemaScript
