import SchemaScript.Schema.TypeTable

/-!
# Built-in types

The table for the types of the schema language itself, listed from strings over
numbers and dates to names and identifiers.  Lists of names, which are written
with blanks between them, take unlimited text, like strings do.
-/

namespace SchemaScript

namespace Schema

/-- The pairs of the built-in table, in their listed order. -/
def builtinPairs : List (String × String) :=
  [("xs:string", "NVARCHAR(MAX)"),
    ("xs:normalizedString", "NVARCHAR(MAX)"),
    ("xs:token", "NVARCHAR(MAX)"),
    ("xs:base64Binary", "VARBINARY(MAX)"),
    ("xs:hexBinary", "VARBINARY(MAX)"),
    ("xs:integer", "BIGINT"),
    ("xs:positiveInteger", "BIGINT"),
    ("xs:negativeInteger", "BIGINT"),
    ("xs:nonNegativeInteger", "BIGINT"),
    ("xs:nonPositiveInteger", "BIGINT"),
    ("xs:long", "BIGINT"),
    ("xs:int", "INT"),
    ("xs:short", "SMALLINT"),
    ("xs:byte", "TINYINT"),
    ("xs:unsignedLong", "DECIMAL(20, 0)"),
    ("xs:unsignedInt", "BIGINT"),
    ("xs:unsignedShort", "INT"),
    ("xs:unsignedByte", "SMALLINT"),
    ("xs:decimal", "DECIMAL(18, 2)"),
    ("xs:float", "REAL"),
    ("xs:double", "FLOAT"),
    ("xs:boolean", "BIT"),
    ("xs:dateTime", "DATETIME"),
    ("xs:date", "DATE"),
    ("xs:time", "TIME"),
    ("xs:duration", "NVARCHAR(50)"),
    ("xs:gYearMonth", "NVARCHAR(7)"),
    ("xs:gYear", "SMALLINT"),
    ("xs:gMonthDay", "NVARCHAR(5)"),
    ("xs:gDay", "NVARCHAR(5)"),
    ("xs:gMonth", "NVARCHAR(5)"),
    ("xs:anyURI", "NVARCHAR(MAX)"),
    ("xs:QName", "NVARCHAR(255)"),
    ("xs:NOTATION", "NVARCHAR(255)"),
    ("xs:ID", "NVARCHAR(255)"),
    ("xs:IDREF", "NVARCHAR(255)"),
    ("xs:IDREFS", "NVARCHAR(MAX)"),
    ("xs:ENTITY", "NVARCHAR(255)"),
    ("xs:ENTITIES", "NVARCHAR(MAX)"),
    ("xs:NMTOKEN", "NVARCHAR(255)"),
    ("xs:guid", "UNIQUEIDENTIFIER")]

def builtinTypes : TypeTable :=
  TypeTable.ofPairs builtinPairs

end Schema

end SchemaScript
