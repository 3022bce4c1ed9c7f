import SchemaScript.Markup.Document

/-!
# The shape of a schema

A schema describes a database by datasets, which may stand anywhere in it.
Inside a dataset lead `complexType` and `choice` to the elements that describe
tables, and inside a table `complexType` and `sequence` to those that describe
columns.  All of these are names of the schema language; what else stands
between them is passed over.
-/

namespace SchemaScript

namespace Schema

open Markup

def schemaUri : String :=
  "http://www.w3.org/2001/XMLSchema"

/-- The local name of the attribute that marks a dataset. -/
def datasetMark : String :=
  "IsDataSet"

/-- The children that have the given name in the schema language. -/
def childrenNamed (element : Element) (localName : String) : List Element :=
  element.childrenNamed schemaUri localName

/-- Whether a text contains the word `true`. -/
def saysTrue (text : String) : Bool :=
  (Text.cut? ['t', 'r', 'u', 'e'] text.toList).isSome

/-- Whether an element is a dataset: only its first mark counts. -/
def isDataset (element : Element) : Bool :=
  element.hasName schemaUri "element" &&
    ((element.attributesByLocalName datasetMark).head?.any fun mark => saysTrue mark.value)

def datasets (document : Document) : List Element :=
  document.elements.filter isDataset

def tableElements (dataset : Element) : List Element :=
  (childrenNamed dataset "complexType").flatMap fun type =>
    (childrenNamed type "choice").flatMap fun choice => childrenNamed choice "element"

def columnElements (table : Element) : List Element :=
  (childrenNamed table "complexType").flatMap fun type =>
    (childrenNamed type "sequence").flatMap fun sequence => childrenNamed sequence "element"

def restrictions (element : Element) : List Element :=
  (childrenNamed element "simpleType").flatMap fun type => childrenNamed type "restriction"

/--
The type reference of a column: its `type`, even if that is blank, or else the
`base` of its first restriction.
-/
def typeName? (column : Element) : Option String :=
  match column.attribute? "type" with
  | some name => some name
  | none => (restrictions column).head?.bind fun restriction => restriction.attribute? "base"

/-- Whether a column may be left out. -/
def isNullable (column : Element) : Bool :=
  column.attribute? "minOccurs" = some "0"

end Schema

end SchemaScript
