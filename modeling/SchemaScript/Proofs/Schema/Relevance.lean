import Mathlib.Data.List.Find
import SchemaScript.Proofs.Markup.Comparison
import SchemaScript.Proofs.Schema.Steps

/-!
# What a survey looks at

A survey looks at the name of an element with its namespace, at four attributes
by their whole names, and at the first mark of a dataset.  Two trees of the same
shape that tell it the same make the same survey, whatever else their tags hold.
-/

namespace SchemaScript

namespace Schema

open Markup

/-- The value of an attribute in a tag, by its whole name. -/
def valueOf? (tag : Tag) (key : String) : Option String :=
  Element.attribute? ⟨tag, []⟩ key

/-- The value of the first attribute in a tag that could mark a dataset. -/
def markOf? (tag : Tag) : Option String :=
  (Element.attributesByLocalName ⟨tag, []⟩ datasetMark).head?.map Attribute.value

section Kept

variable {tag : Tag} {keeps : Attribute → Bool}

theorem find?_filter_of_kept {entries : List Attribute} {wanted : Attribute → Bool}
    (kept : ∀ entry ∈ entries, wanted entry = true → keeps entry = true) :
    (entries.filter keeps).find? wanted = entries.find? wanted := by
  rw [List.find?_filter]
  apply List.find?_congr
  intro entry member
  simpa using kept entry member

theorem valueOf?_of_kept {key : String}
    (kept : ∀ entry ∈ tag.attributes, entry.name = key → keeps entry = true) :
    valueOf? { tag with attributes := tag.attributes.filter keeps } key = valueOf? tag key := by
  rw [valueOf?, valueOf?, Element.attribute?, Element.attribute?, find?_filter_of_kept]
  simpa using kept

theorem markOf?_of_kept
    (kept : ∀ entry ∈ tag.attributes, entry.localName = datasetMark → keeps entry = true) :
    markOf? { tag with attributes := tag.attributes.filter keeps } = markOf? tag := by
  rw [markOf?, markOf?, Element.attributesByLocalName, Element.attributesByLocalName,
    List.head?_filter, List.head?_filter, find?_filter_of_kept]
  simpa using kept

end Kept

/-- Two tags that a survey does not tell apart. -/
structure SurveyedAlike (tag other : Tag) : Prop where
  namespaceUri : tag.namespaceUri = other.namespaceUri
  localName : tag.localName = other.localName
  values : ∀ key ∈ ["name", "type", "minOccurs", "base"], valueOf? tag key = valueOf? other key
  mark : markOf? tag = markOf? other

section Elements

variable {element other : Element}

theorem attribute?_eq (same : element.Related SurveyedAlike other) {key : String}
    (consulted : key ∈ ["name", "type", "minOccurs", "base"]) :
    element.attribute? key = other.attribute? key :=
  same.tag.values key consulted

theorem hasName_eq (same : element.Related SurveyedAlike other) (localName : String) :
    element.hasName schemaUri localName = other.hasName schemaUri localName := by
  simp only [Element.hasName, same.tag.namespaceUri, same.tag.localName]

theorem isDataset_eq_mark (element : Element) :
    isDataset element =
      (element.hasName schemaUri "element" && (markOf? element.tag).any saysTrue) := by
  rw [markOf?, Option.any_map]
  rfl

theorem isDataset_eq (same : element.Related SurveyedAlike other) :
    isDataset element = isDataset other := by
  rw [isDataset_eq_mark, isDataset_eq_mark, hasName_eq same, same.tag.mark]

theorem forall₂_childrenNamed (same : element.Related SurveyedAlike other) (localName : String) :
    List.Forall₂ (Element.Related SurveyedAlike) (childrenNamed element localName)
      (childrenNamed other localName) :=
  (forall₂_filter same.children fun _ _ same => hasName_eq same localName).imp fun _ _ => And.right

theorem forall₂_restrictions (same : element.Related SurveyedAlike other) :
    List.Forall₂ (Element.Related SurveyedAlike) (restrictions element) (restrictions other) :=
  List.rel_flatMap (forall₂_childrenNamed same "simpleType") fun _ _ type =>
    forall₂_childrenNamed type "restriction"

/-- A survey keeps the relation between trees of the same shape whose tags tell it the same. -/
theorem keptBySurvey_related : KeptBySurvey (Element.Related SurveyedAlike) where
  hasName same localName := hasName_eq same localName
  dataset same := isDataset_eq same
  name same := by rw [nameOf, nameOf, attribute?_eq same (by decide)]
  typeName same :=
    typeName?_eq_of_restrictions (attribute?_eq same (by decide)) (forall₂_restrictions same)
      fun _ _ first => attribute?_eq first (by decide)
  nullable same := by rw [isNullable, isNullable, attribute?_eq same (by decide)]
  children same := .of_forall₂ same.children

end Elements

theorem tables_eq {document other : Document} (types : TypeTable)
    (same : document.root.Related SurveyedAlike other.root) :
    tables types document = tables types other :=
  keptBySurvey_related.tables_eq same types

end Schema

end SchemaScript
