import SchemaScript.Proofs.Markup.Position
import SchemaScript.Proofs.Stages
import SchemaScript.Schema.Survey

/-!
# The steps of a survey

A survey goes to the datasets of a schema, and from an element to those children
that have a certain name.  No step leads to an idle child.  Two schemas are
compared by a relation between their elements: if each step leads from related
elements to related ones, and these tell the same about tables and columns, then
the surveys of both schemas agree.
-/

namespace SchemaScript

namespace Schema

open Markup

/--
Two rows of elements are related one by one, but for idle ones that stand in one
of them only.
-/
inductive RelatedApart (idle : Element → Prop) (related : Element → Element → Prop) :
    List Element → List Element → Prop where
  | nil : RelatedApart idle related [] []
  | cons {first other : Element} {rest others : List Element} (same : related first other)
      (later : RelatedApart idle related rest others) :
      RelatedApart idle related (first :: rest) (other :: others)
  | left {first : Element} {rest others : List Element} (alone : idle first)
      (later : RelatedApart idle related rest others) :
      RelatedApart idle related (first :: rest) others
  | right {other : Element} {rest others : List Element} (alone : idle other)
      (later : RelatedApart idle related rest others) :
      RelatedApart idle related rest (other :: others)

namespace RelatedApart

variable {idle : Element → Prop} {related : Element → Element → Prop}
  {elements others : List Element}

theorem of_forall₂ (each : List.Forall₂ related elements others) :
    RelatedApart idle related elements others := by
  induction each with
  | nil => exact .nil
  | cons same _ ih => exact .cons same ih

theorem append_left (same : ∀ element, related element element) (before : List Element)
    (later : RelatedApart idle related elements others) :
    RelatedApart idle related (before ++ elements) (before ++ others) := by
  induction before with
  | nil => exact later
  | cons first before ih => exact .cons (same first) ih

theorem mono {weaker : Element → Prop} (implies : ∀ element, idle element → weaker element)
    (each : RelatedApart idle related elements others) :
    RelatedApart weaker related elements others := by
  induction each with
  | nil => exact .nil
  | cons same _ ih => exact .cons same ih
  | left alone _ ih => exact .left (implies _ alone) ih
  | right alone _ ih => exact .right (implies _ alone) ih

/-- What is found in each element, if nothing is found in an idle one. -/
theorem forall₂_flatMap {find : Element → List Element}
    (each : RelatedApart idle related elements others)
    (nothing : ∀ element, idle element → find element = [])
    (inside : ∀ element ∈ elements, ∀ other, related element other →
      List.Forall₂ related (find element) (find other)) :
    List.Forall₂ related (elements.flatMap find) (others.flatMap find) := by
  induction each with
  | nil => exact .nil
  | cons same _ ih =>
      rw [List.flatMap_cons, List.flatMap_cons]
      apply List.rel_append
      · exact inside _ List.mem_cons_self _ same
      · exact ih fun element member => inside element (.tail _ member)
  | left alone _ ih =>
      rw [List.flatMap_cons, nothing _ alone, List.nil_append]
      exact ih fun element member => inside element (.tail _ member)
  | right alone _ ih =>
      rw [List.flatMap_cons, nothing _ alone, List.nil_append]
      exact ih inside

theorem forall₂_filter {keeps : Element → Bool} (each : RelatedApart idle related elements others)
    (dropped : ∀ element, idle element → keeps element = false)
    (agree : ∀ element other, related element other → keeps element = keeps other) :
    List.Forall₂ related (elements.filter keeps) (others.filter keeps) := by
  induction each with
  | nil => exact .nil
  | @cons first other _ _ same _ ih =>
      have alike := agree first other same
      by_cases kept : keeps first = true
      · rw [List.filter_cons_of_pos kept, List.filter_cons_of_pos (alike ▸ kept)]
        exact .cons same ih
      · rw [List.filter_cons_of_neg kept, List.filter_cons_of_neg (alike ▸ kept)]
        exact ih
  | left alone _ ih =>
      rw [List.filter_cons_of_neg (by simp [dropped _ alone])]
      exact ih
  | right alone _ ih =>
      rw [List.filter_cons_of_neg (by simp [dropped _ alone])]
      exact ih

end RelatedApart

/-- The names of the children to which a survey goes on. -/
def stepNames : List String :=
  ["complexType", "choice", "sequence", "element"]

/-- An element to which no step of a survey leads, with no dataset inside. -/
structure IsIdle (element : Element) : Prop where
  unnamed : ∀ localName ∈ stepNames, element.hasName schemaUri localName = false
  no_dataset : ∀ inside ∈ element.preorder, isDataset inside = false

/-- Related elements tell a survey the same, and its steps lead from them to related ones. -/
structure KeptBySurvey (related : Element → Element → Prop) : Prop where
  hasName {element other : Element} (same : related element other) (localName : String) :
    element.hasName schemaUri localName = other.hasName schemaUri localName
  dataset {element other : Element} (same : related element other) :
    isDataset element = isDataset other
  name {element other : Element} (same : related element other) : nameOf element = nameOf other
  typeName {element other : Element} (same : related element other) :
    typeName? element = typeName? other
  nullable {element other : Element} (same : related element other) :
    isNullable element = isNullable other
  children {element other : Element} (same : related element other) :
    RelatedApart IsIdle related element.children other.children

theorem bind_head?_eq {related : Element → Element → Prop} {elements others : List Element}
    (each : List.Forall₂ related elements others) {Value : Type} {read : Element → Option Value}
    (alike : ∀ element other, related element other → read element = read other) :
    elements.head?.bind read = others.head?.bind read := by
  cases each with
  | nil => rfl
  | cons first _ => exact alike _ _ first

/-- An element names its type by an attribute, or its first restriction does. -/
theorem typeName?_eq_of_restrictions {related : Element → Element → Prop}
    {element other : Element} (type : element.attribute? "type" = other.attribute? "type")
    (inside : List.Forall₂ related (restrictions element) (restrictions other))
    (base : ∀ restriction restriction', related restriction restriction' →
      restriction.attribute? "base" = restriction'.attribute? "base") :
    typeName? element = typeName? other := by
  rw [typeName?, typeName?, type]
  cases other.attribute? "type" with
  | some reference => rfl
  | none => exact bind_head?_eq inside base

theorem map_eq_map {related : Element → Element → Prop} {elements others : List Element}
    (each : List.Forall₂ related elements others) {Value : Type} {read : Element → Value}
    (alike : ∀ element other, related element other → read element = read other) :
    elements.map read = others.map read := by
  induction each with
  | nil => rfl
  | cons first _ ih => rw [List.map_cons, List.map_cons, alike _ _ first, ih]

/-- The datasets inside an element are itself, if it is one, and those inside its children. -/
theorem filter_isDataset_preorder (element : Element) :
    element.preorder.filter isDataset =
      [element].filter isDataset ++
        element.children.flatMap fun child => child.preorder.filter isDataset := by
  rw [Element.preorder_eq, Element.preorderAll_eq_flatMap, ← List.singleton_append,
    List.filter_append, List.filter_flatMap]

namespace KeptBySurvey

variable {related : Element → Element → Prop} (kept : KeptBySurvey related)

include kept

section Elements

variable {element other : Element} (same : related element other)

include same

theorem forall₂_childrenNamed {localName : String} (step : localName ∈ stepNames) :
    List.Forall₂ related (childrenNamed element localName) (childrenNamed other localName) :=
  (kept.children same).forall₂_filter (fun _ idle => idle.unnamed localName step)
    fun _ _ same => kept.hasName same localName

theorem forall₂_tableElements :
    List.Forall₂ related (tableElements element) (tableElements other) :=
  List.rel_flatMap (kept.forall₂_childrenNamed same (by decide)) fun _ _ type =>
    List.rel_flatMap (kept.forall₂_childrenNamed type (by decide)) fun _ _ choice =>
      kept.forall₂_childrenNamed choice (by decide)

theorem forall₂_columnElements :
    List.Forall₂ related (columnElements element) (columnElements other) :=
  List.rel_flatMap (kept.forall₂_childrenNamed same (by decide)) fun _ _ type =>
    List.rel_flatMap (kept.forall₂_childrenNamed type (by decide)) fun _ _ sequence =>
      kept.forall₂_childrenNamed sequence (by decide)

theorem examineColumn_eq (types : TypeTable) :
    examineColumn types element = examineColumn types other := by
  simp only [examineColumn, kept.name same, kept.typeName same, kept.nullable same]

theorem examineTable_eq (types : TypeTable) :
    examineTable types element = examineTable types other := by
  have columns := map_eq_map (kept.forall₂_columnElements same) fun _ _ same =>
    kept.examineColumn_eq same types
  simp only [examineTable, kept.name same, columns]

end Elements

/-- By induction on the first tree: datasets are looked for everywhere inside it. -/
theorem forall₂_datasets {element other : Element} (same : related element other) :
    List.Forall₂ related (element.preorder.filter isDataset) (other.preorder.filter isDataset) := by
  induction element using Element.induction generalizing other with
  | node tag children ih =>
      rw [filter_isDataset_preorder, filter_isDataset_preorder other]
      apply List.rel_append
      · have itself : RelatedApart IsIdle related [⟨tag, children⟩] [other] := .cons same .nil
        apply itself.forall₂_filter
        · intro element idle
          exact idle.no_dataset element (by simp [Element.preorder_eq])
        · exact fun _ _ => kept.dataset
      · apply (kept.children same).forall₂_flatMap
        · intro element idle
          simpa using idle.no_dataset
        · intro child member other same
          exact ih child member same

theorem survey_eq {document other : Document} (same : related document.root other.root)
    (types : TypeTable) : survey types document = survey types other := by
  rw [survey, survey, datasets, datasets, Document.elements_eq_preorder,
    Document.elements_eq_preorder]
  exact map_eq_map (List.rel_flatMap (kept.forall₂_datasets same) fun _ _ same =>
      kept.forall₂_tableElements same)
    fun _ _ same => kept.examineTable_eq same types

/-- Schemas whose roots are related describe the same tables. -/
theorem tables_eq {document other : Document} (same : related document.root other.root)
    (types : TypeTable) : tables types document = tables types other := by
  rw [tables, tables, kept.survey_eq same]

end KeptBySurvey

end Schema

end SchemaScript
