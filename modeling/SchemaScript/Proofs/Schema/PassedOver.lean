import SchemaScript.Proofs.Schema.Extension
import SchemaScript.Proofs.Schema.Relevance

/-!
# What a survey passes over

A survey follows six names of the schema language, and it looks for datasets
everywhere.  An element of another name without a dataset inside can be taken out
of a schema, wherever it stands, and an attribute that is never looked up can be
added, changed or left out: the schema still describes the same tables.
-/

namespace SchemaScript

namespace Markup

/-- An element without what stands below a position inside it, as the child of a given number. -/
def Element.without (number : Nat) : List Nat → Element → Element
  | [], ⟨tag, children⟩ => ⟨tag, children.eraseIdx number⟩
  | step :: path, ⟨tag, children⟩ =>
    ⟨tag, children.modify step fun child => child.without number path⟩

end Markup

namespace Schema

open Markup

/-! ### Elements that no step leads to -/

section Elements

/-- An element that bears none of the names that a survey follows, with no dataset inside. -/
structure IsPassedOver (element : Element) : Prop where
  unnamed : ∀ localName ∈
      ["complexType", "choice", "sequence", "element", "simpleType", "restriction"],
    element.hasName schemaUri localName = false
  no_dataset : ∀ inside ∈ element.preorder, isDataset inside = false

theorem IsPassedOver.isIdle {element : Element} (passed : IsPassedOver element) :
    IsIdle element where
  unnamed localName step := by
    have followed : stepNames ⊆
        ["complexType", "choice", "sequence", "element", "simpleType", "restriction"] := by decide
    exact passed.unnamed localName (followed step)
  no_dataset := passed.no_dataset

/-- One tree is the other one, perhaps without some element that is passed over. -/
inductive Trimmed : Element → Element → Prop where
  | refl (element : Element) : Trimmed element element
  | here (tag : Tag) (before after : List Element) {passed : Element}
      (skipped : IsPassedOver passed) :
      Trimmed ⟨tag, before ++ passed :: after⟩ ⟨tag, before ++ after⟩
  | inside (tag : Tag) (before after : List Element) {child other : Element}
      (trimmed : Trimmed child other) :
      Trimmed ⟨tag, before ++ child :: after⟩ ⟨tag, before ++ other :: after⟩

variable {element other : Element}

theorem Trimmed.tag_eq (trimmed : Trimmed element other) : element.tag = other.tag := by
  cases trimmed <;> rfl

theorem Trimmed.children (trimmed : Trimmed element other) :
    RelatedApart IsPassedOver Trimmed element.children other.children := by
  have unchanged (after : List Element) : RelatedApart IsPassedOver Trimmed after after :=
    .of_forall₂ (List.forall₂_same.mpr fun element _ => .refl element)
  cases trimmed with
  | refl => exact unchanged _
  | here tag before after skipped =>
      exact .append_left .refl before (.left skipped (unchanged after))
  | inside tag before after trimmed =>
      exact .append_left .refl before (.cons trimmed (unchanged after))

theorem Trimmed.forall₂_childrenNamed (trimmed : Trimmed element other) {localName : String}
    (followed : localName ∈
      ["complexType", "choice", "sequence", "element", "simpleType", "restriction"]) :
    List.Forall₂ Trimmed (childrenNamed element localName) (childrenNamed other localName) := by
  apply trimmed.children.forall₂_filter
  · exact fun passed skipped => skipped.unnamed localName followed
  · intro element other trimmed
    rw [Element.hasName, Element.hasName, trimmed.tag_eq]

theorem Trimmed.forall₂_restrictions (trimmed : Trimmed element other) :
    List.Forall₂ Trimmed (restrictions element) (restrictions other) :=
  List.rel_flatMap (trimmed.forall₂_childrenNamed (by decide)) fun _ _ type =>
    type.forall₂_childrenNamed (by decide)

theorem Trimmed.attribute?_eq (trimmed : Trimmed element other) (key : String) :
    element.attribute? key = other.attribute? key := by
  rw [Element.attribute?, Element.attribute?, trimmed.tag_eq]

theorem keptBySurvey_trimmed : KeptBySurvey Trimmed where
  hasName trimmed localName := by rw [Element.hasName, Element.hasName, trimmed.tag_eq]
  dataset trimmed := by
    rw [isDataset_eq_mark, isDataset_eq_mark, Element.hasName, Element.hasName, trimmed.tag_eq]
  name trimmed := by rw [nameOf, nameOf, trimmed.attribute?_eq]
  typeName trimmed :=
    typeName?_eq_of_restrictions (trimmed.attribute?_eq "type") trimmed.forall₂_restrictions
      fun _ _ first => first.attribute?_eq "base"
  nullable trimmed := by rw [isNullable, isNullable, trimmed.attribute?_eq]
  children trimmed := trimmed.children.mono fun _ skipped => skipped.isIdle

theorem exists_append_cons {items : List Element} {number : Nat} {item : Element}
    (stands : items[number]? = some item) :
    ∃ before after, items = before ++ item :: after ∧ before.length = number := by
  obtain ⟨short, rfl⟩ := List.getElem?_eq_some_iff.mp stands
  refine ⟨items.take number, items.drop (number + 1), ?_,
    List.length_take_of_le (Nat.le_of_lt short)⟩
  rw [List.getElem_cons_drop, List.take_append_drop]

/-- By induction on the position: on the way to it one child at a time is changed. -/
theorem trimmed_without {number : Nat} {path : List Nat} {passed : Element}
    (stands : element.descend? (path ++ [number]) = some passed) (skipped : IsPassedOver passed) :
    Trimmed element (element.without number path) := by
  induction path generalizing element with
  | nil =>
      obtain ⟨tag, children⟩ := element
      obtain ⟨child, here, found⟩ := Element.descend?_cons_eq_some_iff.mp stands
      cases found
      obtain ⟨before, after, rfl, rfl⟩ := exists_append_cons here
      have remaining : (before ++ passed :: after).eraseIdx before.length = before ++ after := by
        simp [List.eraseIdx_append_of_length_le]
      rw [Element.without, remaining]
      exact .here tag before after skipped
  | cons step path ih =>
      obtain ⟨tag, children⟩ := element
      obtain ⟨child, here, found⟩ := Element.descend?_cons_eq_some_iff.mp stands
      obtain ⟨before, after, rfl, rfl⟩ := exists_append_cons here
      have changed (change : Element → Element) :
          (before ++ child :: after).modify before.length change =
            before ++ change child :: after := by
        simp [List.modify_eq_take_drop]
      rw [Element.without, changed]
      exact .inside tag before after (ih found)

end Elements

/-! ### Attributes that are never looked up -/

section Attributes

/-- Whether a survey could look an attribute up, by its whole name or as a mark. -/
def isConsulted (entry : Attribute) : Bool :=
  entry.name ∈ ["name", "type", "minOccurs", "base"] || entry.localName = "IsDataSet"

/-- Two tags with the same name that agree in the attributes that a survey could look up. -/
structure SameButExtras (tag other : Tag) : Prop where
  namespaceUri : tag.namespaceUri = other.namespaceUri
  localName : tag.localName = other.localName
  consulted : tag.attributes.filter isConsulted = other.attributes.filter isConsulted

def consultedOnly (tag : Tag) : Tag :=
  { tag with attributes := tag.attributes.filter isConsulted }

theorem valueOf?_consultedOnly (tag : Tag) {key : String}
    (known : key ∈ ["name", "type", "minOccurs", "base"]) :
    valueOf? (consultedOnly tag) key = valueOf? tag key := by
  apply valueOf?_of_kept
  rintro entry - rfl
  simp [isConsulted, known]

theorem markOf?_consultedOnly (tag : Tag) : markOf? (consultedOnly tag) = markOf? tag := by
  apply markOf?_of_kept
  intro entry _ marked
  simp [isConsulted, marked, datasetMark]

theorem surveyedAlike_of_sameButExtras {tag other : Tag} (same : SameButExtras tag other) :
    SurveyedAlike tag other := by
  have consulted : consultedOnly tag = consultedOnly other := by
    rw [consultedOnly, consultedOnly, same.namespaceUri, same.localName, same.consulted]
  refine ⟨same.namespaceUri, same.localName, ?_, ?_⟩
  · intro key known
    rw [← valueOf?_consultedOnly tag known, consulted, valueOf?_consultedOnly other known]
  · rw [← markOf?_consultedOnly, consulted, markOf?_consultedOnly]

end Attributes

/--
The tables of a schema stay the same when an element below the root is taken out that bears
none of the six names and holds no dataset, at any position, and when any attributes of any
elements are added, changed or left out that are not looked up.
-/
theorem tables_without_passedOver (types : TypeTable) (document : Document) :
    (∀ path number passed,
      document.root.descend? (path ++ [number]) = some passed → IsPassedOver passed →
        tables types ⟨document.root.without number path⟩ = tables types document) ∧
    ∀ other : Document, document.root.Related SameButExtras other.root →
      tables types other = tables types document := by
  constructor
  · intro path number passed stands skipped
    exact (keptBySurvey_trimmed.tables_eq (trimmed_without stands skipped) types).symm
  · intro other same
    exact (tables_eq types (same.mono fun _ _ => surveyedAlike_of_sameButExtras)).symm

section Example

/-- An annotation that holds an element named like a table or column. -/
def remark : Element :=
  schemaElement "annotation" [] [schemaElement "element" [⟨"name", "name", "Note"⟩] []]

/-- A schema with one column, some elements before its restriction, and more attributes of it. -/
def annotatedSchema (asides : List Element) (extras : List Attribute) : Document :=
  let restriction := schemaElement "restriction" [⟨"base", "base", "xs:int"⟩] []
  let column := schemaElement "element" (extras ++ [⟨"name", "name", "Id"⟩])
    [schemaElement "simpleType" [] (asides ++ [restriction])]
  let table := schemaElement "element" [⟨"name", "name", "Item"⟩]
    [schemaElement "complexType" [] [schemaElement "sequence" [] [column]]]
  ⟨schemaElement "element" [⟨"IsDataSet", "IsDataSet", "true"⟩]
    [schemaElement "complexType" [] [schemaElement "choice" [] [table]]]⟩

/-- An annotation before the restriction, and a labelled name before the name of the column. -/
theorem tables_without_passedOver_remark :
    (annotatedSchema [remark] []).root.descend? [0, 0, 0, 0, 0, 0, 0, 0] = some remark ∧
      IsPassedOver remark ∧
      (annotatedSchema [remark] []).root.Related SameButExtras
        (annotatedSchema [remark] [⟨"m:name", "name", "No"⟩]).root ∧
      tables (.ofPairs [("xs:int", "INT")])
          (annotatedSchema [remark] [⟨"m:name", "name", "No"⟩]) =
        [⟨"Item", [⟨"Id", "xs:int", "INT", false⟩]⟩] := by
  have stands : (annotatedSchema [remark] []).root.descend? [0, 0, 0, 0, 0, 0, 0, 0] =
      some remark := rfl
  have skipped : IsPassedOver remark := ⟨by decide, by decide⟩
  have same : (annotatedSchema [remark] []).root.Related SameButExtras
      (annotatedSchema [remark] [⟨"m:name", "name", "No"⟩]).root := by
    repeat' first
      | exact .nil
      | exact ⟨rfl, rfl, rfl⟩
      | apply Element.Related.node
      | apply List.Forall₂.cons
  have plain : tables (.ofPairs [("xs:int", "INT")]) (annotatedSchema [] []) =
      [⟨"Item", [⟨"Id", "xs:int", "INT", false⟩]⟩] := by
    decide +kernel
  have unaffected := tables_without_passedOver (.ofPairs [("xs:int", "INT")])
    (annotatedSchema [remark] [])
  refine ⟨stands, skipped, same, (unaffected.2 _ same).trans ?_⟩
  exact (unaffected.1 [0, 0, 0, 0, 0, 0, 0] 0 remark stands skipped).symm.trans plain

end Example

end Schema

end SchemaScript
