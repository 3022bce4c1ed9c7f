import SchemaScript.Proofs.Markup.Attributes
import SchemaScript.Proofs.Schema.Extension
import SchemaScript.Proofs.Schema.Relevance

/-!
# Types inside elements

An element can refer to its type by an attribute, or by the first restriction
inside it.  Here references are moved from the attributes of some elements to
restrictions inside these elements, wherever they stand in a schema.  An element
that is changed refers to the same type as before, and neither the elements
around it nor those inside it tell a survey anything else.
-/

namespace SchemaScript

namespace Schema

open Markup

/-- A simple type that is a restriction of the given type and nothing more. -/
def simpleTypeOf (reference : String) : Element :=
  ⟨⟨some schemaUri, "simpleType", []⟩,
    [⟨⟨some schemaUri, "restriction", [⟨"base", "base", reference⟩]⟩, []⟩]⟩

def withoutType (tag : Tag) : Tag :=
  { tag with attributes := tag.attributes.filter fun entry => entry.name ≠ "type" }

mutual

/--
A tree in which the elements at the chosen positions, if they have a type by an
attribute, have it by a restriction inside their first child instead.
-/
def inlineTypes (chosen : List Nat → Bool) : Element → Element
  | ⟨tag, children⟩ =>
    match if chosen [] then valueOf? tag "type" else none with
    | some reference =>
      ⟨withoutType tag, simpleTypeOf reference :: inlineTypesAll chosen 0 children⟩
    | none => ⟨tag, inlineTypesAll chosen 0 children⟩

def inlineTypesAll (chosen : List Nat → Bool) (number : Nat) : List Element → List Element
  | [] => []
  | first :: rest =>
    inlineTypes (fun path => chosen (number :: path)) first ::
      inlineTypesAll chosen (number + 1) rest

end

section Tags

variable {tag : Tag} {reference : String}

/-- The local names of all attributes are the local parts of their names. -/
def LocallyNamed (tag : Tag) : Prop :=
  ∀ entry ∈ tag.attributes, IsLocalPart entry.name.toList entry.localName.toList

theorem LocallyNamed.localName_eq (named : LocallyNamed tag) {entry : Attribute}
    (member : entry ∈ tag.attributes) (typed : entry.name = "type") : entry.localName = "type" := by
  rcases named entry member with ⟨-, same⟩ | ⟨label, -, labelled⟩
  · rw [← String.toList_inj, same, typed]
  · have colon : ':' ∈ entry.name.toList := by simp [labelled]
    rw [typed] at colon
    exact absurd colon (by decide)

theorem valueOf?_withoutType {key : String} (other : key ≠ "type") :
    valueOf? (withoutType tag) key = valueOf? tag key := by
  apply valueOf?_of_kept
  rintro entry - rfl
  exact decide_eq_true other

theorem valueOf?_withoutType_type (tag : Tag) : valueOf? (withoutType tag) "type" = none := by
  rw [valueOf?, Element.attribute?, withoutType, List.find?_filter, Option.map_eq_none_iff,
    List.find?_eq_none]
  simp

theorem markOf?_withoutType (named : LocallyNamed tag) :
    markOf? (withoutType tag) = markOf? tag := by
  apply markOf?_of_kept
  intro entry member marked
  apply decide_eq_true
  intro typed
  rw [named.localName_eq member typed] at marked
  exact absurd marked (by decide)

theorem isIdle_simpleTypeOf (reference : String) : IsIdle (simpleTypeOf reference) where
  unnamed localName step := by
    have other : "simpleType" ≠ localName := by
      rintro rfl
      exact absurd step (by decide)
    simp [simpleTypeOf, Element.hasName, other]
  no_dataset inside member := by
    have listed : inside = simpleTypeOf reference ∨ inside ∈ (simpleTypeOf reference).children := by
      simpa [simpleTypeOf, Element.preorder, Element.preorderAll] using member
    rcases listed with rfl | child
    · rfl
    · obtain rfl := List.mem_singleton.mp child
      rfl

end Tags

section Moved

/-- One tree is the other one, with some types moved from attributes to restrictions. -/
inductive TypesMoved : Element → Element → Prop where
  | kept {tag : Tag} {children others : List Element}
      (inside : List.Forall₂ TypesMoved children others) : TypesMoved ⟨tag, children⟩ ⟨tag, others⟩
  | moved {tag : Tag} {children others : List Element} {reference : String}
      (typed : valueOf? tag "type" = some reference) (named : LocallyNamed tag)
      (inside : List.Forall₂ TypesMoved children others) :
      TypesMoved ⟨tag, children⟩ ⟨withoutType tag, simpleTypeOf reference :: others⟩

variable {element other : Element}

theorem TypesMoved.hasName_eq (same : TypesMoved element other) (localName : String) :
    element.hasName schemaUri localName = other.hasName schemaUri localName := by
  cases same <;> rfl

theorem TypesMoved.attribute?_eq (same : TypesMoved element other) {key : String}
    (untouched : key ≠ "type") : element.attribute? key = other.attribute? key := by
  cases same with
  | kept => rfl
  | moved typed named inside => exact (valueOf?_withoutType untouched).symm

theorem TypesMoved.isDataset_eq (same : TypesMoved element other) :
    isDataset element = isDataset other := by
  rw [isDataset_eq_mark, isDataset_eq_mark, same.hasName_eq]
  cases same with
  | kept => rfl
  | moved typed named inside => rw [markOf?_withoutType named]

theorem TypesMoved.children (same : TypesMoved element other) :
    RelatedApart (fun child => ∃ reference, child = simpleTypeOf reference) TypesMoved
      element.children other.children := by
  cases same with
  | kept inside => exact .of_forall₂ inside
  | moved typed named inside => exact .right ⟨_, rfl⟩ (.of_forall₂ inside)

theorem TypesMoved.forall₂_restrictionChildren (same : TypesMoved element other) :
    List.Forall₂ TypesMoved (childrenNamed element "restriction")
      (childrenNamed other "restriction") := by
  apply same.children.forall₂_filter
  · rintro _ ⟨reference, rfl⟩
    rfl
  · exact fun _ _ same => same.hasName_eq "restriction"

/-- A changed element has its old type in the restriction that now comes first. -/
theorem TypesMoved.typeName?_eq (same : TypesMoved element other) :
    typeName? element = typeName? other := by
  cases same with
  | @kept tag children others inside =>
      have simpleTypes : List.Forall₂ TypesMoved
          (childrenNamed ⟨tag, children⟩ "simpleType")
          (childrenNamed ⟨tag, others⟩ "simpleType") := by
        have filtered := forall₂_filter inside fun _ _ same => same.hasName_eq "simpleType"
        exact filtered.imp fun _ _ => And.right
      have inner : List.Forall₂ TypesMoved (restrictions ⟨tag, children⟩)
          (restrictions ⟨tag, others⟩) :=
        List.rel_flatMap simpleTypes fun _ _ type => type.forall₂_restrictionChildren
      exact typeName?_eq_of_restrictions rfl inner fun _ _ first => first.attribute?_eq (by decide)
  | @moved tag children others reference typed named inside =>
      have before : Element.attribute? ⟨tag, children⟩ "type" = some reference := typed
      have after : Element.attribute? ⟨withoutType tag, simpleTypeOf reference :: others⟩ "type" =
          none := valueOf?_withoutType_type tag
      rw [typeName?, typeName?, before, after]
      rfl

theorem keptBySurvey_typesMoved : KeptBySurvey TypesMoved where
  hasName same localName := same.hasName_eq localName
  dataset same := same.isDataset_eq
  name same := by rw [nameOf, nameOf, same.attribute?_eq (by decide)]
  typeName same := same.typeName?_eq
  nullable same := by rw [isNullable, isNullable, same.attribute?_eq (by decide)]
  children same := same.children.mono fun _ inserted => by
    obtain ⟨reference, rfl⟩ := inserted
    exact isIdle_simpleTypeOf reference

theorem forall₂_inlineTypesAll {children : List Element}
    (each : ∀ child ∈ children, ∀ chosen, TypesMoved child (inlineTypes chosen child))
    (chosen : List Nat → Bool) (number : Nat) :
    List.Forall₂ TypesMoved children (inlineTypesAll chosen number children) := by
  induction children generalizing number with
  | nil => exact .nil
  | cons first rest ih =>
      exact .cons (each first (.head _) _)
        (ih (fun child member => each child (.tail _ member)) (number + 1))

theorem typesMoved_inlineTypes (chosen : List Nat → Bool)
    (named : ∀ inside ∈ element.preorder, LocallyNamed inside.tag) :
    TypesMoved element (inlineTypes chosen element) := by
  induction element using Element.induction generalizing chosen with
  | node tag children ih =>
      rw [Element.preorder_eq, Element.preorderAll_eq_flatMap, List.forall_mem_cons] at named
      have inside : List.Forall₂ TypesMoved children (inlineTypesAll chosen 0 children) := by
        apply forall₂_inlineTypesAll
        intro child member chosen
        apply ih child member
        intro inner among
        exact named.2 inner (List.mem_flatMap.mpr ⟨child, member, among⟩)
      rw [inlineTypes]
      split
      · rename_i reference given
        have typed : valueOf? tag "type" = some reference := by
          split at given
          · exact given
          · cases given
        exact .moved typed named.1 inside
      · exact .kept inside

end Moved

/-- In a document that was read, local names are what the names say. -/
theorem locallyNamed_of_parse {text : String} {document : Document}
    (read : Document.parse text = .ok document) {element : Element}
    (member : element ∈ document.root.preorder) : LocallyNamed element.tag := by
  rw [← Element.map_snd_located] at member
  obtain ⟨⟨path, _⟩, listed, rfl⟩ := List.mem_map.mp member
  exact (Document.wellFormed_of_parse read (Element.mem_located_iff.mp listed)).localNames

theorem tables_eq_inlineTypes (types : TypeTable) (document : Document) (chosen : List Nat → Bool)
    (named : ∀ element ∈ document.root.preorder, LocallyNamed element.tag) :
    tables types ⟨inlineTypes chosen document.root⟩ = tables types document :=
  (keptBySurvey_typesMoved.tables_eq (typesMoved_inlineTypes chosen named) types).symm

/--
The tables of a schema stay the same when elements at any positions, whatever else they are, no
longer have their types by attributes, but by restrictions inside their first children.  This
takes local names that say what the whole names say, as they do in every document that was read.
-/
theorem tables_inlineTypes (types : TypeTable) (chosen : List Nat → Bool) :
    (∀ document : Document, (∀ element ∈ document.root.preorder, LocallyNamed element.tag) →
      tables types ⟨inlineTypes chosen document.root⟩ = tables types document) ∧
    ∀ text document, Document.parse text = .ok document →
      tables types ⟨inlineTypes chosen document.root⟩ = tables types document := by
  constructor
  · intro document named
    exact tables_eq_inlineTypes types document chosen named
  · intro text document read
    apply tables_eq_inlineTypes
    intro element member
    exact locallyNamed_of_parse read member

section Example

/--
A table that is also a dataset, and whose own type is empty.  Its first column has a
restriction besides its type, and its second column has a type that is not known.
-/
def typedSchema : Document :=
  let restricted := schemaElement "simpleType" []
    [schemaElement "restriction" [⟨"base", "base", "xs:date"⟩] []]
  let columns :=
    [schemaElement "element" [⟨"type", "type", "xs:int"⟩, ⟨"name", "name", "A"⟩] [restricted],
      schemaElement "element" [⟨"name", "name", "B"⟩, ⟨"type", "type", "C"⟩] []]
  let innerTable := schemaElement "element" [⟨"name", "name", "U"⟩, ⟨"type", "type", "xs:int"⟩] []
  let table := schemaElement "element"
    [⟨"name", "name", "T"⟩, ⟨"IsDataSet", "IsDataSet", "true"⟩, ⟨"type", "type", ""⟩]
    [schemaElement "complexType" []
      [schemaElement "choice" [] [innerTable], schemaElement "sequence" [] columns]]
  ⟨schemaElement "element" [⟨"type", "type", "D"⟩, ⟨"IsDataSet", "IsDataSet", "true"⟩]
    [schemaElement "complexType" [] [schemaElement "choice" [] [table]]]⟩

def typedTypes : TypeTable :=
  .ofPairs [("xs:int", "INT"), ("xs:date", "DATE")]

theorem tables_inlineTypes_everywhere :
    (∀ element ∈ typedSchema.root.preorder, LocallyNamed element.tag) ∧
      tables typedTypes ⟨inlineTypes (fun _ => true) typedSchema.root⟩ =
        [⟨"T", [⟨"A", "xs:int", "INT", false⟩]⟩, ⟨"U", []⟩] := by
  have named : ∀ element ∈ typedSchema.root.preorder, LocallyNamed element.tag := by
    have unlabelled : ∀ element ∈ typedSchema.root.preorder, ∀ entry ∈ element.tag.attributes,
        ':' ∉ entry.name.toList ∧ entry.localName = entry.name := by decide
    intro element member entry among
    obtain ⟨plain, same⟩ := unlabelled element member entry among
    exact .inl ⟨plain, by rw [same]⟩
  have described : tables typedTypes typedSchema =
      [⟨"T", [⟨"A", "xs:int", "INT", false⟩]⟩, ⟨"U", []⟩] := by
    decide +kernel
  exact ⟨named, ((tables_inlineTypes typedTypes _).1 typedSchema named).trans described⟩

end Example

end Schema

end SchemaScript
