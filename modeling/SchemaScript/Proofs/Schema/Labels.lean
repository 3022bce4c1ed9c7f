import SchemaScript.Proofs.Markup.Correspondence
import SchemaScript.Proofs.Schema.Relevance

/-!
# Schemas under other labels

It does not matter which labels a schema uses for its namespaces.  The names
that a survey looks up have no label, and those of elements and of marks are
compared without it.
-/

namespace SchemaScript

namespace Schema

open Markup Markup.Grammar

section Tags

variable {tag other : Tag}

theorem valueOf?_eq (same : tag.SameButLabels other) {key : String}
    (unlabelled : ':' ∉ key.toList) : valueOf? tag key = valueOf? other key := by
  obtain ⟨uri, localName, attributes⟩ := tag
  obtain ⟨otherUri, otherName, others⟩ := other
  have each : List.Forall₂ Attribute.SameButLabel attributes others := same.attributes
  rw [valueOf?, valueOf?, Element.attribute?, Element.attribute?]
  clear same
  dsimp only
  induction each with
  | nil => rfl
  | @cons first second _ _ head _ ih =>
      have agree : (first.name = key) = (second.name = key) :=
        propext (head.unlabelled key unlabelled)
      simp only [List.find?_cons, agree]
      split
      · simp [head.value]
      · exact ih

theorem markOf?_eq (same : tag.SameButLabels other) : markOf? tag = markOf? other := by
  have agree : ∀ first second : Attribute, first.SameButLabel second →
      decide (first.localName = datasetMark) = decide (second.localName = datasetMark) :=
    fun _ _ same => by rw [same.localName]
  have marks := forall₂_filter same.attributes agree
  rw [markOf?, markOf?, Element.attributesByLocalName, Element.attributesByLocalName]
  generalize List.filter _ tag.attributes = first at marks ⊢
  generalize List.filter _ other.attributes = second at marks ⊢
  cases marks with
  | nil => rfl
  | cons head _ => simp [head.2.value]

theorem surveyedAlike_of_sameButLabels (same : tag.SameButLabels other) :
    SurveyedAlike tag other where
  namespaceUri := same.namespaceUri
  localName := same.localName
  values := by
    have table : ∀ key ∈ ["name", "type", "minOccurs", "base"], ':' ∉ key.toList := by decide
    exact fun key consulted => valueOf?_eq same (table key consulted)
  mark := markOf?_eq same

end Tags

/--
A text that is written as tags may have its labels renamed, as long as they stay apart and the
reserved ones stay what they are.  It is a document exactly if it was one before; the trees are
the same but for the labels of attributes, and describe the same tables.
-/
theorem relabelled_tables (rename : NCName → NCName) (pieces : List Piece)
    (kept : ∀ label, label.IsReserved → rename label = label)
    (injective : Set.InjOn rename {label | label ∈ labelsOf pieces})
    (unreserved : ∀ label ∈ labelsOf pieces, (rename label).IsReserved → label.IsReserved) :
    let text := String.ofList (textOf pieces)
    let renamed := String.ofList (textOf (pieces.map (Piece.relabel rename)))
    ((∃ document, Document.parse text = .ok document) ↔
      ∃ document, Document.parse renamed = .ok document) ∧
    ∀ document other, Document.parse text = .ok document → Document.parse renamed = .ok other →
      document.root.Related Tag.SameButLabels other.root ∧
        ∀ types, tables types document = tables types other := by
  intro text renamed
  have used : ∀ label ∈ labelsOf pieces,
      label ∈ {label | label ∈ labelsOf pieces ∨ label.IsReserved} :=
    fun label member => .inl member
  have together := together_parse (faithful_of_injOn kept injective unreserved) used
  refine ⟨together.isOk_iff, fun document other read otherRead => ?_⟩
  have same := together.related_of_ok read otherRead
  have alike := same.mono fun _ _ => surveyedAlike_of_sameButLabels
  exact ⟨same, fun types => tables_eq types alike⟩

section Example

def labelP : NCName :=
  ⟨'p', [], Eq.refl true, Eq.refl true⟩

def labelQ : NCName :=
  ⟨'q', [], Eq.refl true, Eq.refl true⟩

def datasetTag : RawTag where
  name := ⟨some labelP, ⟨'e', "lement".toList, by decide, by decide⟩⟩
  items :=
    [⟨[' '], ⟨some .xmlns, labelP⟩, [], [], '"', schemaUri.toList, by decide, by decide,
        by decide, by decide, by decide⟩,
      ⟨[' '], ⟨some labelQ, ⟨'I', "sDataSet".toList, by decide, by decide⟩⟩, [], [], '"',
        "true".toList, by decide, by decide, by decide, by decide, by decide⟩]
  gap := []
  gap_blank := isSpacing_nil
  set_apart := by
    rintro first ⟨⟩
    exact List.cons_ne_nil _ _

theorem isReserved_swap_iff (label : NCName) :
    (Equiv.swap labelP labelQ label).IsReserved ↔ label.IsReserved := by
  by_cases first : label = labelP
  · subst first
    rw [Equiv.swap_apply_left]
    decide
  · by_cases second : label = labelQ
    · subst second
      rw [Equiv.swap_apply_right]
      decide
    · rw [Equiv.swap_apply_of_ne_of_ne first second]

def datasetText : String :=
  "<p:element xmlns:p=\"http://www.w3.org/2001/XMLSchema\" q:IsDataSet=\"true\"/>"

def swappedText : String :=
  "<q:element xmlns:q=\"http://www.w3.org/2001/XMLSchema\" p:IsDataSet=\"true\"/>"

/-- The labels of a dataset swapped: `p:IsDataSet` marks what `q:IsDataSet` marked before. -/
theorem relabelled_tables_swapped :
    (∀ label, label.IsReserved → Equiv.swap labelP labelQ label = label) ∧
      Set.InjOn (Equiv.swap labelP labelQ) {label | label ∈ labelsOf [.selfClosing datasetTag]} ∧
      (∀ label ∈ labelsOf [.selfClosing datasetTag],
        (Equiv.swap labelP labelQ label).IsReserved → label.IsReserved) ∧
      ∃ document other,
        Document.parse datasetText = .ok document ∧ Document.parse swappedText = .ok other ∧
          document.root.Related Tag.SameButLabels other.root ∧
          ∀ types, tables types document = tables types other := by
  have kept : ∀ label : NCName, label.IsReserved → Equiv.swap labelP labelQ label = label := by
    rintro label (rfl | rfl)
    · exact Equiv.swap_apply_of_ne_of_ne (by decide) (by decide)
    · exact Equiv.swap_apply_of_ne_of_ne (by decide) (by decide)
  have injective : Set.InjOn (Equiv.swap labelP labelQ)
      {label | label ∈ labelsOf [.selfClosing datasetTag]} :=
    (Equiv.swap labelP labelQ).injective.injOn
  have unreserved : ∀ label ∈ labelsOf [.selfClosing datasetTag],
      (Equiv.swap labelP labelQ label).IsReserved → label.IsReserved :=
    fun label _ => (isReserved_swap_iff label).mp
  have text : String.ofList (textOf [.selfClosing datasetTag]) = datasetText := by
    decide
  have renamed : String.ofList
      (textOf ([.selfClosing datasetTag].map (Piece.relabel (Equiv.swap labelP labelQ)))) =
        swappedText := by
    decide
  have alike := relabelled_tables _ [.selfClosing datasetTag] kept injective unreserved
  dsimp only at alike
  rw [text, renamed] at alike
  have root : Document.parse datasetText =
      .ok ⟨⟨⟨some schemaUri, "element", [⟨"q:IsDataSet", "IsDataSet", "true"⟩]⟩, []⟩⟩ := by
    decide +kernel
  obtain ⟨other, otherRead⟩ := alike.1.mp ⟨_, root⟩
  exact ⟨kept, injective, unreserved, _, other, root, otherRead, alike.2 _ other root otherRead⟩

end Example

end Schema

end SchemaScript
