import SchemaScript.Proofs.Markup.Position
import SchemaScript.Proofs.Stages

/-!
# Trees compared tag by tag

Two trees of the same shape can be compared by a relation between their tags.
Documents compare in this way as soon as the events that they grow from do, and
a sequence of events makes a document as long as one that compares to it does.
-/

namespace SchemaScript

namespace Markup

variable {related : Tag → Tag → Prop}

/-- Two trees have the same shape, and their tags are related one by one. -/
inductive Element.Related (related : Tag → Tag → Prop) : Element → Element → Prop where
  | node {tag other : Tag} {children others : List Element} (tags : related tag other)
      (inside : List.Forall₂ (Element.Related related) children others) :
      Element.Related related ⟨tag, children⟩ ⟨other, others⟩

namespace Element

variable {element other : Element}

theorem Related.tag (same : element.Related related other) : related element.tag other.tag := by
  obtain ⟨tags, -⟩ := same
  exact tags

theorem Related.children (same : element.Related related other) :
    List.Forall₂ (Element.Related related) element.children other.children := by
  obtain ⟨-, inside⟩ := same
  exact inside

theorem Related.mono {weaker : Tag → Tag → Prop}
    (implies : ∀ tag other, related tag other → weaker tag other)
    (same : element.Related related other) : element.Related weaker other := by
  induction element using induction generalizing other with
  | node tag children ih =>
      obtain ⟨tags, inside⟩ := same
      refine .node (implies _ _ tags) ?_
      have members : ∀ child ∈ children, child ∈ children := fun _ member => member
      refine ((List.forall₂_and_left children _).mpr ⟨members, inside⟩).imp ?_
      rintro child otherChild ⟨member, same⟩
      exact ih child member same

end Element

inductive Event.Related (related : Tag → Tag → Prop) : Event → Event → Prop where
  | opened {tag other : Tag} (tags : related tag other) :
      Event.Related related (.opened tag) (.opened other)
  | completed {tag other : Tag} (tags : related tag other) :
      Event.Related related (.completed tag) (.completed other)
  | closed : Event.Related related .closed .closed

/-- Two sequences tell events that are related one by one, and both end alike. -/
structure Event.Sequence.Related (related : Tag → Tag → Prop)
    (sequence other : Event.Sequence) : Prop where
  events : List.Forall₂ (Event.Related related) sequence.events other.events
  error : sequence.error.isSome = other.error.isSome

namespace Document

structure Branch.Related (related : Tag → Tag → Prop) (branch other : Branch) : Prop where
  tag : related branch.tag other.tag
  earlier : List.Forall₂ (Element.Related related) branch.earlier other.earlier

structure Growth.Related (related : Tag → Tag → Prop) (growth other : Growth) : Prop where
  branches : List.Forall₂ (Branch.Related related) growth.branches other.branches
  root : Option.Rel (Element.Related related) growth.root other.root

theorem Branch.Related.toElement {branch other : Branch} (same : branch.Related related other) :
    branch.toElement.Related related other.toElement :=
  .node same.tag (List.forall₂_reverse_iff.mpr same.earlier)

namespace Growth

variable {growth other : Growth}

theorem Related.attach (same : growth.Related related other) {element otherElement : Element}
    (elements : element.Related related otherElement) :
    Together (Growth.Related related) (growth.attach element) (other.attach otherElement) := by
  obtain ⟨branches, root⟩ := growth
  obtain ⟨otherBranches, otherRoot⟩ := other
  obtain ⟨held, roots⟩ := same
  cases held with
  | nil =>
      cases roots with
      | none => exact .succeeded ⟨.nil, .some elements⟩
      | some _ => exact .failed _ _
  | cons innermost outer =>
      exact .succeeded ⟨.cons ⟨innermost.tag, .cons elements innermost.earlier⟩ outer, roots⟩

theorem Related.step (same : growth.Related related other) {event otherEvent : Event}
    (events : event.Related related otherEvent) :
    Together (Growth.Related related) (growth.step event) (other.step otherEvent) := by
  cases events with
  | opened tags => exact .succeeded ⟨.cons ⟨tags, .nil⟩ same.branches, same.root⟩
  | completed tags => exact same.attach (.node tags .nil)
  | closed =>
      obtain ⟨branches, root⟩ := growth
      obtain ⟨otherBranches, otherRoot⟩ := other
      obtain ⟨held, roots⟩ := same
      cases held with
      | nil => exact .failed _ _
      | @cons branch otherBranch outer otherOuter innermost around =>
          have left : Growth.Related related ⟨outer, root⟩ ⟨otherOuter, otherRoot⟩ :=
            ⟨around, roots⟩
          exact left.attach innermost.toElement

theorem Related.finish (same : growth.Related related other) :
    Together (fun document otherDocument => document.root.Related related otherDocument.root)
      growth.finish other.finish := by
  obtain ⟨branches, root⟩ := growth
  obtain ⟨otherBranches, otherRoot⟩ := other
  obtain ⟨held, roots⟩ := same
  cases held with
  | nil =>
      cases roots with
      | none => exact .failed _ _
      | some elements => exact .succeeded elements
  | cons innermost outer => exact .failed _ _

end Growth

/-- Sequences that compare make documents that compare, or none of them makes one. -/
theorem together_ofEvents {sequence other : Event.Sequence}
    (same : sequence.Related related other) :
    Together (fun document otherDocument => document.root.Related related otherDocument.root)
      (ofEvents sequence) (ofEvents other) := by
  have start : Growth.start.Related related Growth.start := ⟨.nil, .none⟩
  have grown := Together.foldlM same.events
    (fun growth otherGrowth event otherEvent growths events => growths.step events) start
  refine (grown.mapError Error.tree).bind fun growth otherGrowth growths => ?_
  rcases none_or_some_of_isSome_eq same.error with
    ⟨first, second⟩ | ⟨error, otherError, first, second⟩
  · rw [first, second]
    exact growths.finish.mapError Error.tree
  · rw [first, second]
    exact .failed _ _

end Document

end Markup

end SchemaScript
