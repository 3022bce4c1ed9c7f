import SchemaScript.Markup.Event

/-!
# Elements

A document is a tree of elements, each with the tag that it was written with.
`preorder` lists an element and everything inside it in document order, by
recursion on the tree.  A `Traversal` visits the same elements step by step,
keeping those that are still to be visited; its termination is measured by the
number of elements in them.
-/

namespace SchemaScript

namespace Markup

structure Element where
  tag : Tag
  children : List Element
deriving Repr

namespace Element

mutual

/-- Compares two trees from their roots, and their children one after another. -/
protected def decEq : (first second : Element) → Decidable (first = second)
  | ⟨tag, children⟩, ⟨otherTag, otherChildren⟩ =>
    if tagged : tag = otherTag then
      match decEqAll children otherChildren with
      | isTrue same => isTrue (by rw [tagged, same])
      | isFalse apart => isFalse (by simp [apart])
    else
      isFalse (by simp [tagged])

def decEqAll : (first second : List Element) → Decidable (first = second)
  | [], [] => isTrue rfl
  | [], _ :: _ => isFalse nofun
  | _ :: _, [] => isFalse nofun
  | first :: rest, second :: others =>
    match Element.decEq first second, decEqAll rest others with
    | isTrue same, isTrue alike => isTrue (by rw [same, alike])
    | isFalse apart, _ => isFalse (by simp [apart])
    | _, isFalse apart => isFalse (by simp [apart])

end

instance : DecidableEq Element :=
  Element.decEq

def attribute? (element : Element) (name : String) : Option String :=
  (element.tag.attributes.find? fun candidate => candidate.name = name).map Attribute.value

/-- The attributes with the given local name, whatever their label. -/
def attributesByLocalName (element : Element) (localName : String) : List Attribute :=
  element.tag.attributes.filter fun candidate => candidate.localName = localName

def hasName (namespaceUri localName : String) (element : Element) : Bool :=
  element.tag.namespaceUri = some namespaceUri && element.tag.localName = localName

def childrenNamed (element : Element) (namespaceUri localName : String) : List Element :=
  element.children.filter (hasName namespaceUri localName)

/-- The element that a path of child numbers leads to. -/
def descend? (element : Element) : List Nat → Option Element
  | [] => some element
  | number :: path => element.children[number]?.bind fun child => descend? child path

mutual

/-- An element and everything inside it, in document order. -/
def preorder : Element → List Element
  | ⟨tag, children⟩ => ⟨tag, children⟩ :: preorderAll children

def preorderAll : List Element → List Element
  | [] => []
  | first :: rest => preorder first ++ preorderAll rest

end

theorem preorder_eq (element : Element) :
    element.preorder = element :: preorderAll element.children := by
  cases element
  rfl

theorem preorderAll_eq_flatMap (elements : List Element) :
    preorderAll elements = elements.flatMap preorder := by
  induction elements with
  | nil => rfl
  | cons first rest ih => simp [preorderAll, ih]

theorem preorderAll_singleton (element : Element) : preorderAll [element] = element.preorder := by
  rw [preorderAll, preorderAll, List.append_nil]

theorem preorderAll_append (first second : List Element) :
    preorderAll (first ++ second) = preorderAll first ++ preorderAll second := by
  simp [preorderAll_eq_flatMap]

mutual

/-- The preorder of an element, each with its depth below the starting point. -/
def levels (depth : Nat) : Element → List (Nat × Element)
  | ⟨tag, children⟩ => (depth, ⟨tag, children⟩) :: levelsAll (depth + 1) children

def levelsAll (depth : Nat) : List Element → List (Nat × Element)
  | [] => []
  | first :: rest => levels depth first ++ levelsAll depth rest

end

end Element

/-- A visit of elements in document order. -/
structure Traversal where
  /-- The elements still to be entered, the next one first. -/
  pending : List Element
deriving Repr

namespace Traversal

def start (element : Element) : Traversal :=
  ⟨[element]⟩

/-- Puts elements before the pending ones, one after another, so that the last one comes first. -/
def push (traversal : Traversal) (elements : List Element) : Traversal :=
  elements.foldl (fun below element => ⟨element :: below.pending⟩) traversal

/--
Answers a request for the next element and puts its children in its place, the
last child first.  A traversal with nothing pending stays as it is.
-/
def next (traversal : Traversal) : Option Element × Traversal :=
  match traversal.pending with
  | [] => (none, traversal)
  | element :: rest => (some element, push ⟨rest⟩ element.children.reverse)

theorem push_eq (traversal : Traversal) (elements : List Element) :
    traversal.push elements = ⟨elements.reverse ++ traversal.pending⟩ := by
  induction elements generalizing traversal with
  | nil => rfl
  | cons first rest ih =>
      rw [push, List.foldl_cons, ← push, ih, List.reverse_cons, List.append_assoc,
        List.singleton_append]

theorem next_nil : next ⟨[]⟩ = (none, ⟨[]⟩) :=
  rfl

/-- The children of a visited element come before all that was pending, in their order. -/
theorem next_cons (element : Element) (rest : List Element) :
    next ⟨element :: rest⟩ = (some element, ⟨element.children ++ rest⟩) := by
  simp only [next, push_eq, List.reverse_reverse]

theorem eq_of_next_none {traversal later : Traversal} (step : traversal.next = (none, later)) :
    traversal = ⟨[]⟩ ∧ later = traversal := by
  obtain ⟨pending⟩ := traversal
  cases pending with
  | nil => exact ⟨rfl, ((Prod.mk.injEq ..).mp step).2.symm⟩
  | cons first rest => simp [next_cons] at step

/-- What is left to visit is the answer to the next request and what is left after that. -/
theorem preorderAll_of_next {traversal later : Traversal} {element : Element}
    (step : traversal.next = (some element, later)) :
    Element.preorderAll traversal.pending = element :: Element.preorderAll later.pending := by
  obtain ⟨pending⟩ := traversal
  cases pending with
  | nil => simp [next_nil] at step
  | cons first rest =>
      simp only [next_cons, Prod.mk.injEq, Option.some.injEq] at step
      obtain ⟨rfl, rfl⟩ := step
      rw [Element.preorderAll, Element.preorder_eq, Element.preorderAll_append, List.cons_append]

def remaining (traversal : Traversal) : Nat :=
  (Element.preorderAll traversal.pending).length

/-- A visit uses up one element and postpones none twice. -/
theorem remaining_next {traversal later : Traversal} {element : Element}
    (step : traversal.next = (some element, later)) :
    traversal.remaining = later.remaining + 1 := by
  rw [remaining, preorderAll_of_next step, List.length_cons, remaining]

def toList (traversal : Traversal) : List Element :=
  match _ : traversal.next with
  | (none, _) => []
  | (some element, later) => element :: later.toList
termination_by traversal.remaining
decreasing_by
  rename_i step
  rw [remaining_next step]
  exact Nat.lt_succ_self _

end Traversal

end Markup

end SchemaScript
