import SchemaScript.Markup.Document
import Mathlib.Data.List.Basic

/-!
# Positions in a tree

A position is the row of child numbers that leads to an element.  This file
lists elements together with their positions.  Such a list is kept in the
lexicographic order of the positions, in which an element comes before
everything inside it, so the order is that of the document.
-/

namespace SchemaScript

namespace Markup

namespace Element

/-- What holds of an element as soon as it holds of its children holds of all elements. -/
@[elab_as_elim]
theorem induction {motive : Element → Prop}
    (node : ∀ tag children, (∀ child ∈ children, motive child) → motive ⟨tag, children⟩)
    (element : Element) : motive element :=
  match element with
  | ⟨tag, children⟩ => node tag children fun child _ => induction node child

theorem descend?_cons_eq_some_iff {element found : Element} {number : Nat} {path : List Nat} :
    element.descend? (number :: path) = some found ↔
      ∃ child, element.children[number]? = some child ∧ child.descend? path = some found := by
  rw [descend?, Option.bind_eq_some_iff]

/-- What is found in each of some children, with the number of the child before its position. -/
def inChildren (find : Element → List (List Nat × Element)) (children : List Element) :
    List (List Nat × Element) :=
  children.zipIdx.flatMap fun entry =>
    (find entry.1).map fun found => (entry.2 :: found.1, found.2)

section InChildren

variable {find : Element → List (List Nat × Element)} {children : List Element}

theorem map_snd_inChildren :
    (inChildren find children).map Prod.snd =
      children.flatMap fun child => (find child).map Prod.snd := by
  have numbered : children = children.zipIdx.map Prod.fst := by simp
  rw [inChildren, List.map_flatMap]
  conv_rhs => rw [numbered, List.flatMap_map]
  simp [List.map_map, Function.comp_def]

theorem mem_inChildren_iff {path : List Nat} {found : Element} :
    (path, found) ∈ inChildren find children ↔
      ∃ number rest child, path = number :: rest ∧ children[number]? = some child ∧
        (rest, found) ∈ find child := by
  simp only [inChildren, List.mem_flatMap, List.mem_map, Prod.exists,
    List.mk_mem_zipIdx_iff_getElem?, Prod.mk.injEq]
  constructor
  · rintro ⟨child, number, stands, rest, _, member, rfl, rfl⟩
    exact ⟨number, rest, child, rfl, stands, member⟩
  · rintro ⟨number, rest, child, rfl, stands, member⟩
    exact ⟨child, number, stands, rest, found, member, rfl, rfl⟩

theorem pairwise_inChildren
    (increasing : ∀ child ∈ children,
      (find child).Pairwise fun first second => first.1 < second.1) :
    (inChildren find children).Pairwise fun first second => first.1 < second.1 := by
  have numbers : children.zipIdx.Pairwise fun first second => first.2 < second.2 := by
    rw [← List.pairwise_map (f := Prod.snd) (R := (· < ·)), List.zipIdx_map_snd]
    exact List.pairwise_lt_range'
  rw [inChildren, List.pairwise_flatMap]
  constructor
  · rintro ⟨child, number⟩ member
    rw [List.pairwise_map]
    refine (increasing child (List.fst_mem_of_mem_zipIdx member)).imp ?_
    intro first second less
    simpa using less
  · refine numbers.imp ?_
    intro first second less
    simp only [List.mem_map]
    rintro _ ⟨early, _, rfl⟩ _ ⟨late, _, rfl⟩
    exact List.cons_lt_cons_iff.mpr (.inl less)

end InChildren

mutual

/-- An element and everything inside it, with positions, in document order. -/
def located : Element → List (List Nat × Element)
  | ⟨tag, children⟩ => ([], ⟨tag, children⟩) :: locatedAll 0 children

def locatedAll (number : Nat) : List Element → List (List Nat × Element)
  | [] => []
  | first :: rest =>
    ((located first).map fun found => (number :: found.1, found.2)) ++
      locatedAll (number + 1) rest

end

theorem located_eq (element : Element) :
    element.located = ([], element) :: inChildren located element.children := by
  obtain ⟨tag, children⟩ := element
  rw [located]
  congr 1
  have general (number : Nat) :
      locatedAll number children = (children.zipIdx number).flatMap fun entry =>
        (located entry.1).map fun found => (entry.2 :: found.1, found.2) := by
    induction children generalizing number with
    | nil => rfl
    | cons first rest ih =>
        rw [locatedAll, List.zipIdx_cons, List.flatMap_cons, ih]
  exact general 0

theorem map_snd_located (element : Element) : element.located.map Prod.snd = element.preorder := by
  induction element using induction with
  | node tag children ih =>
      rw [located_eq, List.map_cons, map_snd_inChildren, preorder_eq, preorderAll_eq_flatMap,
        List.flatMap_congr ih]

/-- Every position in a tree is listed, with the element there and no other. -/
theorem mem_located_iff {element found : Element} {path : List Nat} :
    (path, found) ∈ element.located ↔ element.descend? path = some found := by
  induction path generalizing element with
  | nil =>
      rw [located_eq, List.mem_cons, mem_inChildren_iff]
      simp [descend?, eq_comm]
  | cons number path ih =>
      rw [located_eq, List.mem_cons, mem_inChildren_iff, descend?_cons_eq_some_iff]
      simp [ih]

/-- Positions are listed in lexicographic order, so none is listed twice. -/
theorem pairwise_located (element : Element) :
    element.located.Pairwise fun first second => first.1 < second.1 := by
  induction element using induction with
  | node tag children ih =>
      rw [located_eq, List.pairwise_cons]
      refine ⟨?_, pairwise_inChildren ih⟩
      rintro ⟨path, found⟩ member
      obtain ⟨number, rest, child, rfl, _⟩ := mem_inChildren_iff.mp member
      exact List.nil_lt_cons number rest

end Element

namespace Traversal

theorem toList_eq_preorderAll (traversal : Traversal) :
    traversal.toList = Element.preorderAll traversal.pending := by
  fun_induction toList traversal with
  | case1 traversal later step =>
      obtain ⟨rfl, _⟩ := eq_of_next_none step
      rfl
  | case2 traversal element later step ih => rw [ih, preorderAll_of_next step]

/-- A whole tree is visited in preorder. -/
theorem toList_start (element : Element) : (start element).toList = element.preorder := by
  rw [toList_eq_preorderAll, start, Element.preorderAll_singleton]

end Traversal

theorem Document.elements_eq_preorder (document : Document) :
    document.elements = document.root.preorder :=
  Traversal.toList_start document.root

end Markup

end SchemaScript
