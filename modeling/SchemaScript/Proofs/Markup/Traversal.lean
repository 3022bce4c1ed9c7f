import SchemaScript.Proofs.Markup.Position

/-!
# Traversals

A traversal is asked for one element after another.  What it still has to give
are its pending elements in turn, each with everything inside it.  A request
takes the first of these elements and leaves the others as they are.  So the
answers follow the preorder, and when it is used up every later request is
answered with nothing.
-/

namespace SchemaScript

namespace Markup

namespace Element

mutual

/-- The number of elements in a tree. -/
def size : Element → Nat
  | ⟨_, children⟩ => sizeAll children + 1

def sizeAll : List Element → Nat
  | [] => 0
  | first :: rest => size first + sizeAll rest

end

mutual

theorem length_preorder : (element : Element) → element.preorder.length = element.size
  | ⟨_, children⟩ => by rw [preorder, List.length_cons, length_preorderAll children, size]

theorem length_preorderAll :
    (elements : List Element) → (preorderAll elements).length = sizeAll elements
  | [] => rfl
  | first :: rest => by
      rw [preorderAll, List.length_append, length_preorder first, length_preorderAll rest, sizeAll]

end

/-- The positions of all elements of a tree, in document order. -/
def positions (element : Element) : List (List Nat) :=
  element.located.map Prod.fst

theorem pairwise_positions (element : Element) : element.positions.Pairwise (· < ·) :=
  List.pairwise_map.mpr (pairwise_located element)

theorem mem_positions_iff {element : Element} {path : List Nat} :
    path ∈ element.positions ↔ (element.descend? path).isSome := by
  rw [positions, List.mem_map, Option.isSome_iff_exists]
  constructor
  · rintro ⟨⟨_, found⟩, member, rfl⟩
    exact ⟨found, mem_located_iff.mp member⟩
  · rintro ⟨found, leads⟩
    exact ⟨(path, found), mem_located_iff.mpr leads, rfl⟩

/-- The preorder holds at each place the element that the position there leads to. -/
theorem getElem?_preorder (element : Element) (number : Nat) :
    element.preorder[number]? = element.positions[number]?.bind element.descend? := by
  rw [← map_snd_located, positions, List.getElem?_map, List.getElem?_map, Option.bind_map]
  cases entry : element.located[number]? with
  | none => rfl
  | some found => exact (mem_located_iff.mp (List.mem_of_getElem? entry)).symm

end Element

namespace Traversal

/-- The traversal that a number of requests leave. -/
def after (traversal : Traversal) : Nat → Traversal
  | 0 => traversal
  | count + 1 => traversal.next.2.after count

/-- The answer to a request that a number of others come before. -/
def answer (traversal : Traversal) (earlier : Nat) : Option Element :=
  (traversal.after earlier).next.1

/-- A request answers with the first of the elements that are left and keeps the others. -/
theorem next_of_preorderAll (traversal : Traversal) :
    traversal.next.1 = (Element.preorderAll traversal.pending).head? ∧
      Element.preorderAll traversal.next.2.pending =
        (Element.preorderAll traversal.pending).tail := by
  cases step : traversal.next with
  | mk response later =>
      cases response with
      | none =>
          obtain ⟨rfl, rfl⟩ := eq_of_next_none step
          exact ⟨rfl, rfl⟩
      | some element =>
          rw [preorderAll_of_next step]
          exact ⟨rfl, rfl⟩

theorem preorderAll_after (traversal : Traversal) (count : Nat) :
    Element.preorderAll (traversal.after count).pending =
      (Element.preorderAll traversal.pending).drop count := by
  induction count generalizing traversal with
  | zero => rfl
  | succ count ih =>
      rw [after, ih, (next_of_preorderAll traversal).2, List.drop_tail]

theorem answer_eq (traversal : Traversal) (earlier : Nat) :
    traversal.answer earlier = (Element.preorderAll traversal.pending)[earlier]? := by
  rw [answer, (next_of_preorderAll _).1, preorderAll_after, List.head?_drop]

theorem answer_eq_none_iff (traversal : Traversal) (earlier : Nat) :
    traversal.answer earlier = none ↔ Element.sizeAll traversal.pending ≤ earlier := by
  rw [answer_eq, List.getElem?_eq_none_iff, Element.length_preorderAll]

theorem answer_start (element : Element) (earlier : Nat) :
    (start element).answer earlier = element.preorder[earlier]? := by
  rw [answer_eq, start, Element.preorderAll_singleton]

/--
From the start of an element, requests are answered with its preorder, that is
with the elements at its positions, each position once and in increasing order.
After as many answers as it has elements there is none, however often one asks.
From any other traversal they are answered with the preorders of the pending
elements in turn, of which every request leaves all but the first element.
-/
theorem answers_in_document_order :
    (∀ element : Element,
      element.preorder = element :: element.children.flatMap Element.preorder ∧
      (∀ earlier, (start element).answer earlier = element.preorder[earlier]?) ∧
      (start element).toList = element.preorder ∧
      element.positions.Pairwise (· < ·) ∧
      (∀ path, path ∈ element.positions ↔ (element.descend? path).isSome) ∧
      (∀ earlier, (start element).answer earlier =
        element.positions[earlier]?.bind element.descend?) ∧
      ∀ earlier, (start element).answer earlier = none ↔ element.size ≤ earlier) ∧
    ∀ (traversal : Traversal) (earlier : Nat),
      traversal.answer earlier =
        (traversal.pending.flatMap Element.preorder)[earlier]? ∧
      (traversal.after earlier).pending.flatMap Element.preorder =
        (traversal.pending.flatMap Element.preorder).drop earlier ∧
      (traversal.answer earlier = none ↔ Element.sizeAll traversal.pending ≤ earlier) := by
  simp only [← Element.preorderAll_eq_flatMap]
  refine ⟨fun element => ?_, fun traversal earlier => ?_⟩
  · have counted (earlier : Nat) :
        (start element).answer earlier = none ↔ element.size ≤ earlier := by
      rw [answer_start, List.getElem?_eq_none_iff, Element.length_preorder]
    have placed (earlier : Nat) : (start element).answer earlier =
        element.positions[earlier]?.bind element.descend? := by
      rw [answer_start, Element.getElem?_preorder]
    exact ⟨element.preorder_eq, answer_start element, toList_start element,
      element.pairwise_positions, fun _ => Element.mem_positions_iff, placed, counted⟩
  · exact ⟨answer_eq traversal earlier, preorderAll_after traversal earlier,
      answer_eq_none_iff traversal earlier⟩

end Traversal

end Markup

end SchemaScript
