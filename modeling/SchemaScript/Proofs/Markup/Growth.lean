import SchemaScript.Proofs.Markup.Position

/-!
# The tree that events describe

Events alone tell which tags are open behind them, which tags belong to an
element that nothing encloses, and where in the tree each tag stands.  This
file says so by recursion on the events and shows that a growth of elements
follows them: it goes on as long as one element at most is complete outside all
others, and then holds every tag of the events at its position.
-/

namespace SchemaScript

namespace Markup

namespace Event

/-- The tag of an event that begins an element. -/
def tag? : Event → Option Tag
  | opened tag => some tag
  | completed tag => some tag
  | closed => none

/-- The tags that are open behind an event, from the innermost out. -/
def shift (openTags : List Tag) : Event → List Tag
  | opened tag => tag :: openTags
  | completed _ => openTags
  | closed => openTags.tail

def openAfter (openTags : List Tag) (events : List Event) : List Tag :=
  events.foldl shift openTags

/-- The tag of the element that an event completes, if nothing encloses that element. -/
def outermost? : List Tag → Event → Option Tag
  | [], completed tag => some tag
  | [tag], closed => some tag
  | _, _ => none

/-- The tags of the elements that nothing encloses, in the order of their completion. -/
def outermost (openTags : List Tag) : List Event → List Tag
  | [] => []
  | event :: rest => (outermost? openTags event).toList ++ outermost (shift openTags event) rest

/-- Every closing finds a tag that is open. -/
def Matched (openTags : List Tag) : List Event → Prop
  | [] => True
  | event :: rest => (event = closed → openTags ≠ []) ∧ Matched (shift openTags event) rest

/-- The position of an open tag, and the number of tags directly inside it so far. -/
structure Opening where
  path : List Nat
  inside : Nat

/-- The position of the next tag: below the innermost open one, behind what is there. -/
def nextPath : List Opening → List Nat
  | [] => []
  | innermost :: _ => innermost.path ++ [innermost.inside]

def countOne : List Opening → List Opening
  | [] => []
  | innermost :: outer => ⟨innermost.path, innermost.inside + 1⟩ :: outer

/-- The openings behind an event; a tag is counted where it begins. -/
def shiftOpenings (openings : List Opening) : Event → List Opening
  | opened _ => ⟨nextPath openings, 0⟩ :: countOne openings
  | completed _ => countOne openings
  | closed => openings.tail

/-- The tags that begin an element, in the order of the text, each with its position. -/
def place (openings : List Opening) : List Event → List (List Nat × Tag)
  | [] => []
  | event :: rest =>
    (tag? event).toList.map (fun tag => (nextPath openings, tag)) ++
      place (shiftOpenings openings event) rest

theorem map_snd_place (openings : List Opening) (events : List Event) :
    (place openings events).map Prod.snd = events.filterMap tag? := by
  induction events generalizing openings with
  | nil => rfl
  | cons event rest ih =>
      rw [place, List.map_append, ih]
      cases event <;> rfl

theorem Matched.eq_nil_of_no_tag {events : List Event} (nested : Matched [] events)
    (untagged : events.filterMap tag? = []) : events = [] := by
  cases events with
  | nil => rfl
  | cons event rest =>
      cases event with
      | opened tag => simp [tag?] at untagged
      | completed tag => simp [tag?] at untagged
      | closed => exact absurd rfl (nested.1 rfl)

end Event

namespace Element

/-- The tags of an element and of everything inside it, if it stands at the given position. -/
def tagsAt (path : List Nat) (element : Element) : List (List Nat × Tag) :=
  element.located.map fun found => (path ++ found.1, found.2.tag)

/-- The tags inside the children of an element at the given position. -/
def tagsBelow (path : List Nat) (children : List Element) : List (List Nat × Tag) :=
  (inChildren located children).map fun found => (path ++ found.1, found.2.tag)

theorem tagsAt_eq (path : List Nat) (element : Element) :
    element.tagsAt path = (path, element.tag) :: tagsBelow path element.children := by
  rw [tagsAt, located_eq, List.map_cons, List.append_nil, tagsBelow]

theorem tagsBelow_nil (path : List Nat) : tagsBelow path [] = [] :=
  rfl

theorem tagsBelow_concat (path : List Nat) (children : List Element) (last : Element) :
    tagsBelow path (children ++ [last]) =
      tagsBelow path children ++ last.tagsAt (path ++ [children.length]) := by
  simp [tagsBelow, tagsAt, inChildren, List.zipIdx_append, Function.comp_def]

end Element

namespace Document

namespace Growth

def openTags (growth : Growth) : List Tag :=
  growth.branches.map Branch.tag

/-- The tag of the root, if there is one already. -/
def roots (growth : Growth) : List Tag :=
  growth.root.toList.map Element.tag

/-- The openings of some branches; a branch inside another one is counted there. -/
def openings : List Branch → List Event.Opening
  | [] => []
  | innermost :: outer =>
    ⟨Event.nextPath (openings outer), innermost.earlier.length⟩ :: Event.countOne (openings outer)

def tagsOf : List Branch → List (List Nat × Tag)
  | [] => []
  | innermost :: outer =>
    let path := Event.nextPath (openings outer)
    tagsOf outer ++ (path, innermost.tag) :: Element.tagsBelow path innermost.earlier.reverse

/-- All tags of a growth with their positions, in document order. -/
def tags (growth : Growth) : List (List Nat × Tag) :=
  growth.root.toList.flatMap (Element.tagsAt []) ++ tagsOf growth.branches

/-- One growth comes from another by the events given, none of which is lost. -/
structure Follows (growth : Growth) (events : List Event) (later : Growth) : Prop where
  openTags_eq : later.openTags = Event.openAfter growth.openTags events
  roots_eq : later.roots = growth.roots ++ Event.outermost growth.openTags events
  openings_eq : openings later.branches =
    events.foldl Event.shiftOpenings (openings growth.branches)
  tags_eq : later.tags = growth.tags ++ Event.place (openings growth.branches) events

theorem Follows.refl (growth : Growth) : Follows growth [] growth :=
  ⟨rfl, by simp [Event.outermost], rfl, by simp [Event.place]⟩

theorem Follows.cons {growth middle later : Growth} {event : Event} {rest : List Event}
    (first : Follows growth [event] middle) (more : Follows middle rest later) :
    Follows growth (event :: rest) later where
  openTags_eq := by
    rw [more.openTags_eq, first.openTags_eq]
    rfl
  roots_eq := by
    rw [more.roots_eq, first.roots_eq, first.openTags_eq]
    simp [Event.outermost, Event.openAfter]
  openings_eq := by
    rw [more.openings_eq, first.openings_eq]
    rfl
  tags_eq := by
    rw [more.tags_eq, first.tags_eq, first.openings_eq]
    simp [Event.place]

/-- What attaching an element changes: it comes behind all tags so far. -/
structure Attaches (growth : Growth) (element : Element) (later : Growth) : Prop where
  openTags_eq : later.openTags = growth.openTags
  roots_eq : later.roots = growth.roots ++ (if growth.openTags = [] then [element.tag] else [])
  openings_eq : openings later.branches = Event.countOne (openings growth.branches)
  tags_eq : later.tags =
    growth.tags ++ element.tagsAt (Event.nextPath (openings growth.branches))

theorem attach_cases (growth : Growth) (element : Element) :
    (∃ later, growth.attach element = .ok later ∧ Attaches growth element later) ∨
      growth.branches = [] ∧ growth.root.isSome ∧
        growth.attach element = .error (.multipleRoots element.tag.localName) := by
  obtain ⟨branches, root⟩ := growth
  cases branches with
  | nil =>
      cases root with
      | none => exact .inl ⟨_, rfl, rfl, rfl, rfl, by simp [tags, tagsOf, openings, Event.nextPath]⟩
      | some root => exact .inr ⟨rfl, rfl, rfl⟩
  | cons innermost outer =>
      refine .inl ⟨_, rfl, rfl, by simp [roots, openTags], rfl, ?_⟩
      simp [tags, tagsOf, openings, Event.nextPath, Element.tagsBelow_concat]

/-- An event either goes into the growth or completes a second element outside all others. -/
theorem step_cases (growth : Growth) {event : Event}
    (nested : event = .closed → growth.openTags ≠ []) :
    (∃ later, growth.step event = .ok later ∧ Follows growth [event] later) ∨
      ∃ second, Event.outermost? growth.openTags event = some second ∧ growth.root.isSome ∧
        growth.step event = .error (.multipleRoots second.localName) := by
  cases event with
  | opened tag =>
      refine .inl ⟨_, rfl, rfl, ?_, rfl, ?_⟩
      · simp [roots, Event.outermost, Event.outermost?]
      · simp [tags, tagsOf, Event.place, Event.tag?, Element.tagsBelow_nil]
  | completed tag =>
      rcases growth.attach_cases ⟨tag, []⟩ with ⟨later, done, attaches⟩ | ⟨outside, rooted, refused⟩
      · refine .inl ⟨later, done, attaches.openTags_eq, ?_, attaches.openings_eq, ?_⟩
        · rw [attaches.roots_eq]
          cases growth.openTags <;> simp [Event.outermost, Event.outermost?]
        · rw [attaches.tags_eq, Element.tagsAt_eq]
          rfl
      · exact .inr ⟨tag, by simp [openTags, outside, Event.outermost?], rooted, refused⟩
  | closed =>
      obtain ⟨branches, root⟩ := growth
      cases branches with
      | nil => exact absurd rfl (nested rfl)
      | cons innermost outer =>
          rcases attach_cases ⟨outer, root⟩ innermost.toElement with
            ⟨later, done, attaches⟩ | ⟨outside, rooted, refused⟩
          · refine .inl ⟨later, done, attaches.openTags_eq, ?_, attaches.openings_eq, ?_⟩
            · rw [attaches.roots_eq]
              cases outer <;> rfl
            · rw [attaches.tags_eq, Element.tagsAt_eq]
              simp [tags, tagsOf, Event.place, Event.tag?, Branch.toElement]
          · have alone : outer = [] := outside
            subst alone
            exact .inr ⟨innermost.tag, rfl, rooted, refused⟩

/--
A growth takes in all events, or is stopped by the first event that completes a second
element outside all others.
-/
theorem foldlM_step_cases (growth : Growth) {events : List Event}
    (nested : Event.Matched growth.openTags events) :
    (∃ later, events.foldlM step growth = .ok later ∧ Follows growth events later) ∨
      ∃ first second more,
        growth.roots ++ Event.outermost growth.openTags events = first :: second :: more ∧
          events.foldlM step growth = .error (.multipleRoots second.localName) := by
  induction events generalizing growth with
  | nil => exact .inl ⟨growth, rfl, .refl growth⟩
  | cons event rest ih =>
      obtain ⟨opens, nestedLater⟩ := nested
      rw [List.foldlM_cons]
      rcases growth.step_cases opens with
        ⟨middle, done, follows⟩ | ⟨second, completes, rooted, refused⟩
      · rw [done]
        have same := follows.openTags_eq
        rcases ih middle (same ▸ nestedLater) with
          ⟨later, grown, more⟩ | ⟨first, second, more, roots, stopped⟩
        · exact .inl ⟨later, grown, follows.cons more⟩
        · refine .inr ⟨first, second, more, ?_, stopped⟩
          rw [← roots, follows.roots_eq, same]
          simp [Event.outermost, Event.openAfter]
      · rw [refused]
        obtain ⟨root, stands⟩ := Option.isSome_iff_exists.mp rooted
        refine .inr ⟨root.tag, second,
          Event.outermost (Event.shift growth.openTags event) rest, ?_, rfl⟩
        simp [roots, stands, Event.outermost, completes]

theorem roots_length_le (growth : Growth) : growth.roots.length ≤ 1 := by
  rw [roots, List.length_map]
  cases growth.root <;> simp

end Growth

end Document

end Markup

end SchemaScript
