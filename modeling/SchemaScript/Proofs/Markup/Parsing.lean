import SchemaScript.Proofs.Markup.Delimiting

/-!
# Documents read back

Whichever way a tree of tags is written, the document that is read is the
element the tree stands for.  A written row of trees makes events that add its
elements to the innermost branch, and leaves all that follows to be read inside
the same open tags; this is carried through by induction on the written form.
-/

namespace SchemaScript

namespace Markup

namespace Grammar

/-- The events of a text that stands inside the given open tags. -/
def eventsFrom (openTags : List OpenTag) (offset : Nat) (text : List Char) : Event.Sequence :=
  let scanned := Token.scan offset text
  Event.ofTokens openTags scanned.fault scanned.tokens

def precede (events : List Event) (sequence : Event.Sequence) : Event.Sequence :=
  ⟨events ++ sequence.events, sequence.error⟩

section Events

variable {environment : Environment} {heading : Heading} {head : List Char}
  {openTags : List OpenTag}

theorem precede_precede (first second : List Event) (sequence : Event.Sequence) :
    precede first (precede second sequence) = precede (first ++ second) sequence := by
  simp [precede]

theorem eventsFrom_cons {first : Char} {text remaining : List Char} {token : Token}
    {event : Option Event} {later : List OpenTag} (offset : Nat)
    (read : Token.next first text = .ok (token, remaining))
    (taken : Event.ofToken openTags offset token = .ok (event, later)) :
    ∃ next, eventsFrom openTags offset (first :: text) =
      precede event.toList (eventsFrom later next remaining) := by
  refine ⟨offset + Text.byteLength token.source, ?_⟩
  simp only [eventsFrom, Token.scan_of_next offset read, Event.ofTokens, taken, precede]

theorem ofToken_opening (agrees : Agrees (Event.scopeIn openTags) environment)
    (written : WritesHeading heading head) (offset : Nat) :
    ∃ scope, Event.ofToken openTags offset (.opening head) =
        .ok (some (.opened (heading.tag (environment.enter heading))),
          ⟨heading.name.chars, scope⟩ :: openTags) ∧
      Agrees (Event.scopeIn (⟨heading.name.chars, scope⟩ :: openTags))
        (environment.enter heading) := by
  obtain ⟨scope, read, inside⟩ := read_eq_ok agrees written
  refine ⟨scope, ?_, inside⟩
  rw [Event.ofToken, read, (span_heading written).1]
  rfl

theorem ofToken_selfClosing (agrees : Agrees (Event.scopeIn openTags) environment)
    (written : WritesHeading heading head) (offset : Nat) :
    Event.ofToken openTags offset (.selfClosing head) =
      .ok (some (.completed (heading.tag (environment.enter heading))), openTags) := by
  obtain ⟨scope, read, -⟩ := read_eq_ok agrees written
  rw [Event.ofToken, read]
  rfl

theorem ofToken_closing (openTags : List OpenTag) (name : QName) {gap : List Char}
    (gap_blank : IsSpacing gap) (scope : List Binding) (offset : Nat) :
    Event.ofToken (⟨name.chars, scope⟩ :: openTags) offset (.closing (name.chars ++ gap)) =
      .ok (some .closed, openTags) := by
  simp only [Event.ofToken, trimEnd_name name gap_blank, if_true]

end Events

/-- Elements that are attached to a branch become its newest children. -/
theorem foldlM_attach (elements : List Element) (innermost : Document.Branch)
    (outer : List Document.Branch) (root : Option Element) :
    elements.foldlM Document.Growth.attach ⟨innermost :: outer, root⟩ =
      .ok ⟨⟨innermost.tag, elements.reverse ++ innermost.earlier⟩ :: outer, root⟩ := by
  induction elements generalizing innermost with
  | nil => rfl
  | cons first rest ih =>
      have later := ih ⟨innermost.tag, first :: innermost.earlier⟩
      rw [List.foldlM_cons, List.reverse_cons, List.append_assoc]
      exact later

theorem foldlM_step_branch {inner : List Event} {children : List Element}
    (grown : ∀ growth, inner.foldlM Document.Growth.step growth =
      children.foldlM Document.Growth.attach growth)
    (tag : Tag) (growth : Document.Growth) :
    (Event.opened tag :: (inner ++ [Event.closed])).foldlM Document.Growth.step growth =
      growth.attach ⟨tag, children⟩ := by
  have filled := foldlM_attach children ⟨tag, []⟩ growth.branches growth.root
  rw [List.append_nil] at filled
  calc
    _ = (inner ++ [Event.closed]).foldlM Document.Growth.step
          ⟨⟨tag, []⟩ :: growth.branches, growth.root⟩ := rfl
    _ = Document.Growth.step ⟨⟨tag, children.reverse⟩ :: growth.branches, growth.root⟩ .closed := by
          rw [List.foldlM_append, grown, filled]
          simp only [List.foldlM_cons, List.foldlM_nil, bind_pure]
          rfl
    _ = growth.attach ⟨tag, children⟩ := by
          simp only [Document.Growth.step, Document.Branch.toElement, List.reverse_reverse]

/--
The events of a written row attach its elements one by one.  What follows the row is read
inside the open tags that were there before it.
-/
theorem exists_events_of_writesRow {nodes : List Node} {text : List Char}
    (written : WritesRow nodes text) {openTags : List OpenTag} {environment : Environment}
    (agrees : Agrees (Event.scopeIn openTags) environment) (offset : Nat) (rest : List Char) :
    ∃ events later, eventsFrom openTags offset (text ++ rest) =
        precede events (eventsFrom openTags later rest) ∧
      ∀ growth, events.foldlM Document.Growth.step growth =
        (Node.elements environment nodes).foldlM Document.Growth.attach growth := by
  induction written generalizing openTags environment offset rest with
  | nil => exact ⟨[], offset, rfl, fun _ => rfl⟩
  | @single heading nodes head text headed _ more =>
      obtain ⟨next, first⟩ := eventsFrom_cons offset
        (next_selfClosing headed (text ++ rest)) (ofToken_selfClosing agrees headed offset)
      obtain ⟨events, later, follow, grown⟩ := more agrees next rest
      refine ⟨.completed (heading.tag (environment.enter heading)) :: events, later, ?_, ?_⟩
      · have shape : '<' :: (head ++ '/' :: '>' :: text) ++ rest =
            '<' :: (head ++ '/' :: '>' :: (text ++ rest)) := by simp
        rw [shape, first, follow, precede_precede]
        rfl
      · intro growth
        rw [Node.elements, List.foldlM_cons, List.foldlM_cons]
        simp only [grown]
        rfl
  | @paired heading children nodes head inner gap text headed _ gap_blank _ inside more =>
      -- The row inside is read with one more tag open, the row behind it with the tags around.
      obtain ⟨scope, taken, innerAgrees⟩ := ofToken_opening agrees headed offset
      have closing := next_closing heading.name gap_blank (text ++ rest)
      obtain ⟨second, opened⟩ := eventsFrom_cons offset (next_opening headed _) taken
      obtain ⟨innerEvents, third, filled, innerGrown⟩ := inside innerAgrees second _
      obtain ⟨fourth, closed⟩ := eventsFrom_cons third closing
        (ofToken_closing openTags heading.name gap_blank scope third)
      obtain ⟨events, later, follow, grown⟩ := more agrees fourth rest
      refine ⟨(.opened (heading.tag (environment.enter heading)) ::
        (innerEvents ++ [.closed])) ++ events, later, ?_, ?_⟩
      · have shape : '<' :: (head ++ '>' :: (inner ++
            '<' :: '/' :: (heading.name.chars ++ (gap ++ '>' :: text)))) ++ rest =
              '<' :: (head ++ '>' :: (inner ++
                '<' :: '/' :: (heading.name.chars ++ (gap ++ '>' :: (text ++ rest))))) := by
          simp
        rw [shape, opened, filled, closed, follow]
        simp [precede]
      · intro growth
        rw [Node.elements, List.foldlM_append, foldlM_step_branch innerGrown, List.foldlM_cons]
        simp only [grown]
        rfl

theorem parse_of_writesRow {tree : Node} {text : List Char} (written : WritesRow [tree] text) :
    Document.parse (String.ofList text) = .ok ⟨tree.element Environment.outermost⟩ := by
  have unmarked : Event.dropOrderMark text = text := by
    cases written <;> rfl
  have outermost : Agrees (Event.scopeIn []) Environment.outermost := agrees_outermost
  obtain ⟨events, later, read, grown⟩ := exists_events_of_writesRow written outermost 0 []
  have ended : eventsFrom [] later [] = ⟨[], none⟩ := by
    simp [eventsFrom, Token.scan, Event.ofTokens]
  rw [List.append_nil, ended] at read
  have sequence : Event.ofText text = ⟨events, none⟩ := by
    rw [Event.ofText, unmarked]
    simp only [precede, List.append_nil] at read
    exact read
  rw [Document.parse, String.toList_ofList, sequence, Document.ofEvents, grown]
  rfl

/-- Every tree of tags can be written, and each of its written forms is read as the element
that it stands for. -/
theorem parse_written_tree (tree : Node) :
    (∃ text, WritesRow [tree] text) ∧
      ∀ text, WritesRow [tree] text →
        Document.parse (String.ofList text) = .ok ⟨tree.element Environment.outermost⟩ :=
  ⟨exists_writesRow [tree], fun _ => parse_of_writesRow⟩

section Example

def sampleSetting : Setting where
  name := ⟨some ⟨'q', [], by decide, by decide⟩, ⟨'b', [], by decide, by decide⟩⟩
  value := ['<', 'A', '>']
  name_free := by decide
  value_free := by decide

def sampleDeclaration : Declaration where
  label := some ⟨'p', [], by decide, by decide⟩
  uri := ['u', ':', 'x']
  label_free := by simp; decide
  uri_raw := by simp
  uri_free := by decide

def sampleHeading : Heading where
  name := ⟨some ⟨'p', [], by decide, by decide⟩, ⟨'a', [], by decide, by decide⟩⟩
  items := [.setting sampleSetting, .declaration sampleDeclaration]
  name_free := by decide
  declared_once := List.pairwise_singleton _ _
  set_once := List.pairwise_singleton _ _

def sampleLeaf : Heading where
  name := ⟨none, ⟨'c', [], by decide, by decide⟩⟩
  items := []
  name_free := by decide
  declared_once := .nil
  set_once := .nil

/-- The tree of `<p:a q:b='&lt;&#65;>' xmlns:p="u:x"><c/></p:a >`. -/
def sampleTree : Node :=
  .mk sampleHeading [.mk sampleLeaf []]

theorem writes_sampleValue : Writes (WritesChar '\x27') sampleSetting.value
    "&lt;&#65;>".toList := by
  have less : WritesChar '\x27' '<' "&lt;".toList :=
    .reference (.word (by decide : ('<', "lt") ∈ _))
  have numeral : IsNumeral 10 'A'.toNat ['6', '5'] :=
    ⟨[6, 5], by decide, rfl, .cons ⟨by decide, Or.inl rfl⟩ (.cons ⟨by decide, Or.inl rfl⟩ .nil)⟩
  have letter : WritesChar '\x27' 'A' "&#65;".toList := .reference (.decimal numeral)
  have greater : WritesChar '\x27' '>' ['>'] := .raw (by decide)
  exact .cons less (.cons letter (.cons greater .nil))

theorem writes_sampleHeading : WritesHeading sampleHeading
    "p:a q:b=\x27&lt;&#65;>\x27 xmlns:p=\"u:x\"".toList := by
  have space : IsSpacing [' '] := by decide
  have setting : WritesItem (.setting sampleSetting) " q:b=\x27&lt;&#65;>\x27".toList :=
    @WritesItem.mk (.setting sampleSetting) [' '] [] [] "&lt;&#65;>".toList '\x27' space
      (by decide) isSpacing_nil isSpacing_nil (by decide) writes_sampleValue
  have declaration : WritesItem (.declaration sampleDeclaration) " xmlns:p=\"u:x\"".toList :=
    @WritesItem.mk (.declaration sampleDeclaration) [' '] [] [] ['u', ':', 'x'] '"' space
      (by decide) isSpacing_nil isSpacing_nil (by decide) rfl
  exact @WritesHeading.mk sampleHeading _ [] (.cons setting (.cons declaration .nil)) isSpacing_nil

theorem writes_sampleTree : WritesRow [sampleTree]
    "<p:a q:b=\x27&lt;&#65;>\x27 xmlns:p=\"u:x\"><c/></p:a >".toList := by
  have leaf : WritesHeading sampleLeaf ['c'] :=
    @WritesHeading.mk sampleLeaf [] [] .nil isSpacing_nil
  have inside : WritesRow [.mk sampleLeaf []] "<c/>".toList := .single leaf .nil
  have space : IsSpacing [' '] := by decide
  exact .paired writes_sampleHeading inside space .nil

/-- A label of an attribute need not be declared, and a `>` may stand in a value as it is. -/
theorem parse_sampleTree :
    WritesRow [sampleTree] "<p:a q:b=\x27&lt;&#65;>\x27 xmlns:p=\"u:x\"><c/></p:a >".toList ∧
      Document.parse (String.ofList
        "<p:a q:b=\x27&lt;&#65;>\x27 xmlns:p=\"u:x\"><c/></p:a >".toList) =
        .ok ⟨⟨⟨some "u:x", "a", [⟨"q:b", "b", "<A>"⟩]⟩, [⟨⟨none, "c", []⟩, []⟩]⟩⟩ :=
  ⟨writes_sampleTree, (parse_written_tree sampleTree).2 _ writes_sampleTree⟩

end Example

end Grammar

end Markup

end SchemaScript
