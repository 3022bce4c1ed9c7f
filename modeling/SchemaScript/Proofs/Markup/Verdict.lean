import SchemaScript.Proofs.Markup.Growth
import SchemaScript.Proofs.Stages

/-!
# Which fault decides

A text can be at fault in several ways at once.  This file settles which of
them a document is refused for, and what the document is if there is none, from
the events of the text alone.
-/

namespace SchemaScript

namespace Markup

/-- An error of reading, as opposed to a fault of the tree that is read. -/
def Error.IsReading (error : Error) : Prop :=
  ∀ cause, error ≠ .tree cause

namespace Tag

theorem localName_of_read {scope inner : List Binding} {content : List Char} {tag : Tag}
    (read : Tag.read scope content = .ok (tag, inner)) :
    tag.localName = String.ofList (Name.localPart (nameOf content)) := by
  obtain ⟨entered, -, read⟩ := bind_eq_ok_iff.mp read
  obtain ⟨attributes, -, read⟩ := bind_eq_ok_iff.mp read
  cases read
  rfl

theorem isReading_of_mapM {assignments : List Assignment} {error : Error}
    (failed : (assignments.mapM fun assignment =>
      assignment.toAttribute.mapError Error.reference) = .error error) : error.IsReading := by
  induction assignments with
  | nil => cases failed
  | cons first rest ih =>
      rw [List.mapM_cons, bind_eq_error_iff] at failed
      rcases failed with failed | ⟨expanded, -, failed⟩
      · obtain ⟨fault, -, rfl⟩ := mapError_eq_error_iff.mp failed
        exact fun _ => nofun
      · rcases bind_eq_error_iff.mp failed with failed | ⟨attributes, -, failed⟩
        · exact ih failed
        · cases failed

theorem isReading_of_readAttributes {content : List Char} {error : Error}
    (failed : readAttributes content = .error error) : error.IsReading := by
  rcases bind_eq_error_iff.mp failed with failed | ⟨attributes, -, failed⟩
  · exact isReading_of_mapM failed
  · split at failed
    · cases failed
      exact fun _ => nofun
    · cases failed

theorem isReading_of_read {scope : List Binding} {content : List Char} {error : Error}
    (failed : Tag.read scope content = .error error) : error.IsReading := by
  rcases bind_eq_error_iff.mp failed with failed | ⟨inner, -, failed⟩
  · obtain ⟨cause, -, rfl⟩ := mapError_eq_error_iff.mp failed
    exact fun _ => nofun
  · rcases bind_eq_error_iff.mp failed with failed | ⟨attributes, -, failed⟩
    · exact isReading_of_readAttributes failed
    · cases failed

end Tag

namespace Event

theorem openAfter_append (openTags : List Tag) (first second : List Event) :
    openAfter openTags (first ++ second) = openAfter (openAfter openTags first) second :=
  List.foldl_append

theorem matched_append {openTags : List Tag} {first second : List Event} :
    Matched openTags (first ++ second) ↔
      Matched openTags first ∧ Matched (openAfter openTags first) second := by
  induction first generalizing openTags with
  | nil => simp [Matched, openAfter]
  | cons event rest ih =>
      rw [List.cons_append, Matched, Matched, ih, and_assoc]
      rfl

/-- The local names of the tags that the reader holds open. -/
def localNames (openTags : List OpenTag) : List String :=
  openTags.map fun openTag => String.ofList (Name.localPart openTag.name)

/--
The events of some tokens, and the tags that the reader holds open behind them, unless one
of the tokens is refused.
-/
def takeIn (openTags : List OpenTag) :
    List (Nat × Token) → Except Error (List Event × List OpenTag)
  | [] => .ok ([], openTags)
  | (offset, token) :: rest =>
    match ofToken openTags offset token with
    | .error error => .error error
    | .ok (event, later) =>
      (takeIn later rest).map fun taken => (event.toList ++ taken.1, taken.2)

section Tokens

variable {openTags later : List OpenTag} {offset : Nat} {token : Token}

theorem isReading_of_ofToken {error : Error}
    (failed : ofToken openTags offset token = .error error) : error.IsReading := by
  cases token with
  | opening content =>
      rcases bind_eq_error_iff.mp failed with failed | ⟨read, -, failed⟩
      · exact Tag.isReading_of_read failed
      · cases failed
  | selfClosing content =>
      rcases bind_eq_error_iff.mp failed with failed | ⟨read, -, failed⟩
      · exact Tag.isReading_of_read failed
      · cases failed
  | closing content =>
      simp only [ofToken] at failed
      split at failed
      · cases failed
        exact fun _ => nofun
      · split at failed
        · cases failed
        · cases failed
          exact fun _ => nofun
  | documentType content =>
      simp only [ofToken] at failed
      split at failed
      · cases failed
        exact fun _ => nofun
      · cases failed
  | text content => cases failed
  | comment content => cases failed
  | characterData content => cases failed
  | instruction content => cases failed

/-- The tags that are open by the event of a token are those that the reader holds open. -/
theorem ofToken_keeps {tags : List Tag} {event : Option Event}
    (same : tags.map Tag.localName = localNames openTags)
    (taken : ofToken openTags offset token = .ok (event, later)) :
    Matched tags event.toList ∧
      (openAfter tags event.toList).map Tag.localName = localNames later := by
  cases token with
  | opening content =>
      obtain ⟨⟨tag, scope⟩, read, taken⟩ := bind_eq_ok_iff.mp taken
      cases taken
      refine ⟨⟨by simp, trivial⟩, ?_⟩
      simp [openAfter, shift, localNames, Tag.localName_of_read read, same]
  | selfClosing content =>
      obtain ⟨⟨tag, scope⟩, -, taken⟩ := bind_eq_ok_iff.mp taken
      cases taken
      exact ⟨⟨by simp, trivial⟩, same⟩
  | closing content =>
      simp only [ofToken] at taken
      split at taken
      · cases taken
      · split at taken
        · cases taken
          cases tags with
          | nil => cases same
          | cons innermost outer =>
              exact ⟨⟨fun _ => List.cons_ne_nil _ _, trivial⟩, (List.cons.inj same).2⟩
        · cases taken
  | documentType content =>
      simp only [ofToken] at taken
      split at taken
      · cases taken
      · cases taken
        exact ⟨trivial, same⟩
  | text content => cases taken; exact ⟨trivial, same⟩
  | comment content => cases taken; exact ⟨trivial, same⟩
  | characterData content => cases taken; exact ⟨trivial, same⟩
  | instruction content => cases taken; exact ⟨trivial, same⟩

/-- The events of some tokens are the first of all events, and keep the open tags in step. -/
theorem takeIn_keeps {tokens : List (Nat × Token)} {tags : List Tag} {events : List Event}
    (same : tags.map Tag.localName = localNames openTags)
    (taken : takeIn openTags tokens = .ok (events, later)) :
    Matched tags events ∧ (openAfter tags events).map Tag.localName = localNames later ∧
      ∀ fault rest, events <+: (ofTokens openTags fault (tokens ++ rest)).events := by
  induction tokens generalizing openTags tags events with
  | nil =>
      cases taken
      exact ⟨trivial, same, fun fault rest => List.nil_prefix⟩
  | cons entry tokens ih =>
      obtain ⟨offset, token⟩ := entry
      cases stepped : ofToken openTags offset token with
      | error error => simp [takeIn, stepped] at taken
      | ok result =>
          obtain ⟨first, middle⟩ := result
          cases followed : takeIn middle tokens with
          | error error => simp [takeIn, stepped, followed, Except.map] at taken
          | ok result =>
              simp only [takeIn, stepped, followed, Except.map, Except.ok.injEq,
                Prod.mk.injEq] at taken
              obtain ⟨rfl, rfl⟩ := taken
              obtain ⟨nested, kept⟩ := ofToken_keeps same stepped
              obtain ⟨nestedLater, keptLater, early⟩ := ih kept followed
              refine ⟨matched_append.mpr ⟨nested, nestedLater⟩, openAfter_append .. ▸ keptLater, ?_⟩
              intro fault rest
              simp only [List.cons_append, ofTokens, stepped]
              exact (List.prefix_append_right_inj _).mpr (early fault rest)

theorem takeIn_start_keeps {tokens : List (Nat × Token)} {events : List Event}
    (taken : takeIn [] tokens = .ok (events, later)) :
    Matched [] events ∧ (openAfter [] events).map Tag.localName = localNames later ∧
      ∀ fault rest, events <+: (ofTokens [] fault (tokens ++ rest)).events :=
  takeIn_keeps rfl taken

/-- All events up to the end or the first error are those of some first tokens. -/
theorem exists_takeIn (openTags : List OpenTag) (fault : Option (Nat × Token.Fault))
    (tokens : List (Nat × Token)) :
    ∃ first rest later, tokens = first ++ rest ∧
      takeIn openTags first = .ok ((ofTokens openTags fault tokens).events, later) := by
  induction tokens generalizing openTags with
  | nil => exact ⟨[], [], openTags, rfl, rfl⟩
  | cons entry tokens ih =>
      obtain ⟨offset, token⟩ := entry
      cases stepped : ofToken openTags offset token with
      | error error =>
          refine ⟨[], (offset, token) :: tokens, openTags, rfl, ?_⟩
          simp [ofTokens, stepped, takeIn]
      | ok taken =>
          obtain ⟨event, middle⟩ := taken
          obtain ⟨first, rest, later, rfl, followed⟩ := ih middle
          refine ⟨(offset, token) :: first, rest, later, rfl, ?_⟩
          simp [takeIn, stepped, followed, ofTokens, Except.map]

theorem isReading_of_ofTokens {fault : Option (Nat × Token.Fault)} {tokens : List (Nat × Token)}
    {error : Error} (stopped : (ofTokens openTags fault tokens).error = some error) :
    error.IsReading := by
  induction tokens generalizing openTags with
  | nil =>
      obtain ⟨cause, -, rfl⟩ := Option.map_eq_some_iff.mp stopped
      exact fun _ => nofun
  | cons entry tokens ih =>
      obtain ⟨offset, token⟩ := entry
      cases stepped : ofToken openTags offset token with
      | error found =>
          simp only [ofTokens, stepped, Option.some.injEq] at stopped
          exact stopped ▸ isReading_of_ofToken stepped
      | ok taken =>
          simp only [ofTokens, stepped] at stopped
          exact ih stopped

end Tokens

theorem matched_ofText (text : List Char) : Matched [] (ofText text).events := by
  obtain ⟨first, rest, later, -, taken⟩ :=
    exists_takeIn [] (Token.scan 0 (dropOrderMark text)).fault
      (Token.scan 0 (dropOrderMark text)).tokens
  exact (takeIn_start_keeps taken).1

end Event

namespace Document

section Verdict

variable {sequence : Event.Sequence} {growth : Growth}

theorem ofEvents_of_stopped {fault : TreeFault}
    (stopped : sequence.events.foldlM Growth.step Growth.start = .error fault) :
    ofEvents sequence = .error (.tree fault) := by
  rw [ofEvents, stopped]
  rfl

theorem ofEvents_of_error {error : Error}
    (grown : sequence.events.foldlM Growth.step Growth.start = .ok growth)
    (failed : sequence.error = some error) : ofEvents sequence = .error error := by
  rw [ofEvents, grown, failed]
  rfl

theorem ofEvents_of_end (grown : sequence.events.foldlM Growth.step Growth.start = .ok growth)
    (ended : sequence.error = none) : ofEvents sequence = growth.finish.mapError .tree := by
  rw [ofEvents, grown, ended]
  rfl

/-- With one element at most outside all others, the growth takes in all events. -/
theorem exists_follows (nested : Event.Matched [] sequence.events)
    (single : (Event.outermost [] sequence.events).length ≤ 1) :
    ∃ growth, sequence.events.foldlM Growth.step Growth.start = .ok growth ∧
      Growth.start.Follows sequence.events growth := by
  rcases Growth.start.foldlM_step_cases nested with grown | ⟨first, second, more, several, -⟩
  · exact grown
  · have same : Event.outermost [] sequence.events = first :: second :: more := several
    simp [same] at single

theorem ofEvents_of_several (nested : Event.Matched [] sequence.events) {first second : Tag}
    {more : List Tag} (several : Event.outermost [] sequence.events = first :: second :: more) :
    ofEvents sequence = .error (.tree (.multipleRoots second.localName)) := by
  rcases Growth.start.foldlM_step_cases nested with
    ⟨growth, -, follows⟩ | ⟨_, other, _, same, stopped⟩
  · have single := growth.roots_length_le
    have roots : growth.roots = Event.outermost [] sequence.events := follows.roots_eq
    simp [roots, several] at single
  · have equal : Event.outermost [] sequence.events = _ := same
    rw [several] at equal
    cases equal
    exact ofEvents_of_stopped stopped

theorem Growth.finish_of_open {innermost : Tag} {outer : List Tag}
    (unclosed : growth.openTags = innermost :: outer) :
    growth.finish = .error (.neverClosed innermost.localName) := by
  obtain ⟨branches, root⟩ := growth
  cases branches with
  | nil => cases unclosed
  | cons branch rest =>
      cases unclosed
      rfl

theorem Growth.exists_finish {events : List Event} (follows : Growth.start.Follows events growth)
    (closed : Event.openAfter [] events = []) (tagged : events.filterMap Event.tag? ≠ []) :
    ∃ root, growth.finish = .ok ⟨root⟩ ∧ root.tagsAt [] = Event.place [] events := by
  obtain ⟨branches, root⟩ := growth
  have unbranched : branches = [] := List.map_eq_nil_iff.mp (follows.openTags_eq.trans closed)
  have placed := follows.tags_eq
  subst unbranched
  cases root with
  | none =>
      have empty : Event.place [] events = [] := placed.symm
      rw [← Event.map_snd_place [] events, empty] at tagged
      exact absurd rfl tagged
  | some root =>
      refine ⟨root, rfl, ?_⟩
      simpa [Growth.tags, Growth.tagsOf, Growth.start, Growth.openings] using placed

theorem finish_ne_unexpectedClosing (growth : Growth) :
    growth.finish ≠ .error .unexpectedClosing := by
  obtain ⟨branches, root⟩ := growth
  cases branches with
  | nil => cases root <;> exact nofun
  | cons innermost outer => exact nofun

theorem ofEvents_ne_unexpectedClosing (nested : Event.Matched [] sequence.events)
    (reading : ∀ error, sequence.error = some error → error.IsReading) :
    ofEvents sequence ≠ .error (.tree .unexpectedClosing) := by
  intro unexpected
  rcases Growth.start.foldlM_step_cases nested with ⟨growth, grown, -⟩ | ⟨_, _, _, -, stopped⟩
  · cases failed : sequence.error with
    | some error =>
        rw [ofEvents_of_error grown failed] at unexpected
        cases unexpected
        exact reading _ failed _ rfl
    | none =>
        rw [ofEvents_of_end grown failed] at unexpected
        obtain ⟨cause, finished, same⟩ := mapError_eq_error_iff.mp unexpected
        cases same
        exact finish_ne_unexpectedClosing growth finished
  · rw [ofEvents_of_stopped stopped] at unexpected
    cases unexpected

/-- The elements still to be completed are those of the tags that the reader holds open. -/
theorem map_localName_branches {tokens : List (Nat × Token)} {events : List Event}
    {held : List OpenTag} (taken : Event.takeIn [] tokens = .ok (events, held))
    (grown : events.foldlM Growth.step Growth.start = .ok growth) :
    growth.branches.map (fun branch => branch.tag.localName) = Event.localNames held := by
  obtain ⟨nested, kept, -⟩ := Event.takeIn_start_keeps taken
  rcases Growth.start.foldlM_step_cases nested with ⟨later, same, follows⟩ | ⟨_, _, _, -, stopped⟩
  · rw [grown] at same
    cases same
    have open_eq : growth.openTags = Event.openAfter [] events := follows.openTags_eq
    rw [← kept, ← open_eq, Growth.openTags, List.map_map]
    rfl
  · rw [grown] at stopped
    cases stopped

end Verdict

/--
How the events of a text decide what is read.  At every step the elements still to be completed
are those of the tags that the reader holds open, so no closing is unexpected.  A second
element outside all others decides before everything else, then an error of reading, then a
tag that is never closed, then the lack of any tag.  Otherwise the tags of the tree are those of
the text, in the same order and each below the innermost tag that is open there.
-/
theorem parse_by_events (text : String) :
    parse text ≠ .error (.tree .unexpectedClosing) ∧
    let tokens := (Token.scan 0 (Event.dropOrderMark text.toList)).tokens
    let sequence := Event.ofText text.toList
    let tags := sequence.events.filterMap Event.tag?
    let outermost := Event.outermost [] sequence.events
    let openTags := Event.openAfter [] sequence.events
    (∀ first rest events held, tokens = first ++ rest →
      Event.takeIn [] first = .ok (events, held) →
      events <+: sequence.events ∧
        ∀ growth, events.foldlM Growth.step Growth.start = .ok growth →
          growth.branches.map (fun branch => branch.tag.localName) = Event.localNames held) ∧
    (∀ first second more, outermost = first :: second :: more →
      parse text = .error (.tree (.multipleRoots second.localName))) ∧
    (∀ error, outermost.length ≤ 1 → sequence.error = some error →
      parse text = .error error ∧ error.IsReading) ∧
    (∀ innermost outer, outermost.length ≤ 1 → sequence.error = none →
      openTags = innermost :: outer →
      parse text = .error (.tree (.neverClosed innermost.localName))) ∧
    (sequence.error = none → tags = [] → parse text = .error (.tree .missingRoot)) ∧
    (outermost.length ≤ 1 → sequence.error = none → openTags = [] → tags ≠ [] →
      ∃ document, parse text = .ok document ∧
        document.elements.map Element.tag = tags ∧
        (document.root.located.map fun found => (found.1, found.2.tag)) =
          Event.place [] sequence.events) := by
  have nested : Event.Matched [] (Event.ofText text.toList).events :=
    Event.matched_ofText text.toList
  have reading : ∀ error, (Event.ofText text.toList).error = some error → error.IsReading :=
    fun error failed => Event.isReading_of_ofTokens failed
  refine ⟨ofEvents_ne_unexpectedClosing nested reading, ?_⟩
  intro tokens sequence tags outermost openTags
  refine ⟨?_, fun first second more => ofEvents_of_several nested, ?_, ?_, ?_, ?_⟩
  · intro first rest events held split taken
    refine ⟨?_, fun growth => map_localName_branches taken⟩
    have early := (Event.takeIn_start_keeps taken).2.2
      (Token.scan 0 (Event.dropOrderMark text.toList)).fault rest
    rwa [← split] at early
  · intro error single failed
    obtain ⟨growth, grown, -⟩ := exists_follows nested single
    exact ⟨ofEvents_of_error grown failed, reading error failed⟩
  · intro innermost outer single ended unclosed
    obtain ⟨growth, grown, follows⟩ := exists_follows nested single
    rw [parse, ofEvents_of_end grown ended,
      Growth.finish_of_open (follows.openTags_eq.trans unclosed)]
    rfl
  · intro ended untagged
    have empty : sequence.events = [] := nested.eq_nil_of_no_tag untagged
    have grown : sequence.events.foldlM Growth.step Growth.start = .ok Growth.start := by
      rw [empty]
      rfl
    exact ofEvents_of_end grown ended
  · intro single ended closed tagged
    obtain ⟨growth, grown, follows⟩ := exists_follows nested single
    obtain ⟨root, finished, placed⟩ := Growth.exists_finish follows closed tagged
    refine ⟨⟨root⟩, ?_, ?_, ?_⟩
    · rw [parse, ofEvents_of_end grown ended, finished]
      rfl
    · have inOrder : tags = (root.tagsAt []).map Prod.snd := by
        rw [placed, Event.map_snd_place]
      rw [inOrder, elements_eq_preorder, ← Element.map_snd_located, Element.tagsAt, List.map_map,
        List.map_map]
      rfl
    · simpa [Element.tagsAt] using placed

/--
A tag that is never closed decides, although a complete element stands before it; once a second
one is complete it decides, although the text goes on with a fault.
-/
theorem parse_by_events_siblings :
    parse "<a/><b>" = .error (.tree (.neverClosed "b")) ∧
      parse "<a/><b/></c>" = .error (.tree (.multipleRoots "b")) ∧
      (∃ error, parse "<a/></c>" = .error error ∧ error.IsReading) ∧
      parse "\uFEFF<!---->" = .error (.tree .missingRoot) ∧
      ∃ document, parse "<a><b/></a>" = .ok document ∧
        document.elements.map Element.tag = [⟨none, "a", []⟩, ⟨none, "b", []⟩] := by
  obtain ⟨-, -, -, -, unclosed, -, -⟩ := parse_by_events "<a/><b>"
  obtain ⟨-, -, several, -, -, -, -⟩ := parse_by_events "<a/><b/></c>"
  obtain ⟨-, -, -, faulty, -, -, -⟩ := parse_by_events "<a/></c>"
  obtain ⟨-, -, -, -, -, untagged, -⟩ := parse_by_events "\uFEFF<!---->"
  obtain ⟨-, -, -, -, -, -, whole⟩ := parse_by_events "<a><b/></a>"
  refine ⟨?_, ?_, ?_, ?_, ?_⟩
  · exact unclosed ⟨none, "b", []⟩ [] (by decide +kernel) (by decide +kernel) (by decide +kernel)
  · exact several ⟨none, "a", []⟩ ⟨none, "b", []⟩ [] (by decide +kernel)
  · exact ⟨_, faulty (.misplaced 4 (.unmatchedClosing ['c'])) (by decide +kernel)
      (by decide +kernel)⟩
  · exact untagged (by decide +kernel) (by decide +kernel)
  · have tags : (Event.ofText "<a><b/></a>".toList).events.filterMap Event.tag? =
        [⟨none, "a", []⟩, ⟨none, "b", []⟩] := by
      decide +kernel
    obtain ⟨document, parsed, inOrder, -⟩ := whole (by decide +kernel) (by decide +kernel)
      (by decide +kernel) (by simp only [tags, ne_eq, reduceCtorEq, not_false_eq_true])
    exact ⟨document, parsed, inOrder.trans tags⟩

end Document

end Markup

end SchemaScript
