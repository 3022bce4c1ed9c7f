import Mathlib.Data.List.TakeWhile
import SchemaScript.Proofs.Markup.Parsing
import SchemaScript.Proofs.Markup.Verdict

/-!
# What stands beside the tags

Plain text, comments, character data and instructions say nothing about the
tree.  They may be put anywhere outside the markup of a text: the document is
the same, and so is the error if there is one, except for the offset at which
it stands.
-/

namespace SchemaScript

namespace Markup

/-- An error at another offset of the document, if it tells one. -/
def Error.movedTo (offset : Nat) : Error → Error
  | undelimited _ cause => undelimited offset cause
  | misplaced _ cause => misplaced offset cause
  | reserved cause => reserved cause
  | assignment cause => assignment cause
  | reference cause => reference cause
  | tree cause => tree cause

theorem Error.exists_movedTo {first second : Error} (same : first.movedTo 0 = second.movedTo 0) :
    ∃ offset, second = first.movedTo offset := by
  cases second with
  | undelimited offset cause => exact ⟨offset, by cases first <;> simp_all [movedTo]⟩
  | misplaced offset cause => exact ⟨offset, by cases first <;> simp_all [movedTo]⟩
  | reserved cause => exact ⟨0, same.symm⟩
  | assignment cause => exact ⟨0, same.symm⟩
  | reference cause => exact ⟨0, same.symm⟩
  | tree cause => exact ⟨0, same.symm⟩

namespace Event

open Grammar

/-- Events without the offset at which an error ends them. -/
def Sequence.placeless (sequence : Sequence) : Sequence :=
  ⟨sequence.events, sequence.error.map (Error.movedTo 0)⟩

/-- What is read of a text inside the given open tags, wherever it stands. -/
def readInside (openTags : List OpenTag) (text : List Char) : Sequence :=
  (eventsFrom openTags 0 text).placeless

/-- What a token does inside the given open tags, wherever it stands. -/
def takeToken (openTags : List OpenTag) (token : Token) :
    Except Error (Option Event × List OpenTag) :=
  (ofToken openTags 0 token).mapError (Error.movedTo 0)

/-- What comes of a text that goes on behind a token. -/
def follow (taken : Except Error (Option Event × List OpenTag))
    (later : List OpenTag → Sequence) : Sequence :=
  match taken with
  | .error error => ⟨[], some error⟩
  | .ok (event, openTags) => precede event.toList (later openTags)

section Reading

variable {openTags : List OpenTag} {first : Char} {text rest : List Char} {token : Token}

theorem mapError_ofToken (openTags : List OpenTag) (offset : Nat) (token : Token) :
    (ofToken openTags offset token).mapError (Error.movedTo 0) = takeToken openTags token := by
  cases token with
  | opening content => rfl
  | selfClosing content => rfl
  | closing content =>
      cases openTags with
      | nil => rfl
      | cons innermost outer =>
          simp only [takeToken, ofToken]
          split <;> rfl
  | documentType content =>
      simp only [takeToken, ofToken]
      split <;> rfl
  | text content => rfl
  | comment content => rfl
  | characterData content => rfl
  | instruction content => rfl

theorem placeless_eventsFrom_of_next (openTags : List OpenTag) (offset : Nat)
    (read : Token.next first text = .ok (token, rest)) :
    (eventsFrom openTags offset (first :: text)).placeless =
      follow (takeToken openTags token) fun later =>
        (eventsFrom later (offset + Text.byteLength token.source) rest).placeless := by
  rw [← mapError_ofToken openTags offset token]
  simp only [eventsFrom, Token.scan_of_next offset read, ofTokens]
  cases ofToken openTags offset token <;> rfl

theorem placeless_eventsFrom (openTags : List OpenTag) (offset : Nat) (text : List Char) :
    (eventsFrom openTags offset text).placeless = readInside openTags text := by
  rw [readInside]
  generalize 0 = other
  induction length : text.length using Nat.strongRecOn generalizing openTags offset other text with
  | _ length ih =>
      subst length
      cases text with
      | nil => simp [eventsFrom, Token.scan]
      | cons first text =>
          cases read : Token.next first text with
          | error fault =>
              simp [eventsFrom, Token.scan_of_fault _ read, ofTokens, Sequence.placeless,
                Error.movedTo]
          | ok result =>
              obtain ⟨token, rest⟩ := result
              have shorter := Nat.lt_succ_of_le (Token.next_length_le read)
              rw [placeless_eventsFrom_of_next openTags offset read,
                placeless_eventsFrom_of_next openTags other read]
              congr 1
              funext later
              exact ih rest.length shorter _ _ _ _ rfl

theorem readInside_of_next (openTags : List OpenTag)
    (read : Token.next first text = .ok (token, rest)) :
    readInside openTags (first :: text) =
      follow (takeToken openTags token) fun later => readInside later rest := by
  rw [readInside, placeless_eventsFrom_of_next openTags 0 read]
  simp only [placeless_eventsFrom]

/-- A token that leaves no event and keeps the open tags leaves no trace. -/
theorem readInside_of_silent (openTags : List OpenTag)
    (read : Token.next first text = .ok (token, rest))
    (silent : takeToken openTags token = .ok (none, openTags)) :
    readInside openTags (first :: text) = readInside openTags rest := by
  rw [readInside_of_next openTags read, silent]
  rfl

theorem readInside_dropWhile (openTags : List OpenTag) (text : List Char) :
    readInside openTags (text.dropWhile (· ≠ '<')) = readInside openTags text := by
  cases text with
  | nil => rfl
  | cons first text =>
      by_cases opens : first = '<'
      · rw [List.dropWhile_cons_of_neg (by simpa using opens)]
      · have read : Token.next first text =
            .ok (.text (first :: text.takeWhile (· ≠ '<')), text.dropWhile (· ≠ '<')) :=
          if_neg opens
        rw [List.dropWhile_cons_of_pos (by simpa using opens),
          readInside_of_silent openTags read rfl]

/-- Plain text leaves no trace. -/
theorem readInside_plain {plain : List Char} (free : '<' ∉ plain) (openTags : List OpenTag)
    (text : List Char) : readInside openTags (plain ++ text) = readInside openTags text := by
  have passed : ∀ char ∈ plain, decide (char ≠ '<') = true := by
    intro char member
    simpa using ne_of_mem_of_not_mem member free
  rw [← readInside_dropWhile openTags (plain ++ text), List.dropWhile_append_of_pos passed,
    readInside_dropWhile]

theorem placeless_ofText (text : List Char) : (ofText text).placeless = readInside [] text := by
  have dropped : readInside [] (dropOrderMark text) = readInside [] text := by
    unfold dropOrderMark
    split
    · rename_i marked
      obtain ⟨rest, rfl⟩ := List.head?_eq_some_iff.mp marked
      have free : '<' ∉ [orderMark] := by decide
      exact (readInside_plain free [] rest).symm
    · rfl
  rw [← dropped]
  rfl

end Reading

/-- Pieces of a text that may stand between its tags and say nothing about them. -/
inductive IsAside : List Char → Prop where
  | plain {content : List Char} (free : '<' ∉ content) : IsAside content
  | comment {content : List Char} (free : ¬ ['-', '-', '>'] <:+: content) :
      IsAside (Token.comment content).source
  | characterData {content : List Char} (free : ¬ [']', ']', '>'] <:+: content) :
      IsAside (Token.characterData content).source
  | instruction {content : List Char} (start : content.head? ≠ some '>')
      (free : ¬ ['?', '>'] <:+: content) : IsAside (Token.instruction content).source

theorem readInside_aside {piece : List Char} (aside : IsAside piece) (openTags : List OpenTag)
    (text : List Char) : readInside openTags (piece ++ text) = readInside openTags text := by
  cases aside with
  | plain free => exact readInside_plain free openTags text
  | comment free =>
      simpa [Token.source] using readInside_of_silent openTags (Token.next_comment free text) rfl
  | characterData free =>
      simpa [Token.source] using
        readInside_of_silent openTags (Token.next_characterData free text) rfl
  | instruction start free =>
      simpa [Token.source] using
        readInside_of_silent openTags (Token.next_instruction start free text) rfl

/-! ### Positions outside of markup -/

/-- The text that tokens were read from. -/
def sourceOf (tokens : List (Nat × Token)) : List Char :=
  tokens.flatMap fun entry => entry.2.source

/--
A text is divided outside of its markup: whole tokens stand before the division, and behind
them at most a part of plain text.
-/
def OutsideMarkup (before after : List Char) : Prop :=
  ∃ whole rest, (Token.scan 0 (before ++ after)).tokens = whole ++ rest ∧
    (before = sourceOf whole ∨
      ∃ offset head tail later, rest = (offset, .text (head ++ tail)) :: later ∧
        before = sourceOf whole ++ head)

section Scanning

variable {offset : Nat} {text : List Char}

/-- The first token of a text that has one, and the tokens behind it. -/
theorem exists_of_scan_eq_cons {entry : Nat × Token} {tokens : List (Nat × Token)}
    (scanned : (Token.scan offset text).tokens = entry :: tokens) :
    ∃ first more rest next, text = first :: more ∧ Token.next first more = .ok (entry.2, rest) ∧
      (Token.scan next rest).tokens = tokens := by
  cases text with
  | nil => simp [Token.scan] at scanned
  | cons first more =>
      cases read : Token.next first more with
      | error fault => simp [Token.scan_of_fault offset read] at scanned
      | ok result =>
          obtain ⟨token, rest⟩ := result
          rw [Token.scan_of_next offset read] at scanned
          cases scanned
          exact ⟨first, more, rest, _, rfl, read, rfl⟩

/-- A token is read from markup, or from characters that open none. -/
theorem next_cases {first : Char} {more rest : List Char} {token : Token}
    (read : Token.next first more = .ok (token, rest)) :
    first = '<' ∨ ∃ content, token = .text content ∧ '<' ∉ content := by
  rw [Token.next] at read
  split at read
  · exact .inl ‹_›
  · rename_i plain
    cases read
    refine .inr ⟨_, rfl, ?_⟩
    rw [List.mem_cons, not_or]
    exact ⟨Ne.symm plain, fun member => by simpa using List.mem_takeWhile_imp member⟩

/-- No token of plain text holds the start of markup. -/
theorem free_of_mem_scan {tokens : List (Nat × Token)} {start : Nat} {content : List Char}
    (scanned : (Token.scan offset text).tokens = tokens)
    (member : (start, .text content) ∈ tokens) : '<' ∉ content := by
  induction tokens generalizing offset text with
  | nil => cases member
  | cons head tokens ih =>
      obtain ⟨first, more, rest, next, rfl, read, later⟩ := exists_of_scan_eq_cons scanned
      rcases List.mem_cons.mp member with rfl | member
      · rcases next_cases read with rfl | ⟨plain, same, free⟩
        · exact absurd rfl ((Token.readsAlone_markup read).1 content)
        · cases same
          exact free
      · exact ih later member

/-- Texts that are read alike are read alike behind whole tokens. -/
theorem readInside_congr {whole rest : List (Nat × Token)}
    (scanned : (Token.scan offset text).tokens = whole ++ rest) {first second : List Char}
    (alike : ∀ held, readInside held first = readInside held second) (openTags : List OpenTag) :
    readInside openTags (sourceOf whole ++ first) =
      readInside openTags (sourceOf whole ++ second) := by
  induction whole generalizing offset text openTags with
  | nil => exact alike openTags
  | cons entry whole ih =>
      obtain ⟨char, more, remaining, next, rfl, read, later⟩ := exists_of_scan_eq_cons scanned
      rw [sourceOf, List.flatMap_cons, ← sourceOf, List.append_assoc, List.append_assoc]
      rcases next_cases read with rfl | ⟨content, plain, free⟩
      · obtain ⟨-, body, shape, -, again⟩ := Token.readsAlone_markup read
        rw [shape, List.nil_append, List.cons_append, List.cons_append,
          readInside_of_next openTags (again _), readInside_of_next openTags (again _)]
        congr 1
        funext held
        exact ih later held
      · rw [plain]
        exact (readInside_plain free openTags _).trans
          ((ih later openTags).trans (readInside_plain free openTags _).symm)

/-- A piece that says nothing about the tags may be put outside of markup. -/
theorem readInside_insert {before inserted after : List Char} (outside : OutsideMarkup before after)
    (aside : IsAside inserted) (openTags : List OpenTag) :
    readInside openTags (before ++ (inserted ++ after)) =
      readInside openTags (before ++ after) := by
  obtain ⟨whole, rest, scanned, rfl | ⟨offset, head, tail, later, rfl, rfl⟩⟩ := outside
  · exact readInside_congr scanned (fun held => readInside_aside aside held after) openTags
  · have member : (offset, Token.text (head ++ tail)) ∈
        whole ++ (offset, .text (head ++ tail)) :: later := by simp
    have free : '<' ∉ head := fun inside =>
      free_of_mem_scan scanned member (List.mem_append_left tail inside)
    rw [List.append_assoc, List.append_assoc]
    refine readInside_congr scanned (fun held => ?_) openTags
    rw [readInside_plain free, readInside_plain free, readInside_aside aside]

end Scanning

end Event

namespace Document

/-- Documents and errors are the same for the same events, the offsets of errors apart. -/
theorem ofEvents_of_placeless_eq {first second : Event.Sequence}
    (same : first.placeless = second.placeless) :
    (∀ document, ofEvents first = .ok document → ofEvents second = .ok document) ∧
      ∀ error, ofEvents first = .error error →
        ∃ offset, ofEvents second = .error (error.movedTo offset) := by
  obtain ⟨events, firstError⟩ := first
  obtain ⟨events', secondError⟩ := second
  simp only [Event.Sequence.placeless, Event.Sequence.mk.injEq] at same
  obtain ⟨rfl, errors⟩ := same
  cases firstError with
  | none =>
      have ended : secondError = none := Option.map_eq_none_iff.mp errors.symm
      subst ended
      refine ⟨fun document read => read, fun error failed => ?_⟩
      have same : error.movedTo 0 = error.movedTo 0 := rfl
      obtain ⟨offset, unmoved⟩ := Error.exists_movedTo same
      exact ⟨offset, failed.trans (congrArg Except.error unmoved)⟩
  | some stopping =>
      obtain ⟨other, rfl, moved⟩ := Option.map_eq_some_iff.mp errors.symm
      cases grown : events.foldlM Growth.step Growth.start with
      | error fault =>
          rw [ofEvents_of_stopped grown, ofEvents_of_stopped grown]
          refine ⟨fun _ => nofun, fun error failed => ⟨0, ?_⟩⟩
          cases failed
          rfl
      | ok growth =>
          rw [ofEvents_of_error grown rfl, ofEvents_of_error grown rfl]
          refine ⟨fun _ => nofun, fun error failed => ?_⟩
          cases failed
          obtain ⟨offset, rfl⟩ := Error.exists_movedTo moved.symm
          exact ⟨offset, rfl⟩

/--
Text, comments, character data and instructions may be put anywhere outside of markup.  A
document stays what it is, and an error changes at most the offset that it tells.
-/
theorem parse_insert_aside {before inserted after : String}
    (outside : Event.OutsideMarkup before.toList after.toList)
    (aside : Event.IsAside inserted.toList) :
    (∀ document, parse (before ++ after) = .ok document →
      parse (before ++ inserted ++ after) = .ok document) ∧
    ∀ error, parse (before ++ after) = .error error →
      ∃ offset, parse (before ++ inserted ++ after) = .error (error.movedTo offset) := by
  refine ofEvents_of_placeless_eq ?_
  rw [Event.placeless_ofText, Event.placeless_ofText, String.toList_append, String.toList_append,
    String.toList_append, List.append_assoc, Event.readInside_insert outside aside]

/-- A comment in the middle of plain text, in which a tag seems to be opened. -/
theorem parse_insert_comment :
    Event.OutsideMarkup "<a>x".toList "y</a>".toList ∧
      Event.IsAside "<!--<b>-->".toList ∧
      parse ("<a>x" ++ "<!--<b>-->" ++ "y</a>") = .ok ⟨⟨⟨none, "a", []⟩, []⟩⟩ := by
  have scanned : (Token.scan 0 ("<a>x".toList ++ "y</a>".toList)).tokens =
      [(0, .opening ['a']), (3, .text ['x', 'y']), (5, .closing ['a'])] := by decide +kernel
  have outside : Event.OutsideMarkup "<a>x".toList "y</a>".toList :=
    ⟨[(0, .opening ['a'])], _, scanned, .inr ⟨3, ['x'], ['y'], _, rfl, rfl⟩⟩
  have free : ¬ ['-', '-', '>'] <:+: ['<', 'b', '>'] := by decide
  have aside : Event.IsAside "<!--<b>-->".toList := .comment free
  have parsed : parse ("<a>x" ++ "y</a>") = .ok ⟨⟨⟨none, "a", []⟩, []⟩⟩ := by decide +kernel
  exact ⟨outside, aside, (parse_insert_aside outside aside).1 _ parsed⟩

end Document

end Markup

end SchemaScript
