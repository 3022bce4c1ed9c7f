import SchemaScript.Proofs.Markup.Token
import SchemaScript.Proofs.Text.Cut

/-!
# Where markup ends

A piece of markup ends where its own characters say so.  Whatever text follows
it, the same token is read from the same characters, and all of that text is
left.
-/

namespace SchemaScript

namespace Markup

namespace Token

theorem cutTag?_append_other {quote : Option Char} {text content rest : List Char}
    (found : cutTag? quote text = some (content, rest)) (other : List Char) :
    text = content ++ '>' :: rest ∧
      cutTag? quote (content ++ '>' :: other) = some (content, other) := by
  induction text generalizing quote content with
  | nil => cases quote <;> simp [cutTag?] at found
  | cons first text ih =>
      cases quote with
      | none =>
          unfold cutTag? at found
          split at found
          · rename_i ends
            cases found
            simp [cutTag?, ends]
          · rename_i goesOn
            obtain ⟨parts, cut, same⟩ := Option.map_eq_some_iff.mp found
            cases same
            obtain ⟨whole, again⟩ := ih cut
            simp [cutTag?, goesOn, again, whole]
      | some quote =>
          obtain ⟨parts, cut, same⟩ := Option.map_eq_some_iff.mp found
          cases same
          obtain ⟨whole, again⟩ := ih cut
          simp [cutTag?, again, whole]

theorem cutBalanced?_append_other {depth : Nat} {text content rest : List Char}
    (found : cutBalanced? depth text = some (content, rest)) (other : List Char) :
    text = content ++ '>' :: rest ∧
      cutBalanced? depth (content ++ '>' :: other) = some (content, other) := by
  induction text generalizing depth content with
  | nil => simp [cutBalanced?] at found
  | cons first text ih =>
      unfold cutBalanced? at found
      split at found
      · rename_i nests
        obtain ⟨parts, cut, same⟩ := Option.map_eq_some_iff.mp found
        cases same
        obtain ⟨whole, again⟩ := ih cut
        simp [cutBalanced?, nests, again, whole]
      · rename_i plain
        split at found
        · rename_i ends
          cases depth with
          | zero =>
              cases found
              simp [cutBalanced?, ends]
          | succ depth =>
              obtain ⟨parts, cut, same⟩ := Option.map_eq_some_iff.mp found
              cases same
              obtain ⟨whole, again⟩ := ih cut
              simp [cutBalanced?, ends, again, whole]
        · rename_i goesOn
          obtain ⟨parts, cut, same⟩ := Option.map_eq_some_iff.mp found
          cases same
          obtain ⟨whole, again⟩ := ih cut
          simp [cutBalanced?, plain, goesOn, again, whole]

section Openings

variable {text content rest : List Char}

theorem readDeclaration_characterData
    (cut : Text.cut? [']', ']', '>'] text = some (content, rest)) :
    readDeclaration (['[', 'C', 'D', 'A', 'T', 'A', '['] ++ text) =
      .ok (characterData content, rest) := by
  have opened : (Text.after? ['[', 'C', 'D', 'A', 'T', 'A', '[']
      (['[', 'C', 'D', 'A', 'T', 'A', '['] ++ text)).bind (Text.cut? [']', ']', '>']) =
        some (content, rest) := by
    rw [Text.after?_append, Option.bind_some, cut]
  rw [readDeclaration.eq_def]
  simp only [List.cons_append] at opened ⊢
  rw [opened]

theorem readDeclaration_comment (cut : Text.cut? ['-', '-', '>'] text = some (content, rest)) :
    readDeclaration (['-', '-'] ++ text) = .ok (comment content, rest) := by
  have opened : (Text.after? ['-', '-'] (['-', '-'] ++ text)).bind (Text.cut? ['-', '-', '>']) =
      some (content, rest) := by
    rw [Text.after?_append, Option.bind_some, cut]
  rw [readDeclaration.eq_def]
  simp only [List.cons_append] at opened ⊢
  rw [opened]

theorem readDeclaration_documentType {first : Char} (letter : first.toUpper = 'D')
    {more : List Char} (cut : cutBalanced? 0 (first :: more) = some (content, rest))
    (named : startsDocumentType content = true) :
    readDeclaration (first :: more) = .ok (documentType content, rest) := by
  unfold readDeclaration
  split
  · rename_i same
    cases same
    exact absurd letter (by decide)
  · rename_i same
    cases same
    exact absurd letter (by decide)
  · rename_i same
    cases same
    simp only [letter, cut, named, if_true]
  · rename_i same
    cases same

theorem readInstruction_of_cut (start : text.head? ≠ some '>')
    (cut : Text.cut? ['?', '>'] text = some (content, rest)) :
    readInstruction text = .ok (instruction content, rest) := by
  unfold readInstruction
  split
  · exact absurd rfl start
  · rw [cut]

end Openings

section Reading

variable {text rest : List Char} {token : Token}

/--
A piece of markup is read from the text behind its mark: it is no plain text, and its own
characters are read in the same way whatever text is behind them.
-/
def ReadsAlone (read : List Char → Except Fault (Token × List Char)) (mark : List Char)
    (text : List Char) (token : Token) (rest : List Char) : Prop :=
  (∀ content, token ≠ .text content) ∧
    ∃ body, token.source = '<' :: (mark ++ body) ∧ text = body ++ rest ∧
      ∀ other, read (body ++ other) = .ok (token, other)

theorem ofTag_ne_text (content other : List Char) : ofTag content ≠ .text other := by
  unfold ofTag
  split <;> exact nofun

theorem readsAlone_declaration (read : readDeclaration text = .ok (token, rest)) :
    ReadsAlone readDeclaration ['!'] text token rest := by
  unfold readDeclaration at read
  split at read
  · split at read
    · rename_i content tail cut
      cases read
      obtain ⟨inner, opened, closed⟩ := Option.bind_eq_some_iff.mp cut
      refine ⟨fun _ => nofun, ['[', 'C', 'D', 'A', 'T', 'A', '['] ++ (content ++ [']', ']', '>']),
        rfl, ?_, ?_⟩
      · rw [Text.append_of_after? opened, Text.append_of_cut? closed]
        simp
      · intro other
        have again := readDeclaration_characterData (Text.cut?_append_other closed other)
        simpa using again
    · cases read
  · split at read
    · rename_i content tail cut
      cases read
      obtain ⟨inner, opened, closed⟩ := Option.bind_eq_some_iff.mp cut
      refine ⟨fun _ => nofun, ['-', '-'] ++ (content ++ ['-', '-', '>']), rfl, ?_, ?_⟩
      · rw [Text.append_of_after? opened, Text.append_of_cut? closed]
        simp
      · intro other
        have again := readDeclaration_comment (Text.cut?_append_other closed other)
        simpa using again
    · cases read
  · rename_i first more _ _
    split at read
    · rename_i letter
      split at read
      · rename_i content tail cut
        split at read
        · rename_i named
          cases read
          refine ⟨fun _ => nofun, content ++ ['>'], rfl,
            by simpa using (cutBalanced?_append_other cut []).1, ?_⟩
          intro other
          obtain ⟨whole, again⟩ := cutBalanced?_append_other cut other
          cases content with
          | nil => cases named
          | cons same content =>
              cases whole
              simpa using readDeclaration_documentType letter again named
        · cases read
      · cases read
    · cases read
  · cases read

theorem readsAlone_instruction (read : readInstruction text = .ok (token, rest)) :
    ReadsAlone readInstruction ['?'] text token rest := by
  unfold readInstruction at read
  split at read
  · cases read
  · rename_i start
    split at read
    · rename_i content tail cut
      cases read
      refine ⟨fun _ => nofun, content ++ ['?', '>'], rfl,
        by simpa using Text.append_of_cut? cut, ?_⟩
      intro other
      have again := Text.cut?_append_other cut other
      have startAgain : (content ++ (['?', '>'] ++ other)).head? ≠ some '>' := by
        cases content with
        | nil => simp
        | cons first content =>
            intro same
            cases same
            exact start _ (Text.append_of_cut? cut)
      simpa using readInstruction_of_cut startAgain again
    · cases read

theorem next_markup (text : List Char) : next '<' text = readMarkup text := by
  rw [next, if_pos rfl]

/-- A piece of markup is read in the same way whatever text is behind it. -/
theorem readsAlone_markup (read : next '<' text = .ok (token, rest)) :
    ReadsAlone (next '<') [] text token rest := by
  rw [next_markup] at read
  unfold readMarkup at read
  split at read
  · obtain ⟨noText, body, shape, rfl, again⟩ := readsAlone_declaration read
    exact ⟨noText, '!' :: body, shape, rfl, fun other => (next_markup _).trans (again other)⟩
  · obtain ⟨noText, body, shape, rfl, again⟩ := readsAlone_instruction read
    exact ⟨noText, '?' :: body, shape, rfl, fun other => (next_markup _).trans (again other)⟩
  · split at read
    · rename_i content tail cut
      cases read
      refine ⟨fun _ => nofun, '/' :: (content ++ ['>']), rfl, ?_, ?_⟩
      · simpa using (cutTag?_append_other cut []).1
      · intro other
        simp [next_markup, readMarkup, (cutTag?_append_other cut other).2]
    · cases read
  · rename_i noDeclaration noInstruction noClosing
    split at read
    · rename_i content tail cut
      cases read
      have whole := (cutTag?_append_other cut []).1
      refine ⟨ofTag_ne_text content, content ++ ['>'], source_ofTag content,
        by simpa using whole, ?_⟩
      intro other
      have plain : ∀ first ∈ (content ++ '>' :: other).head?, first ∉ ['!', '?', '/'] := by
        intro first head special
        have stands : text = first :: text.tail := by
          cases content with
          | nil =>
              cases head
              exact absurd special (by decide)
          | cons same content =>
              cases head
              rw [whole]
              rfl
        simp only [List.mem_cons, List.not_mem_nil, or_false] at special
        rcases special with rfl | rfl | rfl
        · exact noDeclaration _ stands
        · exact noInstruction _ stands
        · exact noClosing _ stands
      simpa using Grammar.next_of_cut plain (cutTag?_append_other cut other).2
    · cases read

end Reading

/-! ### Markup that is no tag -/

section Asides

variable {content : List Char}

/-- A comment ends where its content does, if that does not end comments itself. -/
theorem next_comment (free : ¬ ['-', '-', '>'] <:+: content) (text : List Char) :
    next '<' ('!' :: '-' :: '-' :: (content ++ '-' :: '-' :: '>' :: text)) =
      .ok (comment content, text) := by
  have single : '>' ∉ ['-', '-'] := by decide
  have cut := Text.cut?_append_of_free single free text
  exact (next_markup _).trans (readDeclaration_comment cut)

theorem next_characterData (free : ¬ [']', ']', '>'] <:+: content) (text : List Char) :
    next '<' ('!' :: '[' :: 'C' :: 'D' :: 'A' :: 'T' :: 'A' :: '[' ::
      (content ++ ']' :: ']' :: '>' :: text)) = .ok (characterData content, text) := by
  have single : '>' ∉ [']', ']'] := by decide
  have cut := Text.cut?_append_of_free single free text
  exact (next_markup _).trans (readDeclaration_characterData cut)

theorem next_instruction (start : content.head? ≠ some '>') (free : ¬ ['?', '>'] <:+: content)
    (text : List Char) :
    next '<' ('?' :: (content ++ '?' :: '>' :: text)) = .ok (instruction content, text) := by
  have single : '>' ∉ ['?'] := by decide
  have cut := Text.cut?_append_of_free single free text
  have goesOn : (content ++ '?' :: '>' :: text).head? ≠ some '>' := by
    cases content with
    | nil => simp
    | cons first content => exact start
  exact (next_markup _).trans (readInstruction_of_cut goesOn cut)

/-- A document type ends at the `>` that closes no inner `<` of its content. -/
theorem next_documentType (named : startsDocumentType content = true)
    (balanced : cutBalanced? 0 (content ++ ['>']) = some (content, [])) (text : List Char) :
    next '<' ('!' :: (content ++ '>' :: text)) = .ok (documentType content, text) := by
  cases content with
  | nil => cases named
  | cons first content =>
      have letter : first.toUpper = 'D' := by
        rw [startsDocumentType, decide_eq_true_eq, documentTypeWord, List.length_cons,
          List.take_succ_cons, List.map_cons, List.cons.injEq] at named
        exact named.1
      have cut := (cutBalanced?_append_other balanced text).2
      exact (next_markup _).trans (readDeclaration_documentType letter cut named)

end Asides

/-! ### The tokens of a text -/

section Scanning

variable {first : Char} {text rest : List Char} {token : Token}

theorem scan_of_next (offset : Nat) (read : next first text = .ok (token, rest)) :
    scan offset (first :: text) =
      ⟨(offset, token) :: (scan (offset + Text.byteLength token.source) rest).tokens,
        (scan (offset + Text.byteLength token.source) rest).fault⟩ := by
  rw [scan.eq_def]
  dsimp only
  split
  · simp_all
  · rename_i same
    rw [read] at same
    cases same
    rfl

theorem scan_of_fault (offset : Nat) {fault : Fault} (stopped : next first text = .error fault) :
    scan offset (first :: text) = ⟨[], some (offset, fault)⟩ := by
  rw [scan.eq_def]
  dsimp only
  split <;> simp_all

end Scanning

end Token

end Markup

end SchemaScript
