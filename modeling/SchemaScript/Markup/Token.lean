import SchemaScript.Text.Cut

/-!
# Tokens of markup

A document is cut into plain text and pieces of markup.  The cut needs no
memory: which piece comes next depends on the characters that follow and on
nothing before them.  `Token.source` writes a token as it was read, and
`next_source` says that reading loses nothing, so the sources of the tokens
concatenate to the text.
-/

namespace SchemaScript

namespace Markup

/-- A piece of a document, with what stands between its delimiters. -/
inductive Token where
  | text (content : List Char)
  | comment (content : List Char)
  | characterData (content : List Char)
  | documentType (content : List Char)
  | instruction (content : List Char)
  | opening (content : List Char)
  | selfClosing (content : List Char)
  | closing (content : List Char)
deriving Repr, DecidableEq

namespace Token

def source : Token → List Char
  | text content => content
  | comment content => ['<', '!', '-', '-'] ++ (content ++ ['-', '-', '>'])
  | characterData content =>
    ['<', '!', '[', 'C', 'D', 'A', 'T', 'A', '['] ++ (content ++ [']', ']', '>'])
  | documentType content => ['<', '!'] ++ (content ++ ['>'])
  | instruction content => ['<', '?'] ++ (content ++ ['?', '>'])
  | opening content => ['<'] ++ (content ++ ['>'])
  | selfClosing content => ['<'] ++ (content ++ ['/', '>'])
  | closing content => ['<', '/'] ++ (content ++ ['>'])

/-- Why a piece of markup cannot be delimited. -/
inductive Fault where
  | unclosedTag
  | unclosedComment
  | unclosedCharacterData
  | unclosedDocumentType
  | unclosedInstruction
  | unknownMarkup
deriving Repr, DecidableEq

def Fault.message : Fault → String
  | unclosedTag => "tag not closed: `>` not found before end of input"
  | unclosedComment => "comment not closed: `-->` not found before end of input"
  | unclosedCharacterData => "CDATA not closed: `]]>` not found before end of input"
  | unclosedDocumentType => "DOCTYPE not closed: `>` not found before end of input"
  | unclosedInstruction =>
    "processing instruction or xml declaration not closed: `?>` not found before end of input"
  | unknownMarkup => "unknown or missed symbol in markup"

def isQuote (char : Char) : Bool :=
  char = '"' || char = '\x27'

/--
Cuts at the `>` that ends a tag: the first one outside quotes.  The first
argument is the quote that is still to be closed, if any.
-/
def cutTag? : Option Char → List Char → Option (List Char × List Char)
  | _, [] => none
  | none, first :: rest =>
    if first = '>' then
      some ([], rest)
    else
      (cutTag? (if isQuote first then some first else none) rest).map
        fun parts => (first :: parts.1, parts.2)
  | some quote, first :: rest =>
    (cutTag? (if first = quote then none else some quote) rest).map
      fun parts => (first :: parts.1, parts.2)

/--
Cuts at the `>` that ends a document type: the first one that closes no inner
`<`.  The first argument counts the inner `<` that are still to be closed.
-/
def cutBalanced? : Nat → List Char → Option (List Char × List Char)
  | _, [] => none
  | depth, first :: rest =>
    let push (parts : List Char × List Char) := (first :: parts.1, parts.2)
    if first = '<' then
      (cutBalanced? (depth + 1) rest).map push
    else if first = '>' then
      match depth with
      | 0 => some ([], rest)
      | depth + 1 => (cutBalanced? depth rest).map push
    else
      (cutBalanced? depth rest).map push

/-- The word that opens a document type; its letters may have either case. -/
def documentTypeWord : List Char :=
  ['D', 'O', 'C', 'T', 'Y', 'P', 'E']

def startsDocumentType (content : List Char) : Bool :=
  (content.take documentTypeWord.length).map Char.toUpper = documentTypeWord

def readDeclaration (text : List Char) : Except Fault (Token × List Char) :=
  match text with
  | '[' :: _ =>
    match (Text.after? ['[', 'C', 'D', 'A', 'T', 'A', '['] text).bind
      (Text.cut? [']', ']', '>']) with
    | some (content, rest) => .ok (characterData content, rest)
    | none => .error .unclosedCharacterData
  | '-' :: _ =>
    match (Text.after? ['-', '-'] text).bind (Text.cut? ['-', '-', '>']) with
    | some (content, rest) => .ok (comment content, rest)
    | none => .error .unclosedComment
  | first :: _ =>
    if first.toUpper = 'D' then
      match cutBalanced? 0 text with
      | some (content, rest) =>
        if startsDocumentType content then
          .ok (documentType content, rest)
        else
          .error .unclosedDocumentType
      | none => .error .unclosedDocumentType
    else
      .error .unknownMarkup
  | [] => .error .unknownMarkup

/-- Reads the markup that follows `<?`.  The two marks do not share their `?`. -/
def readInstruction (text : List Char) : Except Fault (Token × List Char) :=
  match text with
  | '>' :: _ => .error .unclosedInstruction
  | text =>
    match Text.cut? ['?', '>'] text with
    | some (content, rest) => .ok (instruction content, rest)
    | none => .error .unclosedInstruction

/-- The tag with the given content: a `/` at its end makes it self-closing. -/
def ofTag (content : List Char) : Token :=
  if content.getLast? = some '/' then selfClosing content.dropLast else opening content

def readMarkup (text : List Char) : Except Fault (Token × List Char) :=
  match text with
  | '!' :: rest => readDeclaration rest
  | '?' :: rest => readInstruction rest
  | '/' :: rest =>
    match cutTag? none rest with
    | some (content, rest) => .ok (closing content, rest)
    | none => .error .unclosedTag
  | text =>
    match cutTag? none text with
    | some (content, rest) => .ok (ofTag content, rest)
    | none => .error .unclosedTag

/-- Reads the first token of the text `first :: rest`. -/
def next (first : Char) (rest : List Char) : Except Fault (Token × List Char) :=
  if first = '<' then
    readMarkup rest
  else
    .ok (text (first :: rest.takeWhile (· ≠ '<')), rest.dropWhile (· ≠ '<'))

private theorem append_of_cutTag? {quote : Option Char} {text content rest : List Char}
    (found : cutTag? quote text = some (content, rest)) :
    text = content ++ ('>' :: rest) := by
  induction text generalizing quote content with
  | nil => cases quote <;> simp [cutTag?] at found
  | cons first text ih =>
      cases quote with
      | none =>
          unfold cutTag? at found
          split at found
          · rename_i ends
            cases found
            simp [ends]
          · obtain ⟨parts, cut, same⟩ := Option.map_eq_some_iff.mp found
            cases same
            rw [ih cut]
            rfl
      | some quote =>
          obtain ⟨parts, cut, same⟩ := Option.map_eq_some_iff.mp found
          cases same
          rw [ih cut]
          rfl

private theorem append_of_cutBalanced? {depth : Nat} {text content rest : List Char}
    (found : cutBalanced? depth text = some (content, rest)) :
    text = content ++ ('>' :: rest) := by
  induction text generalizing depth content with
  | nil => simp [cutBalanced?] at found
  | cons first text ih =>
      have extend {depth : Nat}
          (found : (cutBalanced? depth text).map
            (fun parts => (first :: parts.1, parts.2)) = some (content, rest)) :
          first :: text = content ++ ('>' :: rest) := by
        obtain ⟨parts, cut, same⟩ := Option.map_eq_some_iff.mp found
        cases same
        rw [ih cut]
        rfl
      unfold cutBalanced? at found
      split at found
      · exact extend found
      · split at found
        · rename_i ends
          cases depth with
          | zero =>
              cases found
              simp [ends]
          | succ depth => exact extend found
        · exact extend found

theorem source_ofTag (content : List Char) :
    (ofTag content).source = '<' :: (content ++ ['>']) := by
  unfold ofTag
  split
  · rename_i slash
    obtain ⟨body, rfl⟩ := List.getLast?_eq_some_iff.mp slash
    simp [source]
  · simp [source]

private theorem readDeclaration_source {text rest : List Char} {token : Token}
    (read : readDeclaration text = .ok (token, rest)) :
    ∃ body, token.source = '<' :: body ∧ body ++ rest = '!' :: text := by
  unfold readDeclaration at read
  split at read
  · split at read
    · rename_i content tail cut
      cases read
      obtain ⟨inner, opened, closed⟩ := Option.bind_eq_some_iff.mp cut
      rw [Text.append_of_after? opened, Text.append_of_cut? closed]
      exact ⟨_, rfl, by simp⟩
    · cases read
  · split at read
    · rename_i content tail cut
      cases read
      obtain ⟨inner, opened, closed⟩ := Option.bind_eq_some_iff.mp cut
      rw [Text.append_of_after? opened, Text.append_of_cut? closed]
      exact ⟨_, rfl, by simp⟩
    · cases read
  · split at read
    · split at read
      · rename_i content tail cut
        split at read
        · cases read
          rw [append_of_cutBalanced? cut]
          exact ⟨_, rfl, by simp⟩
        · cases read
      · cases read
    · cases read
  · cases read

private theorem readInstruction_source {text rest : List Char} {token : Token}
    (read : readInstruction text = .ok (token, rest)) :
    ∃ body, token.source = '<' :: body ∧ body ++ rest = '?' :: text := by
  unfold readInstruction at read
  split at read
  · cases read
  · split at read
    · rename_i content tail cut
      cases read
      rw [Text.append_of_cut? cut]
      exact ⟨_, rfl, by simp⟩
    · cases read

private theorem readMarkup_source {text rest : List Char} {token : Token}
    (read : readMarkup text = .ok (token, rest)) :
    ∃ body, token.source = '<' :: body ∧ body ++ rest = text := by
  unfold readMarkup at read
  split at read
  · exact readDeclaration_source read
  · exact readInstruction_source read
  · split at read
    · rename_i content tail cut
      cases read
      rw [append_of_cutTag? cut]
      exact ⟨_, rfl, by simp⟩
    · cases read
  · split at read
    · rename_i content tail cut
      cases read
      rw [append_of_cutTag? cut]
      exact ⟨_, source_ofTag content, by simp⟩
    · cases read

/-- The source of a token that was read is the text up to what is left of it. -/
theorem next_source {first : Char} {text rest : List Char} {token : Token}
    (read : next first text = .ok (token, rest)) :
    ∃ body, token.source = first :: body ∧ body ++ rest = text := by
  unfold next at read
  split at read
  · rename_i opens
    subst opens
    exact readMarkup_source read
  · cases read
    exact ⟨_, rfl, List.takeWhile_append_dropWhile⟩

theorem next_length_le {first : Char} {text rest : List Char} {token : Token}
    (read : next first text = .ok (token, rest)) :
    rest.length ≤ text.length := by
  obtain ⟨body, -, whole⟩ := next_source read
  rw [← whole, List.length_append]
  exact Nat.le_add_left _ _

/-- The tokens of a text with their offsets, up to its end or the first fault. -/
structure Sequence where
  tokens : List (Nat × Token)
  fault : Option (Nat × Fault)
deriving Repr, DecidableEq

/--
Cuts a text into tokens.  An offset counts the bytes before the token, or
before the markup that cannot be delimited, starting from the given one.
-/
def scan (offset : Nat) (text : List Char) : Sequence :=
  match text with
  | [] => ⟨[], none⟩
  | first :: rest =>
    match _ : next first rest with
    | .error fault => ⟨[], some (offset, fault)⟩
    | .ok (token, remaining) =>
      let later := scan (offset + Text.byteLength token.source) remaining
      ⟨(offset, token) :: later.tokens, later.fault⟩
termination_by text.length
decreasing_by exact Nat.lt_succ_of_le (next_length_le (by assumption))

end Token

end Markup

end SchemaScript
