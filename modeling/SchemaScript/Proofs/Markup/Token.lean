import SchemaScript.Proofs.Markup.Heading

/-!
# Tags delimited

A written tag is cut out of the text as one token, with the heading as its
content: a `>` inside a value does not end it, and no `/` of the heading is
taken for the mark of a tag without children.
-/

namespace SchemaScript

namespace Markup

namespace Grammar

/-- A text that opens no quotes it does not close, and ends no tag. -/
def Passes (text : List Char) : Prop :=
  ∀ rest, Token.cutTag? none (text ++ rest) =
    (Token.cutTag? none rest).map fun parts => (text ++ parts.1, parts.2)

variable {text : List Char}

theorem Passes.append {first second : List Char} (passes : Passes first)
    (later : Passes second) : Passes (first ++ second) := by
  intro rest
  rw [List.append_assoc, passes, later, Option.map_map]
  simp [Function.comp_def]

theorem passes_of_plain (plain : ∀ char ∈ text, char ∉ ['>', '"', '\x27']) : Passes text := by
  induction text with
  | nil =>
      intro rest
      simp
  | cons first text ih =>
      intro rest
      have apart := plain first List.mem_cons_self
      have later := ih fun char member => plain char (List.mem_cons_of_mem _ member)
      simp only [List.mem_cons, List.not_mem_nil, or_false, not_or] at apart
      have unquoted : Token.isQuote first = false := by simp [Token.isQuote, apart]
      rw [List.cons_append, Token.cutTag?, if_neg apart.1]
      simp [unquoted, later rest, Function.comp_def]

theorem cutTag?_some {quote : Char} (free : quote ∉ text) (rest : List Char) :
    Token.cutTag? (some quote) (text ++ quote :: rest) =
      (Token.cutTag? none rest).map fun parts => (text ++ quote :: parts.1, parts.2) := by
  induction text with
  | nil => simp [Token.cutTag?]
  | cons first text ih =>
      rw [List.mem_cons, not_or] at free
      rw [List.cons_append, Token.cutTag?, if_neg (Ne.symm free.1), ih free.2]
      simp [Function.comp_def]

theorem passes_quoted {quote : Char} (quotes : quote ∈ ['"', '\x27']) (free : quote ∉ text) :
    Passes (quote :: (text ++ [quote])) := by
  intro rest
  have table : ∀ quote ∈ ['"', '\x27'], quote ≠ '>' ∧ Token.isQuote quote = true := by
    simp [Token.isQuote]
  obtain ⟨other, quoted⟩ := table quote quotes
  have closed := cutTag?_some free rest
  rw [List.cons_append, Token.cutTag?, if_neg other]
  simp [quoted, closed, Function.comp_def]

theorem Passes.cutTag?_eq (passes : Passes text) (rest : List Char) :
    Token.cutTag? none (text ++ '>' :: rest) = some (text, rest) := by
  rw [passes]
  simp [Token.cutTag?]

theorem passes_of_isSpacing (spacing : IsSpacing text) : Passes text := by
  have table : ∀ char ∈ [' ', '\t', '\n', '\r'], char ∉ ['>', '"', '\x27'] := by simp
  exact passes_of_plain fun char member => table char (spacing char member)

theorem passes_name (name : QName) : Passes name.chars := by
  have table : ∀ char ∈ ['>', '"', '\x27'], char ∈ delimiters := by simp [delimiters]
  exact passes_of_plain fun char member special =>
    name.not_mem_delimiters char member (table char special)

theorem getLast?_append_ne {first second : List Char} {char : Char}
    (clear : first.getLast? ≠ some char) (later : second.getLast? ≠ some char) :
    (first ++ second).getLast? ≠ some char := by
  rw [List.getLast?_append]
  cases last : second.getLast? with
  | none => simpa using clear
  | some _ => simpa [last] using later

namespace RawItem

theorem passes_chars (item : RawItem) : Passes item.chars := by
  have equals : Passes ['='] := passes_of_plain (by simp)
  exact (passes_of_isSpacing item.gap_blank).append ((passes_name item.name).append
    ((passes_of_isSpacing item.before_blank).append (equals.append
      ((passes_of_isSpacing item.after_blank).append
        (passes_quoted item.quotes item.value_free)))))

theorem getLast?_chars_ne (item : RawItem) : item.chars.getLast? ≠ some '/' := by
  have table : ∀ quote ∈ ['"', '\x27'], quote ≠ '/' := by simp
  have last : item.chars.getLast? = some item.quote := by
    simp [chars, List.getLast?_append, List.getLast?_cons]
  rw [last]
  simpa using table item.quote item.quotes

end RawItem

theorem passes_rawItems (items : List RawItem) : Passes (items.flatMap RawItem.chars) := by
  induction items with
  | nil => exact passes_of_plain (by simp)
  | cons item items ih => exact item.passes_chars.append ih

theorem getLast?_rawItems_ne (items : List RawItem) :
    (items.flatMap RawItem.chars).getLast? ≠ some '/' := by
  induction items with
  | nil => simp
  | cons item items ih => exact getLast?_append_ne item.getLast?_chars_ne ih

/-- Text that opens no other markup is cut as a tag. -/
theorem next_of_cut {content rest : List Char}
    (plain : ∀ first ∈ text.head?, first ∉ ['!', '?', '/'])
    (cut : Token.cutTag? none text = some (content, rest)) :
    Token.next '<' text = .ok (Token.ofTag content, rest) := by
  rw [Token.next, if_pos rfl]
  unfold Token.readMarkup
  split
  · exact absurd (plain '!' rfl) (by decide)
  · exact absurd (plain '?' rfl) (by decide)
  · exact absurd (plain '/' rfl) (by decide)
  · rw [cut]

namespace RawTag

variable (tag : RawTag)

theorem passes_chars : Passes tag.chars :=
  (passes_name tag.name).append
    ((passes_rawItems tag.items).append (passes_of_isSpacing tag.gap_blank))

theorem getLast?_chars_ne : tag.chars.getLast? ≠ some '/' := by
  have named : tag.name.chars.getLast? ≠ some '/' := by
    intro last
    exact tag.name.not_mem_delimiters '/' (List.mem_of_getLast? last) (by decide)
  have spaced : tag.gap.getLast? ≠ some '/' := by
    intro last
    exact absurd (tag.gap_blank '/' (List.mem_of_getLast? last)) (by decide)
  exact getLast?_append_ne named (getLast?_append_ne (getLast?_rawItems_ne tag.items) spaced)

theorem head?_chars_plain (tail : List Char) :
    ∀ first ∈ (tag.chars ++ tail).head?, first ∉ ['!', '?', '/'] := by
  obtain ⟨char, rest, shape⟩ := tag.name.exists_chars_eq_cons
  have apart := tag.name.not_mem_delimiters char (by simp [shape])
  have table : ∀ char ∈ ['!', '?', '/'], char ∈ delimiters := by simp [delimiters]
  intro first head special
  rw [chars, shape] at head
  cases head
  exact apart (table char special)

theorem next_opening (rest : List Char) :
    Token.next '<' (tag.chars ++ '>' :: rest) = .ok (.opening tag.chars, rest) := by
  have cut := tag.passes_chars.cutTag?_eq rest
  have opens : Token.ofTag tag.chars = .opening tag.chars := if_neg tag.getLast?_chars_ne
  rw [next_of_cut (tag.head?_chars_plain _) cut, opens]

theorem next_selfClosing (rest : List Char) :
    Token.next '<' (tag.chars ++ '/' :: '>' :: rest) = .ok (.selfClosing tag.chars, rest) := by
  have slash : Passes ['/'] := passes_of_plain (by simp)
  have cut := (tag.passes_chars.append slash).cutTag?_eq rest
  rw [List.append_assoc] at cut
  have closes : Token.ofTag (tag.chars ++ ['/']) = .selfClosing tag.chars := by
    simp [Token.ofTag]
  rw [← closes]
  exact next_of_cut (tag.head?_chars_plain _) cut

end RawTag

theorem next_opening {heading : Heading} (written : WritesHeading heading text)
    (rest : List Char) :
    Token.next '<' (text ++ '>' :: rest) = .ok (.opening text, rest) := by
  obtain ⟨tag, rfl, -⟩ := exists_rawTag written
  exact tag.next_opening rest

theorem next_selfClosing {heading : Heading} (written : WritesHeading heading text)
    (rest : List Char) :
    Token.next '<' (text ++ '/' :: '>' :: rest) = .ok (.selfClosing text, rest) := by
  obtain ⟨tag, rfl, -⟩ := exists_rawTag written
  exact tag.next_selfClosing rest

theorem next_closing (name : QName) {gap : List Char} (gap_blank : IsSpacing gap)
    (rest : List Char) :
    Token.next '<' ('/' :: (name.chars ++ (gap ++ '>' :: rest))) =
      .ok (.closing (name.chars ++ gap), rest) := by
  have passes := (passes_name name).append (passes_of_isSpacing gap_blank)
  have cut := passes.cutTag?_eq rest
  rw [List.append_assoc] at cut
  simp only [Token.next, Token.readMarkup, cut, if_true]

theorem trimEnd_name (name : QName) {gap : List Char} (gap_blank : IsSpacing gap) :
    trimEnd (name.chars ++ gap) = name.chars := by
  have visible : ∀ char ∈ name.chars, isBlank char = false :=
    fun char member => isBlank_eq_false (name.not_mem_delimiters char member)
  have some : ¬ (name.chars ++ gap).all isBlank = true := by
    obtain ⟨first, rest, shape⟩ := name.exists_chars_eq_cons
    have seen := visible first (by simp [shape])
    simp [shape, seen]
  have spaced : ∀ char ∈ gap.reverse, isBlank char = true :=
    fun char member => isBlank_of_isSpacing gap_blank char (List.mem_reverse.mp member)
  have stopped : ∀ char ∈ name.chars.reverse.head?, isBlank char = false :=
    fun char head => visible char (List.mem_reverse.mp (List.mem_of_mem_head? head))
  rw [trimEnd, if_neg some, List.reverse_append, (Text.span_append spaced stopped).2,
    List.reverse_reverse]

end Grammar

end Markup

end SchemaScript
