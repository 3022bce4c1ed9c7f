import SchemaScript.Proofs.Markup.Assignments

/-!
# Tags as they stand

A tag stands in a text as its name and a row of items, each a key and a value
between quotes.  Such a tag need not make sense: a key may stand in it twice, a
label may be unknown, and a value is any text without the quotes around it.
Every written heading is such a tag.
-/

namespace SchemaScript

namespace Markup

namespace Grammar

/-- A key with a value as it stands between quotes, and the blanks around them. -/
structure RawItem where
  gap : List Char
  name : QName
  before : List Char
  after : List Char
  quote : Char
  value : List Char
  gap_blank : IsSpacing gap
  before_blank : IsSpacing before
  after_blank : IsSpacing after
  quotes : quote ∈ ['"', '\x27']
  value_free : quote ∉ value

def RawItem.chars (item : RawItem) : List Char :=
  item.gap ++ (item.name.chars ++ (item.before ++ '=' ::
    (item.after ++ item.quote :: (item.value ++ [item.quote]))))

/-- The name of a tag and its items; blanks set the first of them apart from the name. -/
structure RawTag where
  name : QName
  items : List RawItem
  gap : List Char
  gap_blank : IsSpacing gap
  set_apart : ∀ first ∈ items.head?, first.gap ≠ []

namespace RawTag

def row (tag : RawTag) : List Char :=
  tag.items.flatMap RawItem.chars

def chars (tag : RawTag) : List Char :=
  tag.name.chars ++ (tag.row ++ tag.gap)

theorem isBlank_of_mem_head? (tag : RawTag) :
    ∀ first ∈ (tag.row ++ tag.gap).head?, isBlank first = true := by
  obtain ⟨name, items, gap, gap_blank, set_apart⟩ := tag
  intro first head
  cases items with
  | nil => exact isBlank_of_isSpacing gap_blank first (List.mem_of_mem_head? head)
  | cons item items =>
      cases lead : item.gap with
      | nil => exact absurd lead (set_apart item rfl)
      | cons blank more =>
          have lead_blank := item.gap_blank
          simp only [row, List.flatMap_cons, RawItem.chars, lead] at head lead_blank
          cases head
          exact isBlank_of_isSpacing lead_blank first List.mem_cons_self

/-- The name of a tag ends at the first blank. -/
theorem span_chars (tag : RawTag) :
    Tag.nameOf tag.chars = tag.name.chars ∧
      tag.chars.dropWhile (!isBlank ·) = tag.row ++ tag.gap := by
  have inside : ∀ char ∈ tag.name.chars, (!isBlank char) = true := by
    intro char member
    simp [isBlank_eq_false (tag.name.not_mem_delimiters char member)]
  have stopped : ∀ char ∈ (tag.row ++ tag.gap).head?, (!isBlank char) = false := by
    intro char head
    simp [tag.isBlank_of_mem_head? char head]
  exact Text.span_append inside stopped

end RawTag

/--
One round of the reading takes in one item: it is refused if its key is among those seen
before, and otherwise becomes an assignment, with the text behind it left to be read.
-/
theorem readAll_rawItem (item : RawItem) (distinct : Bool) (seen : List Key) (offset : Nat)
    (rest : List Char) :
    ∃ start later,
      (∀ earlier, (seen.find? fun key => distinct && key.name = item.name.chars) = some earlier →
        Assignment.readAll distinct seen offset (item.chars ++ rest) =
          ⟨[], some (.repeatedKey start earlier.offset)⟩) ∧
      ((seen.find? fun key => distinct && key.name = item.name.chars) = none →
        let more := Assignment.readAll distinct (⟨start, item.name.chars⟩ :: seen) later rest
        Assignment.readAll distinct seen offset (item.chars ++ rest) =
          ⟨⟨⟨start, item.name.chars⟩, item.value⟩ :: more.assignments, more.fault⟩) := by
  obtain ⟨start, next, found⟩ := nextKey_eq_found item.name item.gap_blank item.before_blank
    offset (item.after ++ item.quote :: (item.value ++ item.quote :: rest))
  obtain ⟨later, read⟩ := nextValue_eq_ok item.after_blank item.quotes item.value_free next rest
  have shape : item.chars ++ rest = item.gap ++ (item.name.chars ++ (item.before ++ '=' ::
      (item.after ++ item.quote :: (item.value ++ item.quote :: rest)))) := by
    simp [RawItem.chars]
  rw [shape]
  exact ⟨start, later, fun _ repeated => readAll_of_repeated found repeated,
    fun fresh => readAll_of_found found fresh read⟩

theorem exists_rawItem {item : Item} {piece : List Char} (written : WritesItem item piece) :
    ∃ raw : RawItem, raw.chars = piece ∧ raw.gap ≠ [] := by
  obtain @⟨gap, before, after, content, quote, gap_blank, gap_some, before_blank, after_blank,
    quotes, filled⟩ := written
  exact ⟨⟨gap, item.name, before, after, quote, content, gap_blank, before_blank, after_blank,
    quotes, item.quote_not_mem quotes filled⟩, rfl, gap_some⟩

theorem exists_rawItems {items : List Item} {row : List Char}
    (written : Writes WritesItem items row) :
    ∃ raws : List RawItem, raws.flatMap RawItem.chars = row ∧
      ∀ first ∈ raws.head?, first.gap ≠ [] := by
  induction written with
  | nil => exact ⟨[], rfl, nofun⟩
  | cons part _ ih =>
      obtain ⟨raw, rfl, gap_some⟩ := exists_rawItem part
      obtain ⟨raws, rfl, -⟩ := ih
      refine ⟨raw :: raws, rfl, ?_⟩
      rintro first ⟨⟩
      exact gap_some

/-- A written heading stands in the text as a tag with the name of the heading. -/
theorem exists_rawTag {heading : Heading} {text : List Char}
    (written : WritesHeading heading text) :
    ∃ tag : RawTag, tag.chars = text ∧ tag.name = heading.name ∧
      Writes WritesItem heading.items tag.row := by
  obtain @⟨row, gap, items, gap_blank⟩ := written
  obtain ⟨raws, rfl, set_apart⟩ := exists_rawItems items
  exact ⟨⟨heading.name, raws, gap, gap_blank, set_apart⟩, rfl, rfl, items⟩

end Grammar

end Markup

end SchemaScript
