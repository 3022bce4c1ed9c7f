import SchemaScript.Proofs.Markup.Value

/-!
# Items read back

The items of a written heading are read as the assignments that they were
written as, in the same order and without a fault, whatever blanks and quotes
surround them.
-/

namespace SchemaScript

namespace Markup

namespace Grammar

/-- The characters of markup that no name holds. -/
def delimiters : List Char :=
  ['!', '?', '/', '=', '<', '>', '&', '"', '\x27', ' ', '\t', '\n', '\r']

section Spacing

variable {text : List Char}

theorem isBlank_of_isSpacing (spacing : IsSpacing text) : ∀ char ∈ text, isBlank char = true := by
  have table : ∀ char ∈ [' ', '\t', '\n', '\r'], isBlank char = true := by simp [isBlank]
  intro char member
  exact table char (spacing char member)

theorem dropWhile_isBlank_append (spacing : IsSpacing text) (rest : List Char) :
    (text ++ rest).dropWhile isBlank = rest.dropWhile isBlank :=
  List.dropWhile_append_of_pos (isBlank_of_isSpacing spacing)

theorem isBlank_eq_false {char : Char} (visible : char ∉ delimiters) : isBlank char = false := by
  simp only [delimiters, List.mem_cons, not_or] at visible
  simp [isBlank, visible]

end Spacing

namespace NCName

theorem not_mem_delimiters (name : NCName) : ∀ char ∈ name.chars, char ∉ ':' :: delimiters := by
  have table : (':' :: delimiters).all (fun char => !Text.inRuns innerRuns char) = true := by
    decide
  have within : ∀ char ∈ name.chars, Text.inRuns innerRuns char = true := by
    intro char member
    rcases List.mem_cons.mp member with rfl | member
    · have starts := name.starts
      simp only [Text.inRuns, innerRuns, List.any_append, Bool.or_eq_true] at starts ⊢
      exact Or.inl starts
    · exact List.all_eq_true.mp name.continues char member
  intro char member special
  have outside := List.all_eq_true.mp table char special
  simp [within char member] at outside

theorem colon_not_mem (name : NCName) : ':' ∉ name.chars :=
  fun member => name.not_mem_delimiters ':' member List.mem_cons_self

theorem chars_injective : Function.Injective chars := by
  intro first second same
  cases first
  cases second
  cases same
  rfl

end NCName

namespace QName

theorem not_mem_delimiters (name : QName) : ∀ char ∈ name.chars, char ∉ delimiters := by
  have apart (part : NCName) : ∀ char ∈ part.chars, char ∉ delimiters :=
    fun char member listed =>
      part.not_mem_delimiters char member (List.mem_cons_of_mem _ listed)
  obtain ⟨label, inner⟩ := name
  cases label with
  | none => exact apart inner
  | some label =>
      intro char member
      rcases List.mem_append.mp member with member | member
      · exact apart label char member
      rcases List.mem_cons.mp member with rfl | member
      · decide
      · exact apart inner char member

theorem label?_chars (name : QName) : Name.label? name.chars = name.label.map NCName.chars := by
  obtain ⟨label, inner⟩ := name
  cases label with
  | none => exact Name.label?_of_not_mem inner.colon_not_mem
  | some label => exact Name.label?_append label.colon_not_mem _

theorem localPart_chars (name : QName) : Name.localPart name.chars = name.localPart.chars := by
  obtain ⟨label, inner⟩ := name
  cases label with
  | none => exact Name.localPart_of_not_mem inner.colon_not_mem
  | some label => exact Name.localPart_append label.colon_not_mem _

theorem chars_injective : Function.Injective chars := by
  intro first second same
  have labels := first.label?_chars
  have inners := first.localPart_chars
  rw [same, label?_chars] at labels
  rw [same, localPart_chars] at inners
  obtain ⟨label, inner⟩ := first
  cases Option.map_injective NCName.chars_injective labels
  cases NCName.chars_injective inners
  rfl

theorem exists_chars_eq_cons (name : QName) : ∃ first rest, name.chars = first :: rest := by
  obtain ⟨label, inner⟩ := name
  cases label with
  | none => exact ⟨_, _, rfl⟩
  | some label => exact ⟨_, _, rfl⟩

end QName

theorem Declaration.label_eq_of_name_eq {first second : Declaration}
    (same : first.name = second.name) : first.label = second.label := by
  unfold Declaration.name at same
  split at same <;> split at same <;> simp_all

theorem Declaration.name_ne_setting (declaration : Declaration) (setting : Setting) :
    declaration.name ≠ setting.name := by
  intro same
  have free := setting.name_free
  rw [← same] at free
  unfold Declaration.name at free
  split at free
  · exact free.1 rfl
  · exact free.2 rfl

/-- The items of a heading differ in their names, declarations and attributes together. -/
theorem Heading.pairwise_name_ne (heading : Heading) :
    heading.items.Pairwise fun earlier later => earlier.name ≠ later.name := by
  have declared := List.pairwise_filterMap.mp heading.declared_once
  have placed := List.pairwise_filterMap.mp heading.set_once
  refine (declared.and placed).imp ?_
  rintro (earlier | earlier) (later | later) ⟨labels, names⟩ same
  · exact labels earlier rfl later rfl (Declaration.label_eq_of_name_eq same)
  · exact earlier.name_ne_setting later same
  · exact later.name_ne_setting earlier same.symm
  · exact names earlier rfl later rfl same

section Reading

variable {item : Item} {quote : Char} {content : List Char}

theorem Item.quote_not_mem (quotes : quote ∈ ['"', '\x27'])
    (filled : item.WritesContent quote content) : quote ∉ content := by
  cases item with
  | declaration declared =>
      cases filled
      intro member
      have raw := declared.uri_raw quote member
      simp_all
  | setting placed => exact quote_not_mem_value quotes filled

/-- The name of an item and the `=` after it are found, whatever blanks are around them. -/
theorem nextKey_eq_found (name : QName) {gap before : List Char} (gap_blank : IsSpacing gap)
    (before_blank : IsSpacing before) (offset : Nat) (rest : List Char) :
    ∃ start next, Assignment.nextKey offset
      (gap ++ (name.chars ++ (before ++ '=' :: rest))) =
        .found ⟨start, name.chars⟩ next rest := by
  obtain ⟨first, more, shape⟩ := name.exists_chars_eq_cons
  have apart := name.not_mem_delimiters
  rw [shape] at apart ⊢
  have visible : isBlank first = false := isBlank_eq_false (apart first List.mem_cons_self)
  have inside : ∀ char ∈ more, Assignment.continuesKey char = true := by
    intro char member
    have free := apart char (List.mem_cons_of_mem _ member)
    have other : char ≠ '=' := by
      rintro rfl
      exact free (by decide)
    simp [Assignment.continuesKey, isBlank_eq_false free, other]
  have stopped : ∀ char ∈ (before ++ '=' :: rest).head?,
      Assignment.continuesKey char = false := by
    intro char head
    cases before with
    | nil =>
        cases head
        rfl
    | cons blank before =>
        cases head
        simp [Assignment.continuesKey, isBlank_of_isSpacing before_blank char]
  have trimmed : (gap ++ (first :: more ++ (before ++ '=' :: rest))).dropWhile isBlank =
      first :: (more ++ (before ++ '=' :: rest)) := by
    rw [dropWhile_isBlank_append gap_blank]
    simp [visible]
  have ended : (before ++ '=' :: rest).dropWhile isBlank = '=' :: rest := by
    rw [dropWhile_isBlank_append before_blank]
    rfl
  obtain ⟨taken, left⟩ := Text.span_append inside stopped
  simp only [Assignment.nextKey, trimmed, taken, left, ended]
  exact ⟨_, _, rfl⟩

theorem nextKey_eq_finished {gap : List Char} (gap_blank : IsSpacing gap) (offset : Nat) :
    Assignment.nextKey offset gap = .finished := by
  have empty := dropWhile_isBlank_append gap_blank []
  rw [List.append_nil] at empty
  simp only [Assignment.nextKey, empty]
  rfl

theorem nextValue_eq_ok {after : List Char} (after_blank : IsSpacing after)
    (quotes : quote ∈ ['"', '\x27']) (free : quote ∉ content) (offset : Nat)
    (rest : List Char) :
    ∃ next, Assignment.nextValue offset (after ++ quote :: (content ++ quote :: rest)) =
      .ok (content, next, rest) := by
  have table : ∀ quote ∈ ['"', '\x27'], isBlank quote = false ∧ Token.isQuote quote = true := by
    simp [isBlank, Token.isQuote]
  obtain ⟨visible, quoted⟩ := table quote quotes
  have trimmed : (after ++ quote :: (content ++ quote :: rest)).dropWhile isBlank =
      quote :: (content ++ quote :: rest) := by
    rw [dropWhile_isBlank_append after_blank]
    simp [visible]
  simp only [Assignment.nextValue, trimmed, quoted, if_true,
    Text.cut?_append_of_not_mem free]
  exact ⟨_, rfl⟩

end Reading

/-- An assignment holds the name of an item and one of its written values. -/
def Transcribes (item : Item) (assignment : Assignment) : Prop :=
  assignment.key.name = item.name.chars ∧
    ∃ quote ∈ ['"', '\x27'], item.WritesContent quote assignment.value

section Rows

variable {distinct : Bool} {seen : List Key} {offset : Nat} {text : List Char}

theorem readAll_of_finished (found : Assignment.nextKey offset text = .finished) :
    Assignment.readAll distinct seen offset text = ⟨[], none⟩ := by
  rw [Assignment.readAll.eq_def]
  split <;> simp_all

theorem readAll_of_found {key : Key} {next later : Nat} {rest value remaining : List Char}
    (found : Assignment.nextKey offset text = .found key next rest)
    (fresh : (seen.find? fun earlier => distinct && earlier.name = key.name) = none)
    (read : Assignment.nextValue next rest = .ok (value, later, remaining)) :
    Assignment.readAll distinct seen offset text =
      ⟨⟨key, value⟩ :: (Assignment.readAll distinct (key :: seen) later remaining).assignments,
        (Assignment.readAll distinct (key :: seen) later remaining).fault⟩ := by
  rw [Assignment.readAll.eq_def]
  split
  · simp_all
  · simp_all
  · rename_i key next rest same
    rw [found] at same
    cases same
    rw [fresh]
    dsimp only
    split
    · simp_all
    · rename_i same
      rw [read] at same
      cases same
      rfl

theorem readAll_of_repeated {key earlier : Key} {next : Nat} {rest : List Char}
    (found : Assignment.nextKey offset text = .found key next rest)
    (repeated : (seen.find? fun earlier => distinct && earlier.name = key.name) = some earlier) :
    Assignment.readAll distinct seen offset text =
      ⟨[], some (.repeatedKey key.offset earlier.offset)⟩ := by
  rw [Assignment.readAll.eq_def]
  split
  · simp_all
  · simp_all
  · rename_i key next rest same
    rw [found] at same
    cases same
    rw [repeated]

/--
Each item takes one round of the reading.  The keys seen before stay apart from the names
still to come, so whether keys have to be distinct makes no difference.
-/
theorem readAll_of_writes {items : List Item} {row gap : List Char}
    (written : Writes WritesItem items row) (gap_blank : IsSpacing gap)
    (apart : items.Pairwise fun earlier later => earlier.name ≠ later.name) (offset : Nat)
    (unseen : ∀ earlier ∈ seen, ∀ item ∈ items, earlier.name ≠ item.name.chars) :
    ∃ assignments, Assignment.readAll distinct seen offset (row ++ gap) = ⟨assignments, none⟩ ∧
      List.Forall₂ Transcribes items assignments := by
  induction written generalizing seen offset with
  | nil => exact ⟨[], readAll_of_finished (nextKey_eq_finished gap_blank offset), .nil⟩
  | @cons item items piece row part _ ih =>
      rw [List.pairwise_cons] at apart
      obtain @⟨lead, before, after, content, quote, lead_blank, -, before_blank, after_blank,
        quotes, filled⟩ := part
      obtain ⟨start, next, found⟩ := nextKey_eq_found item.name lead_blank before_blank offset
        (after ++ quote :: (content ++ quote :: (row ++ gap)))
      obtain ⟨later, read⟩ := nextValue_eq_ok after_blank quotes (item.quote_not_mem quotes filled)
        next (row ++ gap)
      have fresh : (seen.find? fun earlier => distinct && earlier.name = item.name.chars) =
          none := by
        rw [List.find?_eq_none]
        intro earlier member
        simp [unseen earlier member item List.mem_cons_self]
      have unseenLater : ∀ earlier ∈ (⟨start, item.name.chars⟩ : Key) :: seen,
          ∀ other ∈ items, earlier.name ≠ other.name.chars := by
        intro earlier member other among
        rcases List.mem_cons.mp member with rfl | member
        · exact fun same => apart.1 other among (QName.chars_injective same)
        · exact unseen earlier member other (List.mem_cons_of_mem _ among)
      obtain ⟨assignments, rest, each⟩ := ih apart.2 later unseenLater
      refine ⟨⟨⟨start, item.name.chars⟩, content⟩ :: assignments, ?_,
        .cons ⟨rfl, quote, quotes, filled⟩ each⟩
      have step := readAll_of_found found fresh read
      rw [rest] at step
      simpa using step

end Rows

end Grammar

end Markup

end SchemaScript
