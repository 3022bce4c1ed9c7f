import SchemaScript.Proofs.Markup.Comparison
import SchemaScript.Proofs.Markup.Relabelling

/-!
# Texts read under other labels

A label says nothing but which namespace it stands for.  So a text and the same
text with its labels renamed are read as the same tree, except for the labels
in the names of attributes.  Two runs of the reader are compared: the scopes and
open tags of the one correspond to those of the other at every token.
-/

namespace SchemaScript

namespace Markup

/-- Attributes that differ at most in the labels of their names. -/
structure Attribute.SameButLabel (first second : Attribute) : Prop where
  localName : first.localName = second.localName
  value : first.value = second.value
  unlabelled : ∀ name : String, ':' ∉ name.toList → (first.name = name ↔ second.name = name)

structure Tag.SameButLabels (first second : Tag) : Prop where
  namespaceUri : first.namespaceUri = second.namespaceUri
  localName : first.localName = second.localName
  attributes : List.Forall₂ Attribute.SameButLabel first.attributes second.attributes

namespace Grammar

variable {rename : NCName → NCName} {known : Set NCName}

/-! ### Scopes -/

/-- Two scopes give every known label the same namespace, in the second one under its new name. -/
def Corresponds (rename : NCName → NCName) (known : Set NCName) (scope other : List Binding) :
    Prop :=
  ∀ label : Option NCName, (∀ name ∈ label, name ∈ known) →
    Namespace.lookup? scope (labelChars label) =
      Namespace.lookup? other (labelChars (label.map rename))

/-- The key of an item, and the same key under other labels. -/
inductive KeyRenamed (rename : NCName → NCName) (known : Set NCName) :
    List Char → List Char → Prop where
  | mk (key : QName) (keyKnown : ∀ label ∈ key.keyLabel?, label ∈ known) :
      KeyRenamed rename known key.chars (key.relabelKey rename).chars

def KeysRenamed (rename : NCName → NCName) (known : Set NCName) (keys others : List Key) : Prop :=
  List.Forall₂ (fun key other => KeyRenamed rename known key.name other.name) keys others

structure AssignmentRenamed (rename : NCName → NCName) (known : Set NCName)
    (assignment other : Assignment) : Prop where
  key : KeyRenamed rename known assignment.key.name other.key.name
  value : assignment.value = other.value

theorem target?_eq_none_iff {key : QName} :
    Namespace.target? key.chars = none ↔ key ≠ ⟨none, .xmlns⟩ ∧ key.label ≠ some .xmlns := by
  refine ⟨fun plain => ⟨?_, fun declares => ?_⟩, fun plain => target?_eq_none key plain.1 plain.2⟩
  · rintro rfl
    rw [target?_default] at plain
    cases plain
  · obtain ⟨label, inner⟩ := key
    cases declares
    rw [target?_labelled] at plain
    cases plain

section Scopes

variable {scope other : List Binding} (faithful : Faithful rename known)

include faithful

theorem Corresponds.cons (corresponds : Corresponds rename known scope other)
    {declared : Option NCName} (declaredKnown : ∀ name ∈ declared, name ∈ known)
    (uri : List Char) :
    Corresponds rename known (⟨labelChars declared, uri⟩ :: scope)
      (⟨labelChars (declared.map rename), uri⟩ :: other) := by
  intro label labelKnown
  rw [lookup?_cons, lookup?_cons, corresponds label labelKnown]
  simp only [faithful.map_eq_map_iff labelKnown declaredKnown]

theorem corresponds_outermost :
    Corresponds rename known Namespace.outermost Namespace.outermost := by
  have memberXml : ∀ name ∈ some NCName.xml, name ∈ known := by
    rintro name ⟨⟩
    exact faithful.reserved_mem .xml (.inl rfl)
  have memberXmlns : ∀ name ∈ some NCName.xmlns, name ∈ known := by
    rintro name ⟨⟩
    exact faithful.reserved_mem .xmlns (.inr rfl)
  have none : Corresponds rename known [] [] := fun _ _ => rfl
  have both := (none.cons faithful memberXmlns Namespace.declarationUri).cons faithful memberXml
    Namespace.markupUri
  rw [Option.map_some, Option.map_some, faithful.reserved_kept .xml (.inl rfl),
    faithful.reserved_kept .xmlns (.inr rfl)] at both
  exact both

theorem permits_relabel {label : NCName} (member : label ∈ known) (uri : List Char) :
    Namespace.permits (rename label).chars uri = Namespace.permits label.chars uri := by
  have keeps (reserved : NCName) (stays : reserved.IsReserved) :
      (rename label).chars = reserved.chars ↔ label.chars = reserved.chars := by
    rw [NCName.chars_injective.eq_iff, NCName.chars_injective.eq_iff,
      faithful.eq_reserved_iff member stays]
  have xml : (rename label).chars = Namespace.markupLabel ↔ label.chars = Namespace.markupLabel :=
    keeps .xml (.inl rfl)
  have xmlns : (rename label).chars = Namespace.declarationLabel ↔
      label.chars = Namespace.declarationLabel := keeps .xmlns (.inr rfl)
  simp only [Namespace.permits, ne_eq, xml, xmlns]

theorem isNone_target?_eq {key otherKey : List Char} (keys : KeyRenamed rename known key otherKey) :
    (Namespace.target? key).isNone = (Namespace.target? otherKey).isNone := by
  obtain ⟨key, keyKnown⟩ := keys
  have default : (⟨none, .xmlns⟩ : QName).relabelKey rename = ⟨none, .xmlns⟩ := rfl
  have plain : key.relabelKey rename = ⟨none, .xmlns⟩ ↔ key = ⟨none, .xmlns⟩ := by
    have unlabelled : ∀ label ∈ (⟨none, .xmlns⟩ : QName).keyLabel?, label ∈ known := nofun
    have apart := faithful.relabelKey_eq_iff keyKnown unlabelled
    rwa [default] at apart
  rw [Bool.eq_iff_iff, Option.isNone_iff_eq_none, Option.isNone_iff_eq_none, target?_eq_none_iff,
    target?_eq_none_iff, ne_eq, ne_eq, ne_eq, ne_eq, plain,
    faithful.label_relabelKey_eq_iff keyKnown]

theorem Corresponds.declare (corresponds : Corresponds rename known scope other)
    {assignment otherAssignment : Assignment}
    (renamed : AssignmentRenamed rename known assignment otherAssignment) :
    Together (Corresponds rename known) (Namespace.declare scope assignment)
      (Namespace.declare other otherAssignment) := by
  obtain ⟨⟨offset, chars⟩, value⟩ := assignment
  obtain ⟨⟨otherOffset, otherChars⟩, otherValue⟩ := otherAssignment
  obtain ⟨keys, values⟩ := renamed
  dsimp only at keys values
  subst values
  have plain := isNone_target?_eq faithful keys
  obtain ⟨⟨label, inner⟩, keyKnown⟩ := keys
  by_cases labelled : label = some .xmlns
  · subst labelled
    have innerKnown : ∀ name ∈ some inner, name ∈ known := keyKnown
    simp only [Namespace.declare, QName.relabelKey, if_true, target?_labelled,
      permits_relabel faithful (innerKnown inner rfl)]
    split
    · exact .succeeded (corresponds.cons faithful innerKnown value)
    · exact .failed _ _
  · by_cases default : QName.mk label inner = ⟨none, .xmlns⟩
    · cases default
      have unlabelled : ∀ name ∈ (none : Option NCName), name ∈ known := by simp
      exact .succeeded (corresponds.cons faithful unlabelled value)
    · have declaresNone := target?_eq_none _ default labelled
      rw [declaresNone, Option.isNone_none, eq_comm, Option.isNone_iff_eq_none] at plain
      simp only [Namespace.declare, declaresNone, plain]
      exact .succeeded corresponds

end Scopes

theorem Corresponds.ofName?_eq {scope other : List Binding}
    (corresponds : Corresponds rename known scope other) {name : QName}
    (nameKnown : ∀ label ∈ name.label, label ∈ known) :
    Namespace.ofName? scope name.chars = Namespace.ofName? other (name.relabel rename).chars := by
  rw [ofName?_chars, ofName?_chars, corresponds name.label nameKnown]
  rfl

/-! ### Attributes -/

theorem colon_mem_chars {name : QName} {label : NCName} (labelled : name.label = some label) :
    ':' ∈ name.chars := by
  simp [QName.chars, labelled]

/-- A key that declares nothing gives the same attribute, but for its label. -/
theorem together_toAttribute {assignment other : Assignment}
    (renamed : AssignmentRenamed rename known assignment other)
    (plain : (Namespace.target? assignment.key.name).isNone = true) :
    Together Attribute.SameButLabel assignment.toAttribute other.toAttribute := by
  obtain ⟨⟨offset, chars⟩, value⟩ := assignment
  obtain ⟨⟨otherOffset, otherChars⟩, otherValue⟩ := other
  obtain ⟨keys, values⟩ := renamed
  dsimp only at keys values plain
  subst values
  obtain ⟨key, keyKnown⟩ := keys
  have unreserved := (target?_eq_none_iff.mp (Option.isNone_iff_eq_none.mp plain)).2
  have same : key.relabelKey rename = key.relabel rename := if_neg unreserved
  rw [same]
  have values : Together Eq (Reference.expand 0 value) (Reference.expand 0 value) := by
    cases Reference.expand 0 value with
    | error fault => exact .failed fault fault
    | ok expanded => exact .succeeded rfl
  refine values.bind fun expanded _ equal => .succeeded ⟨?_, by rw [equal], ?_⟩
  · dsimp only
    rw [key.localPart_chars, QName.localPart_chars]
    rfl
  · intro name unlabelled
    dsimp only
    cases labelled : key.label with
    | none => simp [QName.relabel, QName.chars, labelled]
    | some label =>
        have inside := colon_mem_chars labelled
        have labelledToo : (key.relabel rename).label = some (rename label) := by
          simp [QName.relabel, labelled]
        have insideToo := colon_mem_chars labelledToo
        constructor
        · rintro rfl
          exact absurd inside (by simpa using unlabelled)
        · rintro rfl
          exact absurd insideToo (by simpa using unlabelled)

/-! ### Tags -/

section Rows

variable (faithful : Faithful rename known) {distinct : Bool} {seen others : List Key}

include faithful

/-- A key is found among earlier ones exactly if it is under other labels. -/
theorem isSome_find?_eq (distinct : Bool)
    (earlier : KeysRenamed rename known seen others) {key otherKey : List Char}
    (keys : KeyRenamed rename known key otherKey) :
    (seen.find? fun earlier => distinct && earlier.name = key).isSome =
      (others.find? fun earlier => distinct && earlier.name = otherKey).isSome := by
  induction earlier with
  | nil => rfl
  | @cons first other seen others head _ ih =>
      have same : (first.name = key) = (other.name = otherKey) := by
        obtain ⟨offset, chars⟩ := first
        obtain ⟨otherOffset, otherChars⟩ := other
        obtain ⟨key, keyKnown⟩ := keys
        dsimp only at head ⊢
        obtain ⟨first, firstKnown⟩ := head
        rw [QName.chars_injective.eq_iff, QName.chars_injective.eq_iff,
          faithful.relabelKey_eq_iff firstKnown keyKnown]
      simp only [List.find?_cons, same]
      split
      · rfl
      · exact ih

theorem readAll_relabel {items : List RawItem}
    (itemsKnown : ∀ item ∈ items, ∀ label ∈ item.name.keyLabel?, label ∈ known)
    {gap : List Char} (gap_blank : IsSpacing gap) (offset otherOffset : Nat)
    (earlier : KeysRenamed rename known seen others) :
    let row := Assignment.readAll distinct seen offset (items.flatMap RawItem.chars ++ gap)
    let other := Assignment.readAll distinct others otherOffset
      ((items.map (RawItem.relabel rename)).flatMap RawItem.chars ++ gap)
    List.Forall₂ (AssignmentRenamed rename known) row.assignments other.assignments ∧
      row.fault.isSome = other.fault.isSome := by
  induction items generalizing seen others offset otherOffset with
  | nil =>
      have finished := nextKey_eq_finished gap_blank
      simp only [List.map_nil, List.flatMap_nil, List.nil_append,
        readAll_of_finished (finished _)]
      exact ⟨.nil, trivial⟩
  | cons item items ih =>
      have keys : KeyRenamed rename known item.name.chars (item.name.relabelKey rename).chars :=
        .mk item.name (itemsKnown item List.mem_cons_self)
      obtain ⟨start, next, refused, taken⟩ := readAll_rawItem item distinct seen offset
        (items.flatMap RawItem.chars ++ gap)
      obtain ⟨otherStart, otherNext, otherRefused, otherTaken⟩ :=
        readAll_rawItem (item.relabel rename) distinct others otherOffset
          ((items.map (RawItem.relabel rename)).flatMap RawItem.chars ++ gap)
      rw [List.map_cons, List.flatMap_cons, List.flatMap_cons, List.append_assoc, List.append_assoc]
      have repeats := isSome_find?_eq faithful distinct earlier keys
      rcases none_or_some_of_isSome_eq repeats with
        ⟨fresh, otherFresh⟩ | ⟨first, otherFirst, repeated, otherRepeated⟩
      · have earlierHere : KeysRenamed rename known (⟨start, item.name.chars⟩ :: seen)
            (⟨otherStart, (item.name.relabelKey rename).chars⟩ :: others) := .cons keys earlier
        obtain ⟨rest, faults⟩ := ih
          (fun item member => itemsKnown item (List.mem_cons_of_mem _ member)) next otherNext
          earlierHere
        rw [taken fresh, otherTaken otherFresh]
        exact ⟨.cons ⟨keys, rfl⟩ rest, faults⟩
      · rw [refused first repeated, otherRefused otherFirst otherRepeated]
        exact ⟨.nil, rfl⟩

end Rows

section Tags

variable (faithful : Faithful rename known) {tag : RawTag}
  (tagKnown : ∀ label ∈ tag.labels, label ∈ known)

theorem RawTag.name_known (tag : RawTag) (tagKnown : ∀ label ∈ tag.labels, label ∈ known) :
    ∀ label ∈ tag.name.label, label ∈ known := by
  intro label member
  exact tagKnown label (List.mem_append_left _ (Option.mem_toList.mpr member))

theorem RawTag.items_known (tag : RawTag) (tagKnown : ∀ label ∈ tag.labels, label ∈ known) :
    ∀ item ∈ tag.items, ∀ label ∈ item.name.keyLabel?, label ∈ known := by
  intro item member label used
  exact tagKnown label (List.mem_append_right _ (List.mem_filterMap.mpr ⟨item, member, used⟩))

include faithful tagKnown

theorem assignments_relabel (distinct : Bool) :
    List.Forall₂ (AssignmentRenamed rename known) (Tag.assignments distinct tag.chars).assignments
        (Tag.assignments distinct (tag.relabel rename).chars).assignments ∧
      (Tag.assignments distinct tag.chars).fault.isSome =
        (Tag.assignments distinct (tag.relabel rename).chars).fault.isSome := by
  rw [Tag.assignments, Tag.assignments, tag.span_chars.2, (tag.relabel rename).span_chars.2]
  exact readAll_relabel faithful (tag.items_known tagKnown) tag.gap_blank _ _ .nil

theorem together_readAttributes :
    Together (List.Forall₂ Attribute.SameButLabel) (Tag.readAttributes tag.chars)
      (Tag.readAttributes (tag.relabel rename).chars) := by
  obtain ⟨each, faults⟩ := assignments_relabel faithful tagKnown true
  have plain := forall₂_filter each fun _ _ renamed => isNone_target?_eq faithful renamed.key
  have expanded := Together.mapM plain fun _ _ renamed =>
    (together_toAttribute renamed.2 renamed.1).mapError Error.reference
  refine expanded.bind fun attributes others same => ?_
  rcases none_or_some_of_isSome_eq faults with ⟨first, second⟩ | ⟨fault, otherFault, first, second⟩
  · rw [first, second]
    exact .succeeded same
  · rw [first, second]
    exact .failed _ _

/-- A tag under other labels is read as the same tag, and the scopes inside it correspond. -/
theorem together_read {scope other : List Binding}
    (corresponds : Corresponds rename known scope other) :
    Together
      (fun result otherResult => Tag.SameButLabels result.1 otherResult.1 ∧
        Corresponds rename known result.2 otherResult.2)
      (Tag.read scope tag.chars) (Tag.read other (tag.relabel rename).chars) := by
  have entered : Together (Corresponds rename known)
      (Namespace.enter scope (Tag.assignments false tag.chars).assignments)
      (Namespace.enter other (Tag.assignments false (tag.relabel rename).chars).assignments) :=
    Together.foldlM (assignments_relabel faithful tagKnown false).1
      (fun _ _ _ _ corresponds renamed => corresponds.declare faithful renamed) corresponds
  refine (entered.mapError Error.reserved).bind fun inner otherInner inside => ?_
  refine (together_readAttributes faithful tagKnown).bind fun attributes others same => ?_
  refine .succeeded ⟨⟨?_, ?_, same⟩, inside⟩
  · dsimp only
    rw [tag.span_chars.1, (tag.relabel rename).span_chars.1,
      inside.ofName?_eq (tag.name_known tagKnown)]
    rfl
  · dsimp only
    rw [tag.span_chars.1, (tag.relabel rename).span_chars.1, QName.localPart_chars,
      QName.localPart_chars]
    rfl

end Tags

/-! ### Documents -/

/-- An open tag, and the same tag under other labels. -/
inductive HeldAlike (rename : NCName → NCName) (known : Set NCName) : OpenTag → OpenTag → Prop where
  | mk (name : QName) (nameKnown : ∀ label ∈ name.label, label ∈ known) {scope other : List Binding}
      (corresponds : Corresponds rename known scope other) :
      HeldAlike rename known ⟨name.chars, scope⟩ ⟨(name.relabel rename).chars, other⟩

/-- The same came of two tokens, and the tags that are open behind them correspond. -/
def TakenAlike (rename : NCName → NCName) (known : Set NCName)
    (taken other : Option Event × List OpenTag) : Prop :=
  Option.Rel (Event.Related Tag.SameButLabels) taken.1 other.1 ∧
    List.Forall₂ (HeldAlike rename known) taken.2 other.2

section Tokens

variable (faithful : Faithful rename known) {openTags others : List OpenTag}
  (held : List.Forall₂ (HeldAlike rename known) openTags others)

include faithful held

theorem corresponds_scopeIn :
    Corresponds rename known (Event.scopeIn openTags) (Event.scopeIn others) := by
  cases held with
  | nil => exact corresponds_outermost faithful
  | cons innermost _ =>
      obtain ⟨name, -, corresponds⟩ := innermost
      exact corresponds

theorem together_takeToken_opening {tag : RawTag} (tagKnown : ∀ label ∈ tag.labels, label ∈ known) :
    Together (TakenAlike rename known) (Event.takeToken openTags (.opening tag.chars))
      (Event.takeToken others (.opening (tag.relabel rename).chars)) := by
  refine Together.mapError ?_ _
  refine (together_read faithful tagKnown (corresponds_scopeIn faithful held)).bind ?_
  rintro ⟨tag', inner⟩ ⟨otherTag, otherInner⟩ ⟨same, inside⟩
  refine .succeeded ⟨.some (.opened same), ?_⟩
  dsimp only
  rw [tag.span_chars.1, (tag.relabel rename).span_chars.1]
  exact .cons (.mk tag.name (tag.name_known tagKnown) inside) held

theorem together_takeToken_selfClosing {tag : RawTag}
    (tagKnown : ∀ label ∈ tag.labels, label ∈ known) :
    Together (TakenAlike rename known) (Event.takeToken openTags (.selfClosing tag.chars))
      (Event.takeToken others (.selfClosing (tag.relabel rename).chars)) := by
  refine Together.mapError ?_ _
  refine (together_read faithful tagKnown (corresponds_scopeIn faithful held)).bind ?_
  rintro ⟨tag', inner⟩ ⟨otherTag, otherInner⟩ ⟨same, -⟩
  exact .succeeded ⟨.some (.completed same), held⟩

theorem together_takeToken_closing {name : QName} (nameKnown : ∀ label ∈ name.label, label ∈ known)
    {gap : List Char} (gap_blank : IsSpacing gap) :
    Together (TakenAlike rename known) (Event.takeToken openTags (.closing (name.chars ++ gap)))
      (Event.takeToken others (.closing ((name.relabel rename).chars ++ gap))) := by
  refine Together.mapError ?_ _
  simp only [Event.ofToken, trimEnd_name _ gap_blank]
  cases held with
  | nil => exact .failed _ _
  | cons innermost outer =>
      obtain ⟨expected, expectedKnown, -⟩ := innermost
      have apart := faithful.relabel_eq_iff nameKnown expectedKnown
      simp only [QName.chars_injective.eq_iff, apart]
      split
      · exact .succeeded ⟨.some .closed, outer⟩
      · exact .failed _ _

omit faithful in
theorem together_takeToken_documentType (content : List Char) :
    Together (TakenAlike rename known) (Event.takeToken openTags (.documentType content))
      (Event.takeToken others (.documentType content)) := by
  refine Together.mapError ?_ _
  simp only [Event.ofToken]
  split
  · exact .failed _ _
  · exact .succeeded ⟨.none, held⟩

end Tokens

theorem related_follow {taken other : Except Error (Option Event × List OpenTag)}
    (same : Together (TakenAlike rename known) taken other)
    {later otherLater : List OpenTag → Event.Sequence}
    (goOn : ∀ openTags others, List.Forall₂ (HeldAlike rename known) openTags others →
      (later openTags).Related Tag.SameButLabels (otherLater others)) :
    (Event.follow taken later).Related Tag.SameButLabels (Event.follow other otherLater) := by
  cases same with
  | failed cause otherCause => exact ⟨.nil, rfl⟩
  | @succeeded first second results =>
      obtain ⟨event, openTags⟩ := first
      obtain ⟨otherEvent, others⟩ := second
      obtain ⟨events, held⟩ := results
      have rest := goOn _ _ held
      refine ⟨List.rel_append ?_ rest.events, rest.error⟩
      cases events with
      | none => exact .nil
      | some same => exact .cons same .nil

section Texts

variable (faithful : Faithful rename known) {openTags others : List OpenTag}
  (held : List.Forall₂ (HeldAlike rename known) openTags others)

theorem related_readInside_of_next {text otherText rest otherRest : List Char}
    {token otherToken : Token} (read : Token.next '<' text = .ok (token, rest))
    (otherRead : Token.next '<' otherText = .ok (otherToken, otherRest))
    (taken : Together (TakenAlike rename known) (Event.takeToken openTags token)
      (Event.takeToken others otherToken))
    (goOn : ∀ openTags others, List.Forall₂ (HeldAlike rename known) openTags others →
      (Event.readInside openTags rest).Related Tag.SameButLabels
        (Event.readInside others otherRest)) :
    (Event.readInside openTags ('<' :: text)).Related Tag.SameButLabels
      (Event.readInside others ('<' :: otherText)) := by
  rw [Event.readInside_of_next openTags read, Event.readInside_of_next others otherRead]
  exact related_follow taken goOn

include faithful held

/-- A piece is read under other labels in the same way, if that holds of the text behind it. -/
theorem related_readInside_piece {piece : Piece}
    (pieceKnown : ∀ label ∈ piece.labels, label ∈ known)
    {rest otherRest : List Char}
    (goOn : ∀ openTags others, List.Forall₂ (HeldAlike rename known) openTags others →
      (Event.readInside openTags rest).Related Tag.SameButLabels
        (Event.readInside others otherRest)) :
    (Event.readInside openTags (piece.chars ++ rest)).Related Tag.SameButLabels
      (Event.readInside others ((piece.relabel rename).chars ++ otherRest)) := by
  cases piece with
  | aside text says_nothing =>
      simp only [Piece.relabel, Piece.chars, Event.readInside_aside says_nothing]
      exact goOn _ _ held
  | documentType content named balanced =>
      have read := Token.next_documentType named balanced
      simp only [Piece.relabel, Piece.chars, List.cons_append, List.append_assoc, List.nil_append]
      exact related_readInside_of_next (read _) (read _)
        (together_takeToken_documentType held content) goOn
  | opening tag =>
      simp only [Piece.relabel, Piece.chars, List.cons_append, List.append_assoc, List.nil_append]
      exact related_readInside_of_next (tag.next_opening _) ((tag.relabel rename).next_opening _)
        (together_takeToken_opening faithful held pieceKnown) goOn
  | selfClosing tag =>
      simp only [Piece.relabel, Piece.chars, List.cons_append, List.append_assoc, List.nil_append]
      exact related_readInside_of_next (tag.next_selfClosing _)
        ((tag.relabel rename).next_selfClosing _)
        (together_takeToken_selfClosing faithful held pieceKnown) goOn
  | closing name gap gap_blank =>
      have nameKnown : ∀ label ∈ name.label, label ∈ known :=
        fun label member => pieceKnown label (Option.mem_toList.mpr member)
      simp only [Piece.relabel, Piece.chars, List.cons_append, List.append_assoc, List.nil_append]
      exact related_readInside_of_next (next_closing name gap_blank _)
        (next_closing (name.relabel rename) gap_blank _)
        (together_takeToken_closing faithful held nameKnown gap_blank) goOn

theorem related_readInside {pieces : List Piece}
    (piecesKnown : ∀ label ∈ labelsOf pieces, label ∈ known) :
    (Event.readInside openTags (textOf pieces)).Related Tag.SameButLabels
      (Event.readInside others (textOf (pieces.map (Piece.relabel rename)))) := by
  induction pieces generalizing openTags others with
  | nil =>
      have ended (openTags : List OpenTag) : Event.readInside openTags [] = ⟨[], none⟩ := by
        simp [Event.readInside, eventsFrom, Token.scan, Event.ofTokens, Event.Sequence.placeless]
      simp only [textOf, List.map_nil, List.flatMap_nil, ended]
      exact ⟨.nil, rfl⟩
  | cons piece pieces ih =>
      rw [labelsOf, List.flatMap_cons] at piecesKnown
      refine related_readInside_piece faithful held
        (fun label member => piecesKnown label (List.mem_append_left _ member)) ?_
      intro openTags others held
      exact ih held fun label member => piecesKnown label (List.mem_append_right _ member)

end Texts

/--
A text and the same text under other labels are both read, and as the same tree but for the
labels, or none of them is read.
-/
theorem together_parse (faithful : Faithful rename known) {pieces : List Piece}
    (piecesKnown : ∀ label ∈ labelsOf pieces, label ∈ known) :
    Together
      (fun document other => document.root.Related Tag.SameButLabels other.root)
      (Document.parse (String.ofList (textOf pieces)))
      (Document.parse (String.ofList (textOf (pieces.map (Piece.relabel rename))))) := by
  have same := related_readInside faithful .nil piecesKnown
  rw [← Event.placeless_ofText, ← Event.placeless_ofText] at same
  have sequences : (Event.ofText (textOf pieces)).Related Tag.SameButLabels
      (Event.ofText (textOf (pieces.map (Piece.relabel rename)))) :=
    ⟨same.events, by simpa [Event.Sequence.placeless] using same.error⟩
  rw [Document.parse, Document.parse, String.toList_ofList, String.toList_ofList]
  exact Document.together_ofEvents sequences

end Grammar

end Markup

end SchemaScript
