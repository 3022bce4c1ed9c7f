import Mathlib.Data.Set.Function
import SchemaScript.Proofs.Markup.Aside

/-!
# Other labels

The labels of a text can be renamed in the names of its tags, in the keys of
attributes and in the declarations of namespaces, all in the same way.  Names
and keys that differ go on to differ as long as the renaming keeps the labels
of the text apart, the reserved ones included.
-/

namespace SchemaScript

namespace Markup

namespace Grammar

/-! ### Renaming -/

namespace QName

def relabel (rename : NCName → NCName) (name : QName) : QName :=
  ⟨name.label.map rename, name.localPart⟩

/-- The key of an item under other labels: a declaration tells its label behind the colon. -/
def relabelKey (rename : NCName → NCName) (key : QName) : QName :=
  if key.label = some .xmlns then ⟨some .xmlns, rename key.localPart⟩ else key.relabel rename

/-- The label that the key of an item declares or uses. -/
def keyLabel? (key : QName) : Option NCName :=
  if key.label = some .xmlns then some key.localPart else key.label

end QName

def RawItem.relabel (rename : NCName → NCName) (item : RawItem) : RawItem :=
  { item with name := item.name.relabelKey rename }

namespace RawTag

def relabel (rename : NCName → NCName) (tag : RawTag) : RawTag where
  name := tag.name.relabel rename
  items := tag.items.map (RawItem.relabel rename)
  gap := tag.gap
  gap_blank := tag.gap_blank
  set_apart := by
    intro first head
    rw [List.head?_map, Option.mem_map] at head
    obtain ⟨item, head, rfl⟩ := head
    exact tag.set_apart item head

def labels (tag : RawTag) : List NCName :=
  tag.name.label.toList ++ tag.items.filterMap fun item => item.name.keyLabel?

end RawTag

/-- A part of a text that is written as tags, which need not be nested in the right way. -/
inductive Piece where
  | aside (text : List Char) (says_nothing : Event.IsAside text)
  | documentType (content : List Char) (named : Token.startsDocumentType content = true)
      (balanced : Token.cutBalanced? 0 (content ++ ['>']) = some (content, []))
  | opening (tag : RawTag)
  | selfClosing (tag : RawTag)
  | closing (name : QName) (gap : List Char) (gap_blank : IsSpacing gap)

namespace Piece

def chars : Piece → List Char
  | aside text _ => text
  | documentType content _ _ => '<' :: '!' :: (content ++ ['>'])
  | opening tag => '<' :: (tag.chars ++ ['>'])
  | selfClosing tag => '<' :: (tag.chars ++ ['/', '>'])
  | closing name gap _ => '<' :: '/' :: (name.chars ++ (gap ++ ['>']))

def relabel (rename : NCName → NCName) : Piece → Piece
  | opening tag => opening (tag.relabel rename)
  | selfClosing tag => selfClosing (tag.relabel rename)
  | closing name gap gap_blank => closing (name.relabel rename) gap gap_blank
  | aside text says_nothing => aside text says_nothing
  | documentType content named balanced => documentType content named balanced

def labels : Piece → List NCName
  | opening tag => tag.labels
  | selfClosing tag => tag.labels
  | closing name _ _ => name.label.toList
  | aside _ _ => []
  | documentType _ _ _ => []

end Piece

def textOf (pieces : List Piece) : List Char :=
  pieces.flatMap Piece.chars

def labelsOf (pieces : List Piece) : List NCName :=
  pieces.flatMap Piece.labels

/--
A renaming that tells known labels apart.  The reserved labels are among them and keep
their meaning.
-/
structure Faithful (rename : NCName → NCName) (known : Set NCName) : Prop where
  injective : Set.InjOn rename known
  reserved_mem : ∀ label, label.IsReserved → label ∈ known
  reserved_kept : ∀ label, label.IsReserved → rename label = label

/-- A renaming that keeps the labels of a text apart keeps the reserved ones apart from them. -/
theorem faithful_of_injOn {rename : NCName → NCName} {labels : List NCName}
    (kept : ∀ label, label.IsReserved → rename label = label)
    (injective : Set.InjOn rename {label | label ∈ labels})
    (unreserved : ∀ label ∈ labels, (rename label).IsReserved → label.IsReserved) :
    Faithful rename {label | label ∈ labels ∨ label.IsReserved} where
  reserved_mem := fun label reserved => .inr reserved
  reserved_kept := kept
  injective := by
    have settled {label reserved : NCName} (member : label ∈ labels) (stays : reserved.IsReserved)
        (same : rename label = reserved) : label = reserved :=
      (kept label (unreserved label member (same ▸ stays))).symm.trans same
    rintro first (firstUsed | firstReserved) second (secondUsed | secondReserved) same
    · exact injective firstUsed secondUsed same
    · exact settled firstUsed secondReserved (same.trans (kept second secondReserved))
    · exact (settled secondUsed firstReserved (same.symm.trans (kept first firstReserved))).symm
    · exact (kept first firstReserved).symm.trans (same.trans (kept second secondReserved))

variable {rename : NCName → NCName} {known : Set NCName}

namespace Faithful

variable (faithful : Faithful rename known)

include faithful

theorem eq_reserved_iff {label reserved : NCName} (member : label ∈ known)
    (stays : reserved.IsReserved) : rename label = reserved ↔ label = reserved := by
  have apart := faithful.injective.eq_iff member (faithful.reserved_mem reserved stays)
  rwa [faithful.reserved_kept reserved stays] at apart

theorem map_eq_map_iff {first second : Option NCName} (firstKnown : ∀ label ∈ first, label ∈ known)
    (secondKnown : ∀ label ∈ second, label ∈ known) :
    first.map rename = second.map rename ↔ first = second := by
  cases first with
  | none => cases second <;> simp
  | some first =>
      cases second with
      | none => simp
      | some second =>
          have apart := faithful.injective.eq_iff (firstKnown first rfl) (secondKnown second rfl)
          simpa using apart

theorem map_eq_xmlns_iff {label : Option NCName} (labelKnown : ∀ name ∈ label, name ∈ known) :
    label.map rename = some .xmlns ↔ label = some .xmlns := by
  cases label with
  | none => simp
  | some name => simpa using faithful.eq_reserved_iff (labelKnown name rfl) (.inr rfl)

theorem relabel_eq_iff {first second : QName} (firstKnown : ∀ label ∈ first.label, label ∈ known)
    (secondKnown : ∀ label ∈ second.label, label ∈ known) :
    first.relabel rename = second.relabel rename ↔ first = second := by
  obtain ⟨label, inner⟩ := first
  obtain ⟨otherLabel, other⟩ := second
  simp only [QName.relabel, QName.mk.injEq, faithful.map_eq_map_iff firstKnown secondKnown]

section Keys

variable {key other : QName} (keyKnown : ∀ label ∈ key.keyLabel?, label ∈ known)

include keyKnown

theorem label_relabelKey_eq_iff :
    (key.relabelKey rename).label = some .xmlns ↔ key.label = some .xmlns := by
  unfold QName.keyLabel? at keyKnown
  unfold QName.relabelKey
  split
  · rename_i declares
    simp [declares]
  · rename_i plain
    rw [if_neg plain] at keyKnown
    exact faithful.map_eq_xmlns_iff keyKnown

theorem relabelKey_eq_iff (otherKnown : ∀ label ∈ other.keyLabel?, label ∈ known) :
    key.relabelKey rename = other.relabelKey rename ↔ key = other := by
  refine ⟨fun same => ?_, fun same => by rw [same]⟩
  have sort : key.label = some .xmlns ↔ other.label = some .xmlns := by
    rw [← faithful.label_relabelKey_eq_iff keyKnown, same,
      faithful.label_relabelKey_eq_iff otherKnown]
  unfold QName.keyLabel? at keyKnown otherKnown
  unfold QName.relabelKey at same
  by_cases declares : key.label = some .xmlns
  · have declaresToo := sort.mp declares
    rw [if_pos declares] at keyKnown
    rw [if_pos declaresToo] at otherKnown
    rw [if_pos declares, if_pos declaresToo, QName.mk.injEq] at same
    obtain ⟨label, inner⟩ := key
    obtain ⟨otherLabel, otherInner⟩ := other
    have inners := faithful.injective (keyKnown inner rfl) (otherKnown otherInner rfl) same.2
    exact QName.mk.injEq .. ▸ ⟨declares.trans declaresToo.symm, inners⟩
  · have plainToo : ¬ other.label = some .xmlns := fun declares' => declares (sort.mpr declares')
    rw [if_neg declares] at keyKnown
    rw [if_neg plainToo] at otherKnown
    rw [if_neg declares, if_neg plainToo] at same
    exact (faithful.relabel_eq_iff keyKnown otherKnown).mp same

end Keys

end Faithful

end Grammar

end Markup

end SchemaScript
