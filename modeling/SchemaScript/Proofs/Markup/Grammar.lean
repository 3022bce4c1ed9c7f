import Mathlib.Data.List.Forall2
import Mathlib.Logic.Function.Basic
import SchemaScript.Markup.Document
import SchemaScript.Text.Runs

/-!
# How a tree of tags is written

A tree of tags has many written forms: a value stands between either kind of
quotes, each of its characters is written raw or by a reference, the items of a
tag are set apart by any blanks, and a tag without children is closed at once
or by a tag of its own.  `WritesRow` relates a row of trees to all its written
forms, and `Node.element` says which element a tree stands for.
-/

namespace SchemaScript

namespace Markup

namespace Grammar

/-- The characters that a name without colons may start with. -/
def startRuns : List (Nat × Nat) :=
  [(0x41, 0x5A), (0x5F, 0x5F), (0x61, 0x7A), (0xC0, 0xD6), (0xD8, 0xF6), (0xF8, 0x2FF),
    (0x370, 0x37D), (0x37F, 0x1FFF), (0x200C, 0x200D), (0x2070, 0x218F), (0x2C00, 0x2FEF),
    (0x3001, 0xD7FF), (0xF900, 0xFDCF), (0xFDF0, 0xFFFD), (0x10000, 0xEFFFF)]

def innerRuns : List (Nat × Nat) :=
  startRuns ++ [(0x2D, 0x2E), (0x30, 0x39), (0xB7, 0xB7), (0x300, 0x36F), (0x203F, 0x2040)]

/-- A name without colons. -/
structure NCName where
  first : Char
  rest : List Char
  starts : Text.inRuns startRuns first = true
  continues : rest.all (Text.inRuns innerRuns) = true
deriving DecidableEq

namespace NCName

def chars (name : NCName) : List Char :=
  name.first :: name.rest

def xml : NCName :=
  ⟨'x', ['m', 'l'], by decide, by decide⟩

def xmlns : NCName :=
  ⟨'x', ['m', 'l', 'n', 's'], by decide, by decide⟩

/-- The labels that no tag and no declaration takes. -/
def IsReserved (name : NCName) : Prop :=
  name = xml ∨ name = xmlns

instance (name : NCName) : Decidable name.IsReserved :=
  inferInstanceAs (Decidable (_ ∨ _))

end NCName

structure QName where
  label : Option NCName
  localPart : NCName
deriving DecidableEq

def QName.chars (name : QName) : List Char :=
  match name.label with
  | none => name.localPart.chars
  | some label => label.chars ++ ':' :: name.localPart.chars

/-- The declaration of a namespace for a label, or of the default namespace. -/
structure Declaration where
  label : Option NCName
  uri : List Char
  label_free : ∀ name ∈ label, ¬ name.IsReserved
  uri_raw : ∀ char ∈ uri, char ∉ ['&', '<', '"', '\x27']
  uri_free : uri ≠ "http://www.w3.org/XML/1998/namespace".toList ∧
    uri ≠ "http://www.w3.org/2000/xmlns/".toList

def Declaration.name (declaration : Declaration) : QName :=
  match declaration.label with
  | none => ⟨none, .xmlns⟩
  | some label => ⟨some .xmlns, label⟩

/-- An attribute that declares nothing, with its plain value. -/
structure Setting where
  name : QName
  value : List Char
  name_free : name ≠ ⟨none, .xmlns⟩ ∧ name.label ≠ some .xmlns
  value_free : '\x00' ∉ value

inductive Item where
  | declaration (declaration : Declaration)
  | setting (setting : Setting)

namespace Item

def declaration? : Item → Option Declaration
  | .declaration declared => some declared
  | .setting _ => none

def setting? : Item → Option Setting
  | .declaration _ => none
  | .setting placed => some placed

def name : Item → QName
  | .declaration declared => declared.name
  | .setting placed => placed.name

end Item

/-- The name of a tag and its items in the order in which they are written. -/
structure Heading where
  name : QName
  items : List Item
  name_free : ∀ label ∈ name.label, ¬ label.IsReserved
  declared_once : (items.filterMap Item.declaration?).Pairwise
    fun earlier later => earlier.label ≠ later.label
  set_once : (items.filterMap Item.setting?).Pairwise
    fun earlier later => earlier.name ≠ later.name

namespace Heading

def declarations (heading : Heading) : List Declaration :=
  heading.items.filterMap Item.declaration?

def settings (heading : Heading) : List Setting :=
  heading.items.filterMap Item.setting?

end Heading

/-- A tag with the tags directly inside it. -/
inductive Node where
  | mk (heading : Heading) (children : List Node)

/-! ### What a tree means -/

/-- The namespace in force for each label, and for names that have none. -/
def Environment : Type :=
  Option NCName → Option (List Char)

namespace Environment

def outermost : Environment :=
  fun _ => none

/-- A declaration hides those around it; a blank one leaves no namespace in force. -/
def declare (environment : Environment) (declaration : Declaration) : Environment :=
  Function.update environment declaration.label
    (if declaration.uri = [] then none else some declaration.uri)

theorem declare_self (environment : Environment) (declaration : Declaration) :
    environment.declare declaration declaration.label =
      if declaration.uri = [] then none else some declaration.uri :=
  Function.update_self _ _ _

theorem declare_of_ne (environment : Environment) (declaration : Declaration)
    {label : Option NCName} (other : label ≠ declaration.label) :
    environment.declare declaration label = environment label :=
  Function.update_of_ne other _ _

def enter (environment : Environment) (heading : Heading) : Environment :=
  heading.declarations.foldl declare environment

end Environment

def Setting.attribute (setting : Setting) : Attribute where
  name := String.ofList setting.name.chars
  localName := String.ofList setting.name.localPart.chars
  value := String.ofList setting.value

/-- The tag of a heading, in the environment inside it. -/
def Heading.tag (environment : Environment) (heading : Heading) : Tag where
  namespaceUri := (environment heading.name.label).map String.ofList
  localName := String.ofList heading.name.localPart.chars
  attributes := heading.settings.map Setting.attribute

mutual

/-- The element that a tree stands for, in the environment around it. -/
def Node.element (environment : Environment) : Node → Element
  | .mk heading children =>
    let inner := environment.enter heading
    ⟨heading.tag inner, Node.elements inner children⟩

def Node.elements (environment : Environment) : List Node → List Element
  | [] => []
  | first :: rest => first.element environment :: Node.elements environment rest

end

/-! ### Written forms -/

def IsSpacing (text : List Char) : Prop :=
  ∀ char ∈ text, char ∈ [' ', '\t', '\n', '\r']

instance (text : List Char) : Decidable (IsSpacing text) :=
  List.decidableBAll (· ∈ [' ', '\t', '\n', '\r']) text

/-- A character that writes a digit; a letter may have either case. -/
def IsDigit (base digit : Nat) (char : Char) : Prop :=
  digit < base ∧ (char = digit.digitChar ∨ char = digit.digitChar.toUpper)

/-- The digits of a number from the first on, of which some may be leading zeros. -/
def IsNumeral (base number : Nat) (text : List Char) : Prop :=
  ∃ digits : List Nat, digits ≠ [] ∧
    digits.foldl (fun front digit => front * base + digit) 0 = number ∧
    List.Forall₂ (IsDigit base) digits text

/-- The texts that name a character between `&` and `;`. -/
inductive Names (char : Char) : List Char → Prop where
  | word {name : String}
      (known : (char, name) ∈
        [('<', "lt"), ('>', "gt"), ('&', "amp"), ('\x27', "apos"), ('"', "quot")]) :
      Names char name.toList
  | decimal {numeral : List Char} (numbered : IsNumeral 10 char.toNat numeral) :
      Names char ('#' :: numeral)
  | hexadecimal {numeral : List Char} (numbered : IsNumeral 16 char.toNat numeral) :
      Names char ('#' :: 'x' :: numeral)

/-- The ways to write a character of a value that stands between the given quotes. -/
inductive WritesChar (quote char : Char) : List Char → Prop where
  | raw (free : char ∉ ['&', '<', quote]) : WritesChar quote char [char]
  | reference {name : List Char} (names : Names char name) :
      WritesChar quote char ('&' :: (name ++ [';']))

/-- The written forms of a list, one after another. -/
inductive Writes {Part : Type} (writesPart : Part → List Char → Prop) :
    List Part → List Char → Prop where
  | nil : Writes writesPart [] []
  | cons {first : Part} {rest : List Part} {piece text : List Char}
      (part : writesPart first piece) (more : Writes writesPart rest text) :
      Writes writesPart (first :: rest) (piece ++ text)

/-- What may stand between the quotes of an item. -/
def Item.WritesContent (quote : Char) : Item → List Char → Prop
  | .declaration declared, content => content = declared.uri
  | .setting placed, content => Writes (WritesChar quote) placed.value content

inductive WritesItem (item : Item) : List Char → Prop where
  | mk {gap before after content : List Char} {quote : Char}
      (gap_blank : IsSpacing gap) (gap_some : gap ≠ [])
      (before_blank : IsSpacing before) (after_blank : IsSpacing after)
      (quotes : quote ∈ ['"', '\x27']) (filled : item.WritesContent quote content) :
      WritesItem item
        (gap ++ (item.name.chars ++ (before ++ '=' :: (after ++ quote :: (content ++ [quote])))))

inductive WritesHeading (heading : Heading) : List Char → Prop where
  | mk {row gap : List Char} (items : Writes WritesItem heading.items row)
      (gap_blank : IsSpacing gap) : WritesHeading heading (heading.name.chars ++ (row ++ gap))

/-- The written forms of a row of trees that stand side by side. -/
inductive WritesRow : List Node → List Char → Prop where
  | nil : WritesRow [] []
  | single {heading : Heading} {rest : List Node} {head text : List Char}
      (headed : WritesHeading heading head) (more : WritesRow rest text) :
      WritesRow (.mk heading [] :: rest) ('<' :: (head ++ '/' :: '>' :: text))
  | paired {heading : Heading} {children rest : List Node} {head inner gap text : List Char}
      (headed : WritesHeading heading head) (inside : WritesRow children inner)
      (gap_blank : IsSpacing gap) (more : WritesRow rest text) :
      WritesRow (.mk heading children :: rest)
        ('<' :: (head ++ '>' :: (inner ++
          '<' :: '/' :: (heading.name.chars ++ (gap ++ '>' :: text)))))

/-! ### Every tree has a written form -/

theorem isSpacing_nil : IsSpacing [] := by
  decide

theorem Writes.exists {Part : Type} {writesPart : Part → List Char → Prop} (parts : List Part)
    (each : ∀ part ∈ parts, ∃ piece, writesPart part piece) :
    ∃ text, Writes writesPart parts text := by
  induction parts with
  | nil => exact ⟨[], .nil⟩
  | cons first rest ih =>
      obtain ⟨piece, part⟩ := each first List.mem_cons_self
      obtain ⟨text, more⟩ := ih fun part member => each part (List.mem_cons_of_mem _ member)
      exact ⟨piece ++ text, .cons part more⟩

theorem exists_writesChar (char : Char) : ∃ piece, WritesChar '"' char piece := by
  by_cases free : char ∈ ['&', '<', '"']
  · simp only [List.mem_cons, List.not_mem_nil, or_false] at free
    rcases free with rfl | rfl | rfl
    · exact ⟨_, .reference (.word (by decide : ('&', "amp") ∈ _))⟩
    · exact ⟨_, .reference (.word (by decide : ('<', "lt") ∈ _))⟩
    · exact ⟨_, .reference (.word (by decide : ('"', "quot") ∈ _))⟩
  · exact ⟨[char], .raw free⟩

theorem exists_writesItem (item : Item) : ∃ piece, WritesItem item piece := by
  have filled : ∃ content, item.WritesContent '"' content := by
    cases item with
    | declaration declared => exact ⟨declared.uri, rfl⟩
    | setting placed => exact Writes.exists placed.value fun char _ => exists_writesChar char
  obtain ⟨content, filled⟩ := filled
  have space : IsSpacing [' '] := by decide
  exact ⟨_, .mk space (by decide) isSpacing_nil isSpacing_nil (by decide) filled⟩

theorem exists_writesHeading (heading : Heading) : ∃ text, WritesHeading heading text := by
  obtain ⟨row, items⟩ := Writes.exists heading.items fun item _ => exists_writesItem item
  exact ⟨_, .mk items isSpacing_nil⟩

theorem exists_writesRow : ∀ nodes : List Node, ∃ text, WritesRow nodes text
  | [] => ⟨[], .nil⟩
  | .mk heading children :: rest => by
    obtain ⟨head, headed⟩ := exists_writesHeading heading
    obtain ⟨inner, inside⟩ := exists_writesRow children
    obtain ⟨text, more⟩ := exists_writesRow rest
    exact ⟨_, .paired headed inside isSpacing_nil more⟩

end Grammar

end Markup

end SchemaScript
