import SchemaScript.Proofs.Markup.Verdict

/-!
# Attributes of elements that were read

Looking up an attribute takes the first one with a name.  That this is the only
one, and that declarations of namespaces are not among the attributes, is
settled while a tag is read.  This file says so of single tags and then, by way
of the events, of every element of a document.
-/

namespace SchemaScript

namespace Markup

/-- A local name is what follows the first colon of a name, or all of a name without one. -/
def IsLocalPart (name localName : List Char) : Prop :=
  (':' ∉ name ∧ localName = name) ∨ ∃ label, ':' ∉ label ∧ name = label ++ ':' :: localName

theorem isLocalPart_localPart (name : List Char) : IsLocalPart name (Name.localPart name) := by
  by_cases labelled : ':' ∈ name
  · obtain ⟨label, rest, rfl, unlabelled⟩ := List.eq_append_cons_of_mem labelled
    rw [Name.localPart_append unlabelled]
    exact .inr ⟨label, unlabelled, rfl⟩
  · exact .inl ⟨labelled, Name.localPart_of_not_mem labelled⟩

/-- The tag of an element, as the reading of a tag leaves it. -/
structure Tag.WellFormed (tag : Tag) : Prop where
  distinct : (tag.attributes.map Attribute.name).Nodup
  no_declaration : ∀ entry ∈ tag.attributes,
    entry.name ≠ "xmlns" ∧ ¬ "xmlns:".toList <+: entry.name.toList
  localNames : ∀ entry ∈ tag.attributes,
    IsLocalPart entry.name.toList entry.localName.toList
  namespace_visible : tag.namespaceUri ≠ some ""

section Assignments

/-- Where keys are to be distinct, a key is none of those seen before it. -/
theorem readAll_fresh (seen : List Key) (offset : Nat) (text : List Char) :
    let read := Assignment.readAll true seen offset text
    (read.assignments.map fun assignment => assignment.key.name).Nodup ∧
      ∀ assignment ∈ read.assignments, ∀ earlier ∈ seen,
        earlier.name ≠ assignment.key.name := by
  fun_induction Assignment.readAll true seen offset text with
  | case1 => simp
  | case2 => simp
  | case3 => simp
  | case4 => simp
  | case5 seen offset text key next rest found fresh value after remaining read later ih =>
      obtain ⟨distinct, unseen⟩ := ih
      have unseenHere : ∀ earlier ∈ seen, earlier.name ≠ key.name := by
        simpa [List.find?_eq_none] using fresh
      constructor
      · rw [List.map_cons, List.nodup_cons]
        refine ⟨?_, distinct⟩
        rw [List.mem_map]
        rintro ⟨assignment, member, same⟩
        exact unseen assignment member key List.mem_cons_self same.symm
      · intro assignment member earlier among
        cases member with
        | head => exact unseenHere earlier among
        | tail _ member => exact unseen assignment member earlier (.tail _ among)

theorem not_declares_of_target? {key : List Char} (plain : Namespace.target? key = none) :
    key ≠ "xmlns".toList ∧ ¬ "xmlns:".toList <+: key := by
  constructor
  · rintro rfl
    cases plain
  · rintro ⟨label, rfl⟩
    cases plain

/-- The whole name of an attribute, and its local name. -/
def Attribute.names (entry : Attribute) : String × String :=
  (entry.name, entry.localName)

def Key.names (key : Key) : String × String :=
  (String.ofList key.name, String.ofList (Name.localPart key.name))

theorem names_of_toAttribute {assignment : Assignment} {entry : Attribute}
    (converted : assignment.toAttribute = .ok entry) : entry.names = assignment.key.names := by
  obtain ⟨value, -, converted⟩ := bind_eq_ok_iff.mp converted
  cases converted
  rfl

theorem map_names_of_mapM {assignments : List Assignment} {attributes : List Attribute}
    (done : (assignments.mapM fun assignment =>
      assignment.toAttribute.mapError Error.reference) = .ok attributes) :
    attributes.map Attribute.names = assignments.map fun assignment => assignment.key.names := by
  induction assignments generalizing attributes with
  | nil =>
      cases done
      rfl
  | cons first rest ih =>
      rw [List.mapM_cons] at done
      obtain ⟨entry, converted, done⟩ := bind_eq_ok_iff.mp done
      obtain ⟨entries, others, done⟩ := bind_eq_ok_iff.mp done
      cases done
      rw [List.map_cons, List.map_cons, ih others,
        names_of_toAttribute (mapError_eq_ok_iff.mp converted)]

end Assignments

namespace Tag

/-- The assignments in a tag's content that declare nothing. -/
def plainAssignments (content : List Char) : List Assignment :=
  (assignments true content).assignments.filter fun assignment =>
    (Namespace.target? assignment.key.name).isNone

theorem map_names_of_readAttributes {content : List Char} {attributes : List Attribute}
    (read : readAttributes content = .ok attributes) :
    attributes.map Attribute.names =
      (plainAssignments content).map fun assignment => assignment.key.names := by
  obtain ⟨found, converted, finished⟩ := bind_eq_ok_iff.mp read
  split at finished
  · cases finished
  · cases finished
    exact map_names_of_mapM converted

theorem nodup_plainAssignments (content : List Char) :
    ((plainAssignments content).map fun assignment => assignment.key.name).Nodup := by
  have distinct := (readAll_fresh [] (Text.byteLength (nameOf content))
    (content.dropWhile (!isBlank ·))).1
  exact distinct.sublist (List.filter_sublist.map _)

theorem lookup?_ne_nil (scope : List Binding) (label : List Char) :
    Namespace.lookup? scope label ≠ some [] := by
  intro found
  obtain ⟨-, visible⟩ := Option.filter_eq_some_iff.mp found
  exact of_decide_eq_true visible rfl

theorem ofName?_ne_nil (scope : List Binding) (name : List Char) :
    Namespace.ofName? scope name ≠ some [] := by
  unfold Namespace.ofName?
  split
  · exact lookup?_ne_nil scope []
  · exact nofun
  · exact lookup?_ne_nil scope _

theorem wellFormed_of_read {scope inner : List Binding} {content : List Char} {tag : Tag}
    (read : Tag.read scope content = .ok (tag, inner)) : tag.WellFormed := by
  obtain ⟨entered, -, read⟩ := bind_eq_ok_iff.mp read
  obtain ⟨attributes, given, read⟩ := bind_eq_ok_iff.mp read
  cases read
  have names := map_names_of_readAttributes given
  have source : ∀ entry ∈ attributes, ∃ assignment ∈ plainAssignments content,
      assignment.key.names = entry.names := by
    intro entry member
    exact List.mem_map.mp (names ▸ List.mem_map_of_mem member)
  refine ⟨?_, ?_, ?_, ?_⟩
  · have whole : attributes.map Attribute.name =
        ((plainAssignments content).map fun assignment => assignment.key.name).map
          String.ofList := by
      have firsts := congrArg (List.map Prod.fst) names
      rw [List.map_map, List.map_map] at firsts
      rw [List.map_map]
      exact firsts
    rw [whole]
    refine List.Pairwise.map String.ofList ?_ (nodup_plainAssignments content)
    exact fun _ _ other same => other (String.ofList_injective same)
  · intro entry member
    obtain ⟨assignment, among, same⟩ := source entry member
    have plain := Option.isNone_iff_eq_none.mp (List.mem_filter.mp among).2
    have named : entry.name.toList = assignment.key.name := by
      rw [← (Prod.mk.inj same).1, String.toList_ofList]
    have apart := not_declares_of_target? plain
    rw [named]
    exact ⟨fun declares => apart.1 (declares ▸ named).symm, apart.2⟩
  · intro entry member
    obtain ⟨assignment, -, same⟩ := source entry member
    obtain ⟨whole, rest⟩ := Prod.mk.inj same
    rw [← whole, ← rest, String.toList_ofList, String.toList_ofList]
    exact isLocalPart_localPart assignment.key.name
  · intro blank
    obtain ⟨uri, found, same⟩ := Option.map_eq_some_iff.mp blank
    have nothing : uri = [] := by
      rw [← String.toList_ofList (l := uri), same]
      rfl
    exact ofName?_ne_nil inner (nameOf content) (nothing ▸ found)

end Tag

namespace Event

section Tokens

variable {openTags later : List OpenTag} {offset : Nat} {token : Token} {event : Event} {tag : Tag}

theorem wellFormed_of_ofToken (taken : ofToken openTags offset token = .ok (some event, later))
    (begins : event.tag? = some tag) : tag.WellFormed := by
  cases token with
  | opening content =>
      obtain ⟨⟨found, scope⟩, read, taken⟩ := bind_eq_ok_iff.mp taken
      cases taken
      cases begins
      exact Tag.wellFormed_of_read read
  | selfClosing content =>
      obtain ⟨⟨found, scope⟩, read, taken⟩ := bind_eq_ok_iff.mp taken
      cases taken
      cases begins
      exact Tag.wellFormed_of_read read
  | closing content =>
      simp only [ofToken] at taken
      split at taken
      · cases taken
      · split at taken
        · cases taken
          cases begins
        · cases taken
  | documentType content =>
      simp only [ofToken] at taken
      split at taken <;> cases taken
  | text content => cases taken
  | comment content => cases taken
  | characterData content => cases taken
  | instruction content => cases taken

theorem wellFormed_of_mem_ofTokens {fault : Option (Nat × Token.Fault)}
    {tokens : List (Nat × Token)} (member : event ∈ (ofTokens openTags fault tokens).events)
    (begins : event.tag? = some tag) : tag.WellFormed := by
  induction tokens generalizing openTags with
  | nil => cases member
  | cons entry tokens ih =>
      obtain ⟨offset, token⟩ := entry
      cases stepped : ofToken openTags offset token with
      | error error => simp [ofTokens, stepped] at member
      | ok taken =>
          obtain ⟨first, middle⟩ := taken
          simp only [ofTokens, stepped, List.mem_append, Option.mem_toList] at member
          rcases member with here | there
          · exact wellFormed_of_ofToken (here ▸ stepped) begins
          · exact ih there

end Tokens

end Event

namespace Document

section Documents

variable {document : Document}

/-- A document that is read has the tags of all events, in the order of the text. -/
theorem map_tag_preorder {sequence : Event.Sequence} (nested : Event.Matched [] sequence.events)
    (read : ofEvents sequence = .ok document) :
    document.root.preorder.map Element.tag = sequence.events.filterMap Event.tag? := by
  obtain ⟨growth, grown, finished⟩ := bind_eq_ok_iff.mp read
  have grown := mapError_eq_ok_iff.mp grown
  split at finished
  · cases finished
  have finished := mapError_eq_ok_iff.mp finished
  rcases Growth.start.foldlM_step_cases nested with ⟨later, same, follows⟩ | ⟨_, _, _, -, stopped⟩
  · rw [grown] at same
    cases same
    obtain ⟨branches, root⟩ := growth
    cases branches with
    | cons innermost outer => cases finished
    | nil =>
        cases root with
        | none => cases finished
        | some root =>
            cases finished
            have placed : root.tagsAt [] = Event.place [] sequence.events := by
              simpa [Growth.tags, Growth.tagsOf, Growth.start, Growth.openings]
                using follows.tags_eq
            rw [← Event.map_snd_place [] sequence.events, ← placed, Element.tagsAt,
              ← Element.map_snd_located, List.map_map, List.map_map]
            rfl
  · rw [grown] at stopped
    cases stopped

theorem wellFormed_of_parse {text : String} (read : parse text = .ok document) {path : List Nat}
    {element : Element} (stands : document.root.descend? path = some element) :
    element.tag.WellFormed := by
  have among : element ∈ document.root.preorder := by
    rw [← Element.map_snd_located]
    exact List.mem_map.mpr ⟨(path, element), Element.mem_located_iff.mpr stands, rfl⟩
  have tagged : element.tag ∈ (Event.ofText text.toList).events.filterMap Event.tag? := by
    rw [← map_tag_preorder (Event.matched_ofText text.toList) read]
    exact List.mem_map_of_mem among
  obtain ⟨event, member, begins⟩ := List.mem_filterMap.mp tagged
  exact Event.wellFormed_of_mem_ofTokens member begins

end Documents

end Document

section Lookups

variable {attributes others : List Attribute}

/-- The attributes with the given whole name. -/
def named (attributes : List Attribute) (name : String) : List Attribute :=
  attributes.filter fun entry => entry.name = name

theorem attribute?_eq_head? (element : Element) (name : String) :
    element.attribute? name = (named element.tag.attributes name).head?.map Attribute.value := by
  rw [Element.attribute?, named, List.head?_filter]

theorem named_eq_nil_or_singleton (distinct : (attributes.map Attribute.name).Nodup)
    (name : String) : named attributes name = [] ∨ ∃ entry, named attributes name = [entry] := by
  have alike : ∀ entry ∈ named attributes name, entry.name = name := by
    simp [named]
  have distinctHere : ((named attributes name).map Attribute.name).Nodup :=
    distinct.sublist (List.filter_sublist.map _)
  match found : named attributes name with
  | [] => exact .inl rfl
  | [entry] => exact .inr ⟨entry, rfl⟩
  | first :: second :: rest =>
      rw [found] at alike distinctHere
      have same : first.name = second.name :=
        (alike first (by simp)).trans (alike second (by simp)).symm
      simp [same] at distinctHere

theorem named_eq_of_perm (distinct : (attributes.map Attribute.name).Nodup)
    (moved : attributes.Perm others) (name : String) :
    named others name = named attributes name := by
  have same : (named attributes name).Perm (named others name) := moved.filter _
  rcases named_eq_nil_or_singleton distinct name with none | ⟨entry, single⟩
  · rw [none] at same ⊢
    exact same.nil_eq.symm
  · rw [single] at same ⊢
    exact (List.singleton_perm.mp same).symm

end Lookups

/--
In a document that was read, every element has attributes with different names, none of which
declares a namespace; each knows its local name, and no namespace is blank.  So an attribute is
found under a name exactly if it alone has that name, and the order of the attributes does not
matter.
-/
theorem element_wellFormed_of_parse {text : String} {document : Document}
    (read : Document.parse text = .ok document) {path : List Nat} {element : Element}
    (stands : document.root.descend? path = some element) :
    element.tag.WellFormed ∧
      (∀ name value, element.attribute? name = some value ↔
        ∃ entry, named element.tag.attributes name = [entry] ∧ entry.value = value) ∧
      ∀ others, element.tag.attributes.Perm others → ∀ name,
        Element.attribute? ⟨{ element.tag with attributes := others }, element.children⟩ name =
          element.attribute? name := by
  have formed := Document.wellFormed_of_parse read stands
  refine ⟨formed, fun name value => ?_, fun others moved name => ?_⟩
  · rw [attribute?_eq_head?]
    rcases named_eq_nil_or_singleton formed.distinct name with none | ⟨entry, single⟩
    · simp [none]
    · simp [single]
  · rw [attribute?_eq_head?, attribute?_eq_head?, named_eq_of_perm formed.distinct moved]

/-- Attributes named alike but for a label, in an element inside another one. -/
theorem element_wellFormed_of_parse_nested :
    ∃ document element,
      Document.parse "<s xmlns:m='u' m:a:b='1'><t xmlns='' y='2' m:y='3'/></s>" = .ok document ∧
        document.root.descend? [0] = some element ∧ element.tag.WellFormed ∧
        element.attribute? "y" = some "2" ∧ element.attribute? "m:y" = some "3" := by
  let inner : Element := ⟨⟨none, "t", [⟨"y", "y", "2"⟩, ⟨"m:y", "y", "3"⟩]⟩, []⟩
  let document : Document := ⟨⟨⟨none, "s", [⟨"m:a:b", "a:b", "1"⟩]⟩, [inner]⟩⟩
  have read : Document.parse "<s xmlns:m='u' m:a:b='1'><t xmlns='' y='2' m:y='3'/></s>" =
      .ok document := by
    decide +kernel
  have stands : document.root.descend? [0] = some inner := rfl
  obtain ⟨formed, found, -⟩ := element_wellFormed_of_parse read stands
  have plain : inner.attribute? "y" = some "2" := (found "y" "2").mpr ⟨_, rfl, rfl⟩
  have labelled : inner.attribute? "m:y" = some "3" := (found "m:y" "3").mpr ⟨_, rfl, rfl⟩
  exact ⟨document, inner, read, stands, formed, plain, labelled⟩

end Markup

end SchemaScript
