import SchemaScript.Proofs.Markup.Verbatim

/-!
# Headings read back

A written heading is read as the tag it stands for.  A list of bindings and an
environment agree if they give every label the same namespace; reading a
heading keeps them in agreement, so it does not matter how deep it stands.
-/

namespace SchemaScript

namespace Markup

namespace Grammar

section Targets

variable (name : QName)

theorem target?_default : Namespace.target? (QName.mk none .xmlns).chars = some .default :=
  rfl

theorem target?_labelled (label : NCName) :
    Namespace.target? (QName.mk (some .xmlns) label).chars = some (.labelled label.chars) := by
  have cut : Text.after? Namespace.declarationLabel (QName.mk (some .xmlns) label).chars =
      some (':' :: label.chars) :=
    Text.after?_append Namespace.declarationLabel _
  simp only [Namespace.target?, cut]

/-- A name that only starts like a declaration declares nothing. -/
theorem target?_eq_none (plain : name ≠ ⟨none, .xmlns⟩) (unlabelled : name.label ≠ some .xmlns) :
    Namespace.target? name.chars = none := by
  unfold Namespace.target?
  split
  · rename_i found
    have same := Text.append_of_after? found
    rw [List.append_nil] at same
    exact absurd (QName.chars_injective (same.trans (rfl : _ = QName.chars ⟨none, .xmlns⟩))) plain
  · rename_i label found
    have same := Text.append_of_after? found
    have labels := name.label?_chars
    rw [same, Name.label?_append (by decide)] at labels
    obtain ⟨other, found, equal⟩ := Option.map_eq_some_iff.mp labels.symm
    have declares : other = .xmlns := NCName.chars_injective equal
    exact absurd (found.trans (congrArg some declares)) unlabelled
  · rfl

end Targets

/-! ### Scopes -/

/-- The label of a binding; that of the default one is empty. -/
def labelChars (label : Option NCName) : List Char :=
  (label.map NCName.chars).getD []

theorem labelChars_injective : Function.Injective labelChars := by
  intro first second same
  cases first with
  | none =>
      cases second with
      | none => rfl
      | some _ => cases same
  | some first =>
      cases second with
      | none => cases same
      | some second => exact congrArg some (NCName.chars_injective same)

/-- A scope gives every label that a tag may have the namespace in force for it. -/
def Agrees (scope : List Binding) (environment : Environment) : Prop :=
  ∀ label : Option NCName, (∀ name ∈ label, ¬ name.IsReserved) →
    Namespace.lookup? scope (labelChars label) = environment label

section Scopes

variable {scope : List Binding} {environment : Environment}

theorem agrees_outermost : Agrees Namespace.outermost Environment.outermost := by
  intro label free
  have xml : Namespace.markupLabel ≠ labelChars label := by
    intro same
    have reserved := labelChars_injective ((rfl : labelChars (some .xml) = _).trans same)
    exact free .xml reserved.symm (Or.inl rfl)
  have xmlns : Namespace.declarationLabel ≠ labelChars label := by
    intro same
    have reserved := labelChars_injective ((rfl : labelChars (some .xmlns) = _).trans same)
    exact free .xmlns reserved.symm (Or.inr rfl)
  simp [Namespace.lookup?, Namespace.outermost, xml, xmlns, Environment.outermost]

/-- The innermost binding of a label decides; a blank namespace counts as none. -/
theorem lookup?_cons (scope : List Binding) (declared label : Option NCName) (uri : List Char) :
    Namespace.lookup? (⟨labelChars declared, uri⟩ :: scope) (labelChars label) =
      if label = declared then (if uri = [] then none else some uri)
      else Namespace.lookup? scope (labelChars label) := by
  by_cases same : label = declared
  · subst same
    by_cases blank : uri = []
    · simp [Namespace.lookup?, blank]
    · simp [Namespace.lookup?, Option.filter, blank]
  · have other : labelChars declared ≠ labelChars label :=
      fun equal => same (labelChars_injective equal).symm
    simp [Namespace.lookup?, other, same]

theorem Agrees.declare (agrees : Agrees scope environment) (declaration : Declaration) :
    Agrees (⟨labelChars declaration.label, declaration.uri⟩ :: scope)
      (environment.declare declaration) := by
  intro label free
  rw [lookup?_cons]
  split
  · rename_i same
    rw [same, environment.declare_self]
  · rename_i other
    rw [environment.declare_of_ne declaration other, agrees label free]

theorem permits_eq_true {label : NCName} {uri : List Char} (free : ¬ label.IsReserved)
    (uri_free : uri ≠ "http://www.w3.org/XML/1998/namespace".toList ∧
      uri ≠ "http://www.w3.org/2000/xmlns/".toList) :
    Namespace.permits label.chars uri = true := by
  have xml : label.chars ≠ Namespace.markupLabel :=
    fun same => free (Or.inl (NCName.chars_injective same))
  have xmlns : label.chars ≠ Namespace.declarationLabel :=
    fun same => free (Or.inr (NCName.chars_injective same))
  have markup : uri ≠ Namespace.markupUri := uri_free.1
  have declaration : uri ≠ Namespace.declarationUri := uri_free.2
  simp [Namespace.permits, xml, xmlns, markup, declaration]

theorem declare_declaration {declaration : Declaration} {assignment : Assignment}
    (transcribes : Transcribes (.declaration declaration) assignment) :
    Namespace.declare scope assignment =
      .ok (⟨labelChars declaration.label, declaration.uri⟩ :: scope) := by
  obtain ⟨⟨offset, chars⟩, value⟩ := assignment
  obtain ⟨named, quote, -, filled⟩ := transcribes
  have key : chars = declaration.name.chars := named
  have uri : value = declaration.uri := filled
  subst key uri
  obtain ⟨label, uri, label_free, uri_raw, uri_free⟩ := declaration
  cases label with
  | none => rfl
  | some label =>
      have target := target?_labelled label
      have permitted := permits_eq_true (label_free label rfl) uri_free
      simp only [Namespace.declare, Declaration.name, target, permitted, if_true]
      rfl

theorem declare_setting {setting : Setting} {assignment : Assignment}
    (transcribes : Transcribes (.setting setting) assignment) :
    Namespace.declare scope assignment = .ok scope := by
  have apart := target?_eq_none setting.name setting.name_free.1 setting.name_free.2
  rw [Namespace.declare, transcribes.1]
  simp only [Item.name, apart]

theorem enter_eq_ok {items : List Item} {assignments : List Assignment}
    (each : List.Forall₂ Transcribes items assignments) (agrees : Agrees scope environment) :
    ∃ inner, Namespace.enter scope assignments = .ok inner ∧
      Agrees inner
        ((items.filterMap Item.declaration?).foldl Environment.declare environment) := by
  induction each generalizing scope environment with
  | nil => exact ⟨scope, rfl, agrees⟩
  | @cons item assignment items assignments first _ ih =>
      cases item with
      | declaration declared =>
          obtain ⟨inner, entered, agrees⟩ := ih (agrees.declare declared)
          refine ⟨inner, ?_, agrees⟩
          rw [Namespace.enter, List.foldlM_cons, declare_declaration first]
          exact entered
      | setting placed =>
          obtain ⟨inner, entered, agrees⟩ := ih agrees
          refine ⟨inner, ?_, agrees⟩
          rw [Namespace.enter, List.foldlM_cons, declare_setting first]
          exact entered

theorem ofName?_chars (scope : List Binding) (name : QName) :
    Namespace.ofName? scope name.chars = Namespace.lookup? scope (labelChars name.label) := by
  rw [Namespace.ofName?, name.label?_chars]
  cases name.label with
  | none => rfl
  | some _ => rfl

theorem Agrees.ofName?_eq (agrees : Agrees scope environment) (name : QName)
    (free : ∀ label ∈ name.label, ¬ label.IsReserved) :
    Namespace.ofName? scope name.chars = environment name.label := by
  rw [ofName?_chars, agrees name.label free]

end Scopes

/-! ### Tags -/

theorem toAttribute_eq_ok {setting : Setting} {assignment : Assignment}
    (transcribes : Transcribes (.setting setting) assignment) :
    assignment.toAttribute = .ok setting.attribute := by
  obtain ⟨named, quote, -, filled⟩ := transcribes
  have key : assignment.key.name = setting.name.chars := named
  have value := expand_value filled setting.value_free 0
  rw [Assignment.toAttribute, value, key, setting.name.localPart_chars]
  rfl

theorem target?_declaration_ne_none (declaration : Declaration) :
    Namespace.target? declaration.name.chars ≠ none := by
  unfold Declaration.name
  split
  · simp [target?_default]
  · simp [target?_labelled]

theorem mapM_toAttribute {items : List Item} {assignments : List Assignment}
    (each : List.Forall₂ Transcribes items assignments) :
    (assignments.filter fun assignment =>
        (Namespace.target? assignment.key.name).isNone).mapM
      (fun assignment => assignment.toAttribute.mapError Error.reference) =
        .ok ((items.filterMap Item.setting?).map Setting.attribute) := by
  induction each with
  | nil => rfl
  | @cons item assignment items assignments first _ ih =>
      cases item with
      | declaration declared =>
          have declares := target?_declaration_ne_none declared
          rw [List.filter_cons_of_neg (by simpa [first.1, Item.name] using declares)]
          exact ih
      | setting placed =>
          have plain := target?_eq_none placed.name placed.name_free.1 placed.name_free.2
          rw [List.filter_cons_of_pos (by simp [first.1, Item.name, plain]), List.mapM_cons,
            toAttribute_eq_ok first, ih]
          rfl

section Tags

variable {heading : Heading} {content : List Char}

theorem span_heading (written : WritesHeading heading content) :
    Tag.nameOf content = heading.name.chars ∧
      ∃ row gap, Writes WritesItem heading.items row ∧ IsSpacing gap ∧
        content.dropWhile (!isBlank ·) = row ++ gap := by
  obtain ⟨tag, rfl, named, items⟩ := exists_rawTag written
  obtain ⟨taken, left⟩ := tag.span_chars
  exact ⟨named ▸ taken, tag.row, tag.gap, items, tag.gap_blank, left⟩

theorem assignments_eq (written : WritesHeading heading content) (distinct : Bool) :
    ∃ assignments, Tag.assignments distinct content = ⟨assignments, none⟩ ∧
      List.Forall₂ Transcribes heading.items assignments := by
  obtain ⟨-, row, gap, items, gap_blank, left⟩ := span_heading written
  rw [Tag.assignments, left]
  exact readAll_of_writes items gap_blank heading.pairwise_name_ne _ (by simp)

theorem readAttributes_eq_ok (written : WritesHeading heading content) :
    Tag.readAttributes content = .ok (heading.settings.map Setting.attribute) := by
  obtain ⟨assignments, read, each⟩ := assignments_eq written true
  simp only [Tag.readAttributes, read, mapM_toAttribute each]
  rfl

/-- A written heading is read as its tag, and the scope inside it goes on to agree. -/
theorem read_eq_ok {scope : List Binding} {environment : Environment}
    (agrees : Agrees scope environment) (written : WritesHeading heading content) :
    ∃ inner, Tag.read scope content = .ok (heading.tag (environment.enter heading), inner) ∧
      Agrees inner (environment.enter heading) := by
  obtain ⟨assignments, read, each⟩ := assignments_eq written false
  obtain ⟨inner, entered, agreed⟩ := enter_eq_ok each agrees
  have inside : Agrees inner (environment.enter heading) := agreed
  have named := (span_heading written).1
  have uri := inside.ofName?_eq heading.name heading.name_free
  refine ⟨inner, ?_, inside⟩
  rw [Heading.tag, ← uri, ← heading.name.localPart_chars, ← named]
  simp only [Tag.read, read, entered, readAttributes_eq_ok written]
  rfl

end Tags

end Grammar

end Markup

end SchemaScript
