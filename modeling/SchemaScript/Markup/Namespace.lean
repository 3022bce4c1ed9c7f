import SchemaScript.Markup.Attribute

/-!
# Namespaces

A tag may bind labels to namespaces with assignments to `xmlns` or
`xmlns:label`.  A binding holds for the tag and everything inside it, unless an
inner binding hides it.  A scope lists the bindings in force, the innermost
first, so leaving an element means going back to the scope around it.
-/

namespace SchemaScript

namespace Markup

/-- A label and the namespace it stands for; the empty label is the default. -/
structure Binding where
  label : List Char
  uri : List Char
deriving Repr, DecidableEq

namespace Namespace

def markupLabel : List Char :=
  ['x', 'm', 'l']

/-- The label of the namespace of declarations, and the key of a default one. -/
def declarationLabel : List Char :=
  ['x', 'm', 'l', 'n', 's']

/-- The namespace that only `xml` may be bound to. -/
def markupUri : List Char :=
  "http://www.w3.org/XML/1998/namespace".toList

/-- The namespace that no label may be bound to. -/
def declarationUri : List Char :=
  "http://www.w3.org/2000/xmlns/".toList

def outermost : List Binding :=
  [⟨markupLabel, markupUri⟩, ⟨declarationLabel, declarationUri⟩]

/-- What an assignment declares, judged by its key. -/
inductive Target where
  | default
  | labelled (label : List Char)
deriving Repr, DecidableEq

def target? (key : List Char) : Option Target :=
  match Text.after? declarationLabel key with
  | some [] => some .default
  | some (':' :: label) => some (.labelled label)
  | _ => none

/-- A label bound to a namespace that is not for it. -/
structure Reserved where
  label : List Char
  uri : List Char
deriving Repr, DecidableEq

def permits (label uri : List Char) : Bool :=
  if label = markupLabel then
    uri = markupUri
  else
    label ≠ declarationLabel && uri ≠ markupUri && uri ≠ declarationUri

def declare (scope : List Binding) (assignment : Assignment) :
    Except Reserved (List Binding) :=
  match target? assignment.key.name with
  | none => .ok scope
  | some .default => .ok (⟨[], assignment.value⟩ :: scope)
  | some (.labelled label) =>
    if permits label assignment.value then
      .ok (⟨label, assignment.value⟩ :: scope)
    else
      .error ⟨label, assignment.value⟩

def enter (scope : List Binding) (assignments : List Assignment) :
    Except Reserved (List Binding) :=
  assignments.foldlM declare scope

/-- The namespace that a scope gives to a label; a blank one counts as none. -/
def lookup? (scope : List Binding) (label : List Char) : Option (List Char) :=
  ((scope.find? fun binding => binding.label = label).map Binding.uri).filter (· ≠ [])

/--
The namespace of an element with the given name.  A name without a label takes
the default; an empty label, as in `:name`, stands for no namespace.
-/
def ofName? (scope : List Binding) (name : List Char) : Option (List Char) :=
  match Name.label? name with
  | none => lookup? scope []
  | some [] => none
  | some label => lookup? scope label

end Namespace

end Markup

end SchemaScript
