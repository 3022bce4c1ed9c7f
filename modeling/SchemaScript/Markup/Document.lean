import SchemaScript.Markup.Element

/-!
# Documents

A document has one root element.  It grows from events: an opened tag starts a
branch, a closed one attaches the innermost branch to the branch around it, and
an element outside all branches becomes the root.  Text, comments, character
data and instructions have left no event, so they do not matter.
-/

namespace SchemaScript

namespace Markup

structure Document where
  root : Element
deriving Repr, DecidableEq

namespace Document

/-- An element whose closing tag is still to come. -/
structure Branch where
  tag : Tag
  /-- The children so far, the newest first. -/
  earlier : List Element
deriving Repr

structure Growth where
  /-- The branches, from the innermost out. -/
  branches : List Branch
  root : Option Element
deriving Repr

def Branch.toElement (branch : Branch) : Element :=
  ⟨branch.tag, branch.earlier.reverse⟩

namespace Growth

def start : Growth :=
  ⟨[], none⟩

/-- Puts a complete element into the innermost branch, or at the root. -/
def attach (growth : Growth) (element : Element) : Except TreeFault Growth :=
  match growth.branches, growth.root with
  | innermost :: outer, root =>
    .ok ⟨⟨innermost.tag, element :: innermost.earlier⟩ :: outer, root⟩
  | [], none => .ok ⟨[], some element⟩
  | [], some _ => .error (.multipleRoots element.tag.localName)

def step (growth : Growth) : Event → Except TreeFault Growth
  | .opened tag => .ok ⟨⟨tag, []⟩ :: growth.branches, growth.root⟩
  | .completed tag => growth.attach ⟨tag, []⟩
  | .closed =>
    match growth.branches with
    | [] => .error .unexpectedClosing
    | innermost :: outer => attach ⟨outer, growth.root⟩ innermost.toElement

def finish (growth : Growth) : Except TreeFault Document :=
  match growth.branches, growth.root with
  | innermost :: _, _ => .error (.neverClosed innermost.tag.localName)
  | [], none => .error .missingRoot
  | [], some root => .ok ⟨root⟩

end Growth

/--
The document that a sequence of events describes.  A fault of the tree that an
event causes comes before an error at the end of the events.
-/
def ofEvents (sequence : Event.Sequence) : Except Error Document := do
  let growth ← (sequence.events.foldlM Growth.step Growth.start).mapError .tree
  match sequence.error with
  | some error => .error error
  | none => growth.finish.mapError .tree

def parse (text : String) : Except Error Document :=
  ofEvents (Event.ofText text.toList)

def elements (document : Document) : List Element :=
  (Traversal.start document.root).toList

end Document

end Markup

end SchemaScript
