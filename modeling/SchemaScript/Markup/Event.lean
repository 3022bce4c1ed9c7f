import SchemaScript.Markup.Error

/-!
# Events of a document

The tokens of a document that matter for its tree become events: a tag is
opened, completed at once, or closed.  On the way closing tags are checked
against the innermost open tag, names get their namespaces, and attributes
their values.  The first error ends the events.
-/

namespace SchemaScript

namespace Markup

/-- What a tag says about its element. -/
structure Tag where
  namespaceUri : Option String
  localName : String
  attributes : List Attribute
deriving Repr, DecidableEq

inductive Event where
  | opened (tag : Tag)
  | completed (tag : Tag)
  | closed
deriving Repr, DecidableEq

/-- A tag that waits for its closing tag, with the scope inside it. -/
structure OpenTag where
  name : List Char
  scope : List Binding
deriving Repr, DecidableEq

namespace Tag

def nameOf (content : List Char) : List Char :=
  content.takeWhile (!isBlank ·)

def assignments (distinct : Bool) (content : List Char) : Assignment.Sequence :=
  Assignment.readAll distinct [] (Text.byteLength (nameOf content))
    (content.dropWhile (!isBlank ·))

/-- The attributes in a tag's content, without the declarations of namespaces. -/
def readAttributes (content : List Char) : Except Error (List Attribute) := do
  let row := assignments true content
  let plain := row.assignments.filter fun assignment =>
    (Namespace.target? assignment.key.name).isNone
  let attributes ← plain.mapM fun assignment => assignment.toAttribute.mapError .reference
  match row.fault with
  | some fault => .error (.assignment fault)
  | none => return attributes

/--
Reads a tag's content in the scope around it.  Declarations are taken up to
the first faulty assignment, before any attribute is looked at.
-/
def read (scope : List Binding) (content : List Char) : Except Error (Tag × List Binding) := do
  let declared := (assignments false content).assignments
  let inner ← (Namespace.enter scope declared).mapError .reserved
  let attributes ← readAttributes content
  let name := nameOf content
  let tag := {
    namespaceUri := (Namespace.ofName? inner name).map String.ofList
    localName := String.ofList (Name.localPart name)
    attributes := attributes }
  return (tag, inner)

end Tag

namespace Event

def scopeIn (openTags : List OpenTag) : List Binding :=
  (openTags.head?.map OpenTag.scope).getD Namespace.outermost

/-- Takes in one token; the open tags are listed from the innermost out. -/
def ofToken (openTags : List OpenTag) (offset : Nat) :
    Token → Except Error (Option Event × List OpenTag)
  | .opening content => do
    let (tag, scope) ← Tag.read (scopeIn openTags) content
    return (some (opened tag), ⟨Tag.nameOf content, scope⟩ :: openTags)
  | .selfClosing content => do
    let (tag, _) ← Tag.read (scopeIn openTags) content
    return (some (completed tag), openTags)
  | .closing content =>
    let name := trimEnd content
    match openTags with
    | [] => .error (.misplaced offset (.unmatchedClosing name))
    | innermost :: outer =>
      if name = innermost.name then
        .ok (some closed, outer)
      else
        .error (.misplaced offset (.mismatchedClosing innermost.name name))
  | .documentType content =>
    if (content.drop Token.documentTypeWord.length).all isBlank then
      .error (.misplaced (offset + Text.byteLength content + 2) .namelessDocumentType)
    else
      .ok (none, openTags)
  | .text _ | .comment _ | .characterData _ | .instruction _ => .ok (none, openTags)

/-- Events in their order, up to the end of the document or the first error. -/
structure Sequence where
  events : List Event
  error : Option Error
deriving Repr, DecidableEq

def ofTokens (openTags : List OpenTag) (fault : Option (Nat × Token.Fault)) :
    List (Nat × Token) → Sequence
  | [] => ⟨[], fault.map fun (offset, cause) => .undelimited offset cause⟩
  | (offset, token) :: rest =>
    match ofToken openTags offset token with
    | .error error => ⟨[], some error⟩
    | .ok (event, openTags) =>
      let later := ofTokens openTags fault rest
      ⟨event.toList ++ later.events, later.error⟩

/-- The mark that may open a text; it is not part of the document. -/
def orderMark : Char :=
  '\uFEFF'

def dropOrderMark (text : List Char) : List Char :=
  if text.head? = some orderMark then text.tail else text

def ofText (text : List Char) : Sequence :=
  let scanned := Token.scan 0 (dropOrderMark text)
  ofTokens [] scanned.fault scanned.tokens

end Event

end Markup

end SchemaScript
