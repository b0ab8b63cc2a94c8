import MapServices.Xml.Event

/-!
# Element trees

The tree of a document holds names without their namespace part, attributes in order without the
namespace declarations, the character data of each element joined into one text, and the child
elements in order.

* `TreeBuilder.add` puts one event into the tree under construction, and `Element.ofReading` builds
  the tree of a whole document: one balanced element, with nothing but text outside of it.
* `child?`, `path?`, `childText?` and their kin look names up among the children.
-/

namespace MapServices.Xml

/-- An element with its attributes, its text and its children. -/
structure Element where
  name : String
  attributes : List (String × String) := []
  text : String := ""
  children : List Element := []
deriving Inhabited, Repr

/-- Why a document has no tree. -/
inductive TreeError where
  /-- A piece of the document cannot be read. -/
  | unreadable (failure : Failure)
  /-- The attributes of a tag cannot be read. -/
  | badAttribute (error : AttributeError)
  /-- A reference in text or in an attribute value cannot be replaced. -/
  | badReference (error : EntityError)
  /-- An end tag without an open element. -/
  | unbalancedEnd
  /-- A second element outside the first. -/
  | severalRoots
  /-- An element that is still open at the end. -/
  | unclosedElement
  /-- No element at all. -/
  | noRoot
deriving DecidableEq, Repr

/-- The text of the error. -/
def TreeError.message : TreeError → String
  | unreadable f => s!"at position {f.position}: {f.error.message}"
  | badAttribute e => s!"error while parsing attribute: {e.message}"
  | badReference e => e.message
  | unbalancedEnd => "unbalanced end tag"
  | severalRoots => "multiple root elements"
  | unclosedElement => "unexpected end of document"
  | noRoot => "root element"

/-- Whether the key declares a namespace and is no attribute of the tree. -/
def Attribute.isDeclaration (a : Attribute) : Bool := "xmlns".toList.isPrefixOf a.key

/-- The name and the value that an attribute has in the tree. -/
def Attribute.entry (a : Attribute) : Except TreeError (String × String) :=
  match unescape a.value with
  | .ok value => .ok (String.ofList (Tag.localPart a.key), String.ofList value)
  | .error e => .error (.badReference e)

namespace Element

/-- The element that a tag starts, without text and children. -/
def ofTag (tag : Tag) : Except TreeError Element := do
  let scan := tag.attributes
  let attributes ← (scan.attributes.filter (!·.isDeclaration)).mapM Attribute.entry
  match scan.error? with
  | some e => .error (.badAttribute e)
  | none => .ok { name := String.ofList tag.localName, attributes }

/-- The element with a text put behind its own. -/
def appendText (e : Element) (text : List Char) : Element :=
  { e with text := e.text ++ String.ofList text }

/-- The element with a child put behind its own. -/
def appendChild (e child : Element) : Element := { e with children := e.children ++ [child] }

end Element

/-! ### Building the tree -/

/-- A tree under construction: the open elements, innermost first, and the finished root. -/
structure TreeBuilder where
  opened : List Element := []
  root? : Option Element := none
deriving Inhabited, Repr

namespace TreeBuilder

/-- Puts a finished element into the innermost open one, or makes it the root. -/
def attach (b : TreeBuilder) (e : Element) : Except TreeError TreeBuilder :=
  match b.opened, b.root? with
  | parent :: outer, _ => .ok { b with opened := parent.appendChild e :: outer }
  | [], none => .ok { b with root? := some e }
  | [], some _ => .error .severalRoots

/-- Appends character data to the innermost open element. Outside of every element it is dropped,
and its references are not looked at. -/
def addText (b : TreeBuilder) (content : Except EntityError (List Char)) :
    Except TreeError TreeBuilder :=
  match b.opened with
  | [] => .ok b
  | top :: outer =>
    match content with
    | .ok text => .ok { b with opened := top.appendText text :: outer }
    | .error e => .error (.badReference e)

/-- Puts an event into the tree. -/
def add (b : TreeBuilder) : Event → Except TreeError TreeBuilder
  | .start tag => do
    let e ← Element.ofTag tag
    return { b with opened := e :: b.opened }
  | .empty tag => do
    let e ← Element.ofTag tag
    b.attach e
  | .close _ =>
    match b.opened with
    | [] => .error .unbalancedEnd
    | e :: outer => attach { b with opened := outer } e
  | .text raw => b.addText (unescape raw)
  | .cdata content => b.addText (.ok content)
  | .comment | .declaration _ | .instruction | .doctype => .ok b

/-- Puts a row of events into the tree. -/
def addAll (b : TreeBuilder) (events : List Event) : Except TreeError TreeBuilder :=
  events.foldlM add b

/-- The finished tree. -/
def finish (b : TreeBuilder) : Except TreeError Element :=
  match b.opened, b.root? with
  | _ :: _, _ => .error .unclosedElement
  | [], some root => .ok root
  | [], none => .error .noRoot

end TreeBuilder

namespace Element

/-- The tree that the events of a document spell. -/
def ofReading (r : Reading) : Except TreeError Element := do
  let b ← TreeBuilder.addAll {} r.events
  match r.failure? with
  | some f => .error (.unreadable f)
  | none => b.finish

/-- The tree of a document. -/
def ofChars (s : List Char) : Except TreeError Element := ofReading (Reading.ofChars s)

/-- The tree of a document. -/
def ofString (s : String) : Except TreeError Element := ofChars s.toList

/-! ### Looking around in a tree -/

/-- The children with the given name. -/
def childrenNamed (e : Element) (name : String) : List Element :=
  e.children.filter (·.name == name)

/-- The first child with the given name. -/
def child? (e : Element) (name : String) : Option Element :=
  e.children.find? (·.name == name)

/-- The element reached by going from child to child along the names. -/
def path? (e : Element) (names : List String) : Option Element := names.foldlM child? e

/-- The text of the element without white space at its ends, unless nothing is left. -/
def content? (e : Element) : Option String := Text.nonBlank? e.text

/-- The text of the first child with the given name. -/
def childText? (e : Element) (name : String) : Option String := (e.child? name).bind content?

/-- The texts of the children with the given name that have one. -/
def childTexts (e : Element) (name : String) : List String :=
  (e.childrenNamed name).filterMap content?

/-- The value of the first attribute with the given name. -/
def attribute? (e : Element) (name : String) : Option String := e.attributes.lookup name

end Element

end MapServices.Xml
