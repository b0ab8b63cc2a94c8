import MapServices.Xml.Element

/-!
# Trees as text

An element is written as its tags with its text and then its children between them. Names may be
put into a namespace by a part before a colon, and an element without text and children may be
written as one tag.
-/

namespace MapServices.Xml

/-- How a tree is written. -/
structure Markup where
  /-- The part of every name that is written before a colon. -/
  namespacePart : Option String := none
  /-- Elements without content are written as one tag. -/
  closesEmpty : Bool := false
deriving DecidableEq, Inhabited, Repr

namespace Markup

/-- A name as it is written. -/
def nameChars (m : Markup) (name : String) : List Char :=
  match m.namespacePart with
  | some part => part.toList ++ ':' :: name.toList
  | none => name.toList

/-- An attribute with the space before it. -/
def attributeChars (m : Markup) (a : String × String) : List Char :=
  ' ' :: m.nameChars a.1 ++ ['=', '"'] ++ escape a.2.toList ++ ['"']

/-- What a tag says of an element. -/
def tagChars (m : Markup) (name : String) (attributes : List (String × String)) : List Char :=
  m.nameChars name ++ attributes.flatMap m.attributeChars

mutual

/-- The text of a tree. -/
def chars (m : Markup) : Element → List Char
  | ⟨name, attributes, text, children⟩ =>
    let tag := m.tagChars name attributes
    if m.closesEmpty && text.isEmpty && children.isEmpty then '<' :: tag ++ ['/', '>']
    else
      '<' :: tag ++ '>' :: escape text.toList ++ childrenChars m children ++ ['<', '/'] ++
        m.nameChars name ++ ['>']

/-- The texts of trees, one after the other. -/
def childrenChars (m : Markup) : List Element → List Char
  | [] => []
  | e :: es => chars m e ++ childrenChars m es

end

/-- The text of a tree. -/
def render (m : Markup) (e : Element) : String := String.ofList (m.chars e)

end Markup

end MapServices.Xml
