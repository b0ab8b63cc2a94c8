import MapServices.Xml.Event

/-!
# The namespace of a document's root

A tag binds prefixes, and the default, to namespaces by attributes named `xmlns:prefix` and `xmlns`.
Of several bindings of one prefix the last one counts, an empty value takes a binding back, and the
attributes are looked at only up to the first malformed one. Two prefixes are bound from the start
and may not be bound otherwise, nor may another prefix be bound to their namespaces.
-/

namespace MapServices.Xml

/-- The namespace of the prefix `xml`. -/
def xmlNamespace : String := "http://www.w3.org/XML/1998/namespace"

/-- The namespace of the prefix `xmlns`. -/
def xmlnsNamespace : String := "http://www.w3.org/2000/xmlns/"

/-- A prefix, empty for the default, and the namespace to which a tag binds it. -/
structure Binding where
  bound : List Char
  namespaceName : List Char
deriving DecidableEq, Repr

namespace Binding

/-- Why a binding is refused. -/
structure Refusal where
  bound : List Char
  namespaceName : List Char
deriving DecidableEq, Repr

/-- A byte as it stands in a quoted name. -/
def quotedByte (b : UInt8) : List Char :=
  if b = 34 then ['\\', '"']
  else if 32 ≤ b && b ≤ 126 then [Char.ofNat b.toNat]
  else ['0', 'x'] ++ Text.upper (Nat.toDigits 16 b.toNat)

/-- A name in double quotes. Quotes are escaped, and bytes outside of printable ASCII are numbers.
-/
def quotedBytes (s : List Char) : List Char :=
  '"' :: (s.flatMap String.utf8EncodeChar).flatMap quotedByte ++ ['"']

/-- The text of the error. -/
def Refusal.message (r : Refusal) : String :=
  "The namespace prefix '" ++ String.ofList (quotedBytes r.bound) ++ "' cannot be bound to '" ++
    String.ofList (quotedBytes r.namespaceName) ++ "'"

/-- The binding that an attribute makes, if it makes one. -/
def ofAttribute? (a : Attribute) : Except Refusal (Option Binding) :=
  if a.key = "xmlns".toList then .ok (some ⟨[], a.value⟩)
  else
    match Text.afterStart? "xmlns:".toList a.key with
    | none => .ok none
    | some name =>
      let reserved := a.value = xmlNamespace.toList || a.value = xmlnsNamespace.toList
      if name = "xml".toList then
        if a.value = xmlNamespace.toList then .ok none else .error ⟨name, a.value⟩
      else if name = "xmlns".toList || reserved then .error ⟨name, a.value⟩
      else .ok (some ⟨name, a.value⟩)

end Binding

namespace Tag

/-- The bindings that the tag makes, in order. -/
def bindings (t : Tag) : Except Binding.Refusal (List Binding) := do
  let found ← t.attributesRepeating.attributes.mapM Binding.ofAttribute?
  return found.filterMap id

/-- The bindings in force at a root tag, the reserved ones first. -/
def rootBindings (t : Tag) : Except Binding.Refusal (List Binding) := do
  let own ← t.bindings
  return ⟨"xml".toList, xmlNamespace.toList⟩ :: ⟨"xmlns".toList, xmlnsNamespace.toList⟩ :: own

/-- The namespace of a root tag's name. A name whose part before the colon is empty is in none. -/
def rootNamespace? (t : Tag) : Except Binding.Refusal (Option (List Char)) := do
  let all ← t.rootBindings
  let lookup (key : List Char) : Option (List Char) :=
    (all.reverse.find? (·.bound = key)).bind fun b =>
      if b.namespaceName.isEmpty then none else some b.namespaceName
  return match Text.cutAt? ':' t.name with
    | none => lookup []
    | some ([], _) => none
    | some (key, _) => lookup key

end Tag

end MapServices.Xml
