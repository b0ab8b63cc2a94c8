import MapServices.Encoding.Basic
import MapServices.Xml.Event

/-!
# The encoding of an answer

An answer can name its encoding in two places: as the parameter `charset` of its content type, and
in the XML declaration at the start of its body. Where both do, they must agree. Where neither
does, the encoding is UTF-8.

The declaration is looked for in the bytes, before they are decoded: each byte is read as the
character with its number, which is right for all encodings that extend ASCII.
-/

namespace MapServices.Response

/-- The value of a parameter of a content type, if it names an encoding. -/
def charsetOfParameter? (parameter : List Char) : Option String :=
  match Text.cutAt? '=' parameter with
  | none => none
  | some (name, value) =>
    if Text.lower (Text.trim name) = "charset".toList then
      Text.nonBlank? (String.ofList (dropQuotes (Text.trim value)))
    else none
where
  /-- The text without the double quotes at its ends. -/
  dropQuotes (s : List Char) : List Char :=
    ((s.dropWhile (· = '"')).reverse.dropWhile (· = '"')).reverse

/-- The encoding that a content type names. -/
def charset? (contentType : String) : Option String :=
  ((contentType.toList.splitOn ';').drop 1).findSome? charsetOfParameter?

/-- The bytes of the byte order mark of UTF-8. -/
def utf8Mark : List UInt8 := [0xEF, 0xBB, 0xBF]

/-- The bytes without a byte order mark of UTF-8. -/
def dropUtf8Mark (bytes : List UInt8) : List UInt8 :=
  if utf8Mark.isPrefixOf bytes then bytes.drop 3 else bytes

/-- The characters with the numbers of the bytes. -/
def byteChars (bytes : List UInt8) : List Char := bytes.map fun b => Char.ofNat b.toNat

/-- The bytes with the numbers of the characters. -/
def charBytes (s : List Char) : List UInt8 := s.map fun c => UInt8.ofNat c.toNat

/-- The XML declaration that a body starts with. The reader passes over a byte order mark of its
own, so there may be two. -/
def declaration? (body : List UInt8) : Option Xml.Tag :=
  match (Xml.Reader.ofChars (byteChars (dropUtf8Mark (dropUtf8Mark body)))).next with
  | .ok (some (.declaration tag, _)) => some tag
  | _ => none

/-- The encoding that the XML declaration of a body names. -/
def declaredEncoding? (body : List UInt8) : Option String := do
  let tag ← declaration? body
  let entry ← tag.attributesRepeating.attributes.find? (·.key = "encoding".toList)
  Text.nonBlank? (String.ofList (Utf8.decodeLossy (charBytes entry.value)))

/-- The label of the encoding of an answer, or the two labels that do not agree. -/
def encodingLabel (charset declared : Option String) : Except (String × String) String :=
  match charset, declared with
  | some c, some d => if Text.sameIgnoringCase c d then .ok c else .error (c, d)
  | some c, none => .ok c
  | none, some d => .ok d
  | none, none => .ok "UTF-8"

end MapServices.Response
