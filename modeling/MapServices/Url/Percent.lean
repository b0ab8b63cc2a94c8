import MapServices.Encoding.Utf8

/-!
# Percent-encoding

A byte that may not stand in a part of an address is written as a percent sign and two hexadecimal
digits. Which characters that concerns depends on the part; a character beyond ASCII is always
written by the bytes of its UTF-8 form.
-/

namespace MapServices.Url

/-- Whether the character is a control or lies beyond ASCII. -/
def isControlOrForeign (c : Char) : Bool := c.toNat < 0x20 || 0x7F ≤ c.toNat

/-- Whether the character is encoded in a fragment. -/
def isFragmentEncoded (c : Char) : Bool :=
  isControlOrForeign c || c = ' ' || c = '"' || c = '<' || c = '>' || c = '`'

/-- Whether the character is encoded in a query. The apostrophe is encoded in special addresses. -/
def isQueryEncoded (special : Bool) (c : Char) : Bool :=
  isControlOrForeign c || c = ' ' || c = '"' || c = '#' || c = '<' || c = '>' ||
    (special && c = '\'')

/-- Whether the character is encoded in a path. -/
def isPathEncoded (c : Char) : Bool :=
  isControlOrForeign c || c = ' ' || c = '"' || c = '#' || c = '<' || c = '>' || c = '?' ||
    c = '`' || c = '\x7b' || c = '\x7d'

/-- Whether the character is encoded in a user name or a password. -/
def isUserEncoded (c : Char) : Bool :=
  isPathEncoded c || c = '/' || c = ':' || c = ';' || c = '=' || c = '@' || c = '[' || c = '\\' ||
    c = ']' || c = '^' || c = '|'

/-- A hexadecimal digit in upper case. -/
def upperHexDigit (n : Nat) : Char := (Nat.digitChar n).toUpper

/-- A byte as a percent sign and two digits. -/
def percentByte (b : UInt8) : List Char :=
  ['%', upperHexDigit (b.toNat / 16), upperHexDigit (b.toNat % 16)]

/-- A character, written by its bytes if it must be encoded. -/
def percentChar (encoded : Char → Bool) (c : Char) : List Char :=
  if encoded c then (String.utf8EncodeChar c).flatMap percentByte else [c]

/-- The text with the characters encoded that must be. -/
def percentEncode (encoded : Char → Bool) (s : List Char) : List Char :=
  s.flatMap (percentChar encoded)

/-- The value of a hexadecimal digit. -/
def hexValue? (b : UInt8) : Option UInt8 :=
  if 48 ≤ b && b ≤ 57 then some (b - 48)
  else if 65 ≤ b && b ≤ 70 then some (b - 55)
  else if 97 ≤ b && b ≤ 102 then some (b - 87)
  else none

/-- The bytes with each percent sign and two digits replaced by the byte they spell. -/
def percentDecode : List UInt8 → List UInt8
  | 37 :: h :: l :: rest =>
    match hexValue? h, hexValue? l with
    | some a, some b => (16 * a + b) :: percentDecode rest
    | _, _ => 37 :: percentDecode (h :: l :: rest)
  | b :: rest => b :: percentDecode rest
  | [] => []

end MapServices.Url
