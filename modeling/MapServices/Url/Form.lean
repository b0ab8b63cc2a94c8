import MapServices.Url.Percent

/-!
# Form encoding of parameters

Parameters of a query are written as `name=value` with ampersands between them. Letters, numerals
and four marks stand for themselves, a space is written as a plus sign, and every other byte is
written by its number.

* `formEncode` writes a text, and `formDecode` reads it back.
-/

namespace MapServices.Url

/-- Whether a byte stands for itself in a form. -/
def isFormSafe (b : UInt8) : Bool :=
  (48 ≤ b && b ≤ 57) || (65 ≤ b && b ≤ 90) || (97 ≤ b && b ≤ 122) ||
    b = 42 || b = 45 || b = 46 || b = 95

/-- A byte as it is written in a form. -/
def formByte (b : UInt8) : List Char :=
  if isFormSafe b then [Char.ofNat b.toNat]
  else if b = 32 then ['+']
  else percentByte b

/-- A text as it is written in a form. -/
def formEncode (s : List Char) : List Char := (Utf8.encode s).flatMap formByte

/-- The text that a part of a form spells. -/
def formDecode (s : List Char) : List Char :=
  Utf8.decodeLossy (percentDecode (Utf8.encode (s.map fun c => if c = '+' then ' ' else c)))

/-- A parameter as it is written in a form. -/
def formPair (pair : String × String) : List Char :=
  formEncode pair.1.toList ++ '=' :: formEncode pair.2.toList

/-- Parameters as they are written in a form. -/
def formPairs (pairs : List (String × String)) : List Char :=
  ['&'].intercalate (pairs.map formPair)

end MapServices.Url
