import MapServices.Text.Ascii
import MapServices.Unicode.Direction
import MapServices.Unicode.Normal
import MapServices.Url.Preferred
import MapServices.Url.Punycode

/-!
# Domain names

A domain name is written in lower case and in ASCII. Its characters are first replaced by their
preferred forms and composed. Each label that still holds a character beyond ASCII is then written
in Punycode after `xn--`. A label that already is in Punycode must stand for one that a name may
hold.

* `label?` gives the label that a part of a name stands for, and `isValid` tells which a name may
  hold.
* `toAscii?` gives the written form of a name.
-/

namespace MapServices.Url.Domain

open Unicode

/-- Whether the character may not stand in a domain name. -/
def isForbidden (c : Char) : Bool :=
  c.toNat ≤ 0x20 || c = '\x7f' || "#%/:<>?@[\\]^|".toList.contains c

/-- What a label in Punycode starts with. -/
def asciiMark : List Char := ['x', 'n', '-', '-']

/-- Whether a name may hold the label: it is not in Punycode, its characters are preferred and
composed, the first one is no mark, and no sign parts or joins characters where it has no effect. -/
def isValid (label : List Char) : Bool :=
  !asciiMark.isPrefixOf label && label.all (fun c => c ≠ '.' && preferred? c = some [c]) &&
    compose label = label && !label.head?.any isMark && allMayStand [] label

/-- The label that a part of a name is, or stands for in Punycode. Only a label with a character
beyond ASCII is written in Punycode. -/
def meant? (part : List Char) : Option (List Char) :=
  match Text.afterStart? asciiMark part with
  | none => some part
  | some digits => do
    let label ← Punycode.decode? digits
    if label.any (128 ≤ ·.toNat) && Punycode.encode label = digits then some label else none

/-- The label that a part of a name stands for, if a name may hold it. -/
def label? (part : List Char) : Option (List Char) := (meant? part).filter isValid

/-- Whether the labels can stand in one name: if one has characters that are written from right to
left, each must be read in one way. -/
def fitTogether (labels : List (List Char)) : Bool :=
  !labels.any (·.any isRightToLeft) || labels.all fitsDirection

/-- A label in ASCII. -/
def written (label : List Char) : List Char :=
  if label.all (·.toNat < 128) then label else asciiMark ++ Punycode.encode label

/-- The name in lower case and in ASCII, or nothing if it is no domain name. -/
def toAscii? (name : List Char) : Option (List Char) := do
  let forms ← name.mapM preferred?
  let labels ← ((compose forms.flatten).splitOn '.').mapM label?
  let result := ['.'].intercalate (labels.map written)
  if fitTogether labels && !result.any isForbidden then some result else none

end MapServices.Url.Domain
