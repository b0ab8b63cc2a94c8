/-!
# UTF-16

Bytes are paired into units, and units are decoded one at a time. A lead surrogate waits for the
next unit: a trail surrogate completes a character, and any other unit makes the lead a fault and
is then looked at afresh. Whatever is left over at the end, a lead surrogate or a byte without its
partner or both, is one fault.
-/

namespace MapServices.Utf16

/-- The order of the two bytes of a unit. -/
inductive ByteOrder where
  /-- The low byte comes first. -/
  | little
  /-- The high byte comes first. -/
  | big
deriving DecidableEq, Repr

/-- The unit of two bytes. -/
def unit (order : ByteOrder) (first second : UInt8) : Nat :=
  match order with
  | .little => first.toNat + 256 * second.toNat
  | .big => 256 * first.toNat + second.toNat

/-- Whether the unit is the first half of a character. -/
def isLead (u : Nat) : Bool := 0xD800 ≤ u && u < 0xDC00

/-- Whether the unit is the second half of a character. -/
def isTrail (u : Nat) : Bool := 0xDC00 ≤ u && u < 0xE000

/-- What a unit gives when no lead surrogate waits: a character, a fault or a lead surrogate. -/
def first (u : Nat) : List (Option Char) × Option Nat :=
  if isLead u then ([], some u)
  else if isTrail u then ([none], none)
  else ([some (Char.ofNat u)], none)

/-- What a unit gives after the lead surrogate that may be waiting. -/
def step (lead? : Option Nat) (u : Nat) : List (Option Char) × Option Nat :=
  match lead? with
  | none => first u
  | some lead =>
    if isTrail u then
      ([some (Char.ofNat (0x10000 + (lead - 0xD800) * 1024 + (u - 0xDC00)))], none)
    else
      let (out, next) := first u
      (none :: out, next)

/-- Decodes bytes after the lead surrogate that may be waiting. -/
def decodeFrom (order : ByteOrder) (lead? : Option Nat) : List UInt8 → List (Option Char)
  | [] => if lead?.isSome then [none] else []
  | [_] => [none]
  | b :: b' :: rest =>
    let (out, next) := step lead? (unit order b b')
    out ++ decodeFrom order next rest

/-- The characters of the bytes, with nothing in the place of each fault. -/
def decode (order : ByteOrder) (bytes : List UInt8) : List (Option Char) :=
  decodeFrom order none bytes

end MapServices.Utf16
