/-!
# UTF-8

Bytes are decoded one at a time. A byte that cannot continue the sequence under way ends it as a
malformed one and is then looked at afresh, so that each maximal malformed part of the input gives
one fault and well-formed text after it is not lost.

* `Utf8.decode` gives a character or a fault for each part of the input.
* `Utf8.encode` is the well-formed encoding of a text.
-/

namespace MapServices.Utf8

/-- The bytes of a text. -/
def encode (s : List Char) : List UInt8 := s.flatMap String.utf8EncodeChar

/-- Where a decoder stands in a sequence of bytes. -/
structure Pending where
  /-- How many bytes are still to come. -/
  needed : Nat
  /-- The least value of the next byte. -/
  low : Nat := 0x80
  /-- The greatest value of the next byte. -/
  high : Nat := 0xBF
  /-- The bits read so far. -/
  bits : Nat
deriving DecidableEq, Repr

/-- What a byte at the start of a sequence gives: a character, a fault or a sequence under way. -/
def first (b : Nat) : List (Option Char) × Option Pending :=
  if b < 0x80 then ([some (Char.ofNat b)], none)
  else if b < 0xC2 then ([none], none)
  else if b < 0xE0 then ([], some { needed := 1, bits := b - 0xC0 })
  else if b = 0xE0 then ([], some { needed := 2, low := 0xA0, bits := 0 })
  else if b = 0xED then ([], some { needed := 2, high := 0x9F, bits := 0xD })
  else if b < 0xF0 then ([], some { needed := 2, bits := b - 0xE0 })
  else if b = 0xF0 then ([], some { needed := 3, low := 0x90, bits := 0 })
  else if b < 0xF4 then ([], some { needed := 3, bits := b - 0xF0 })
  else if b = 0xF4 then ([], some { needed := 3, high := 0x8F, bits := 4 })
  else ([none], none)

/-- What a byte gives after the bytes in `pending`. -/
def step (pending : Option Pending) (b : Nat) : List (Option Char) × Option Pending :=
  match pending with
  | none => first b
  | some p =>
    if p.low ≤ b && b ≤ p.high then
      let bits := p.bits * 64 + (b - 0x80)
      if p.needed ≤ 1 then ([some (Char.ofNat bits)], none)
      else ([], some { needed := p.needed - 1, bits })
    else
      let (out, next) := first b
      (none :: out, next)

/-- Decodes bytes after those in `pending`. -/
def decodeFrom (pending : Option Pending) : List UInt8 → List (Option Char)
  | [] => if pending.isSome then [none] else []
  | b :: rest =>
    let (out, next) := step pending b.toNat
    out ++ decodeFrom next rest

/-- The characters of the bytes, with nothing in the place of each malformed part. -/
def decode (bytes : List UInt8) : List (Option Char) := decodeFrom none bytes

/-- The character that stands for malformed bytes. -/
def replacement : Char := '\uFFFD'

/-- The text of the bytes, with a replacement character for each malformed part. -/
def decodeLossy (bytes : List UInt8) : List Char := (decode bytes).map (·.getD replacement)

/-- The text of the bytes, if they are well formed. -/
def decode? (bytes : List UInt8) : Option (List Char) := (decode bytes).mapM id

end MapServices.Utf8
