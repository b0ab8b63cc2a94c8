import MapServices.Encoding.MultiByte

/-!
# ISO-2022-JP

All bytes are below 80. Escape sequences of three bytes tell how the bytes after them are to be
read: as ASCII, as the variant of it with yen sign and overline, as half width katakana, or in pairs
as entries of an index table. A text starts in ASCII.

The escape sequences are no part of the text. One that stands right behind another is a fault, and
so is an escape character that starts no sequence.
-/

namespace MapServices.Iso2022Jp

open Encoding (Indexes)

/-- How bytes are read. -/
inductive Mode where
  | ascii
  | roman
  | katakana
  | pairs
deriving DecidableEq, Repr

/-- The mode that the two bytes after an escape character switch to. -/
def modeOf? (a b : UInt8) : Option Mode :=
  if a = 0x28 ∧ b = 0x42 then some .ascii
  else if a = 0x28 ∧ b = 0x4A then some .roman
  else if a = 0x28 ∧ b = 0x49 then some .katakana
  else if a = 0x24 ∧ (b = 0x40 ∨ b = 0x42) then some .pairs
  else none

/-- The character of a byte that is ASCII and no control character with a meaning of its own. -/
def plainChar? (b : UInt8) : Option Char :=
  if b.toNat < 0x80 ∧ b ≠ 0x0E ∧ b ≠ 0x0F then some (Char.ofNat b.toNat) else none

/-- The character of a byte where bytes are not read in pairs. -/
def single? (mode : Mode) (b : UInt8) : Option Char :=
  match mode with
  | .ascii => plainChar? b
  | .roman => if b = 0x5C then some '¥' else if b = 0x7E then some '‾' else plainChar? b
  | .katakana =>
    if 0x21 ≤ b.toNat ∧ b.toNat ≤ 0x5F then some (Char.ofNat (0xFF61 + (b.toNat - 0x21))) else none
  | .pairs => none

/-- Whether the byte can be part of a pair. -/
def isHalf (b : UInt8) : Bool := 0x21 ≤ b.toNat && b.toNat ≤ 0x7E

/-- The character of a pair. -/
def pair? (indexes : Indexes) (lead trail : UInt8) : Option Char :=
  if isHalf trail then
    (indexes.jis0208 ((lead.toNat - 0x21) * 94 + (trail.toNat - 0x21))).map (·.val)
  else none

/-- Where a decoder stands. -/
structure State where
  mode : Mode := .ascii
  /-- Whether the bytes stand right behind an escape sequence. -/
  switched : Bool := false
deriving DecidableEq, Repr

/-- The mode that an escape character and the bytes behind it switch to. -/
def escape? : List UInt8 → Option Mode
  | a :: b :: _ => modeOf? a b
  | _ => none

/-- What stands at the start of bytes, and where the decoder stands behind it. -/
def step (indexes : Indexes) (q : State) (b : UInt8) (rest : List UInt8) :
    MultiByte.Piece × State :=
  let after : State := { mode := q.mode }
  if b = 0x1B then
    match escape? rest with
    | some mode => (⟨if q.switched then [none] else [], 2⟩, { mode, switched := true })
    | none => (.fault 0, after)
  else if q.mode = .pairs ∧ isHalf b then
    match rest with
    | [] => (.fault 0, after)
    | trail :: _ =>
      if trail = 0x1B then (.fault 0, after) else (⟨[pair? indexes b trail], 1⟩, after)
  else (⟨[single? q.mode b], 0⟩, after)

/-- The characters of bytes, behind `taken` bytes that belong to what was read before. -/
def decodeFrom (indexes : Indexes) : State → Nat → List UInt8 → List (Option Char)
  | _, _, [] => []
  | q, 0, b :: rest =>
    let (piece, q') := step indexes q b rest
    piece.characters ++ decodeFrom indexes q' piece.taken rest
  | q, taken + 1, _ :: rest => decodeFrom indexes q taken rest

/-- The characters of the bytes, with nothing in the place of each fault. -/
def decode (indexes : Indexes) (bytes : List UInt8) : List (Option Char) :=
  decodeFrom indexes {} 0 bytes

end MapServices.Iso2022Jp
