/-!
# Encodings with several bytes per character

A byte below 80 is a character of ASCII. A byte from 80 on starts a sequence, and an index table
tells the character of the sequence by its number. The tables are not part of this library: whoever
decodes brings them along. No character of ASCII is listed in them.

A sequence that is no character is a fault. If it ends with a byte of ASCII, that byte is no part of
the fault and is looked at afresh.

* `MultiByte.piece` is what stands at the start of bytes.
* `MultiByte.decode` goes through bytes piece by piece.
-/

namespace MapServices

/-- A character beyond ASCII. -/
def ForeignChar : Type := { c : Char // 0x80 ≤ c.toNat }

/-- The index tables of the encodings with several bytes per character. -/
structure Encoding.Indexes where
  jis0208 : Nat → Option ForeignChar := fun _ => none
  jis0212 : Nat → Option ForeignChar := fun _ => none
  big5 : Nat → Option ForeignChar := fun _ => none
  gb18030 : Nat → Option ForeignChar := fun _ => none
  /-- The sequences of four bytes in gb18030, for characters below U+10000. -/
  gb18030Ranges : Nat → Option ForeignChar := fun _ => none
  eucKr : Nat → Option ForeignChar := fun _ => none

/-- The encodings with several bytes per character. -/
inductive MultiByte where
  | gb18030
  | big5
  | eucJp
  | shiftJis
  | eucKr
deriving DecidableEq, Repr

namespace MultiByte

open Encoding (Indexes)

/-- What stands at the start of bytes. -/
structure Piece where
  /-- The characters, with nothing in the place of a fault. -/
  characters : List (Option Char)
  /-- How many bytes belong to it besides the first one. -/
  taken : Nat

/-- The fault that the first byte makes together with the given number of other bytes. -/
def Piece.fault (taken : Nat) : Piece := ⟨[none], taken⟩

/-- How many bytes a fault takes of one byte that may be ASCII. -/
def foreignCount (b : UInt8) : Nat := if b.toNat < 0x80 then 0 else 1

/-- The character of an entry in an index table. -/
def entry (index : Nat → Option ForeignChar) (pointer : Nat) : List Char :=
  (index pointer).toList.map (·.val)

/-! ### Sequences of two bytes -/

/-- An encoding whose sequences have two bytes at most. Its functions are about bytes from 80 on.
-/
structure DoubleByte where
  /-- The character that a byte is by itself. -/
  single : Nat → Option Char := fun _ => none
  /-- Whether a sequence starts with the byte. -/
  isLead : Nat → Bool := fun b => 0x81 ≤ b && b ≤ 0xFE
  /-- The characters of a sequence, if it has any. -/
  pair : Nat → Nat → List Char

/-- What stands at the start of bytes if no sequence is longer than two bytes. -/
def DoubleByte.piece (d : DoubleByte) (b : UInt8) (rest : List UInt8) : Piece :=
  if b.toNat < 0x80 then ⟨[some (Char.ofNat b.toNat)], 0⟩
  else match d.single b.toNat with
  | some c => ⟨[some c], 0⟩
  | none =>
    if d.isLead b.toNat then
      match rest with
      | [] => .fault 0
      | trail :: _ =>
        match d.pair b.toNat trail.toNat with
        | [] => .fault (foreignCount trail)
        | c :: cs => ⟨(c :: cs).map some, 1⟩
    else .fault 0

/-- The place of a second byte in its row, where second bytes come from 40 to 7E and then from
`upper` to `last`. -/
def trailPlace? (upper last : Nat) (trail : Nat) : Option Nat :=
  if 0x40 ≤ trail ∧ trail ≤ 0x7E then some (trail - 0x40)
  else if upper ≤ trail ∧ trail ≤ last then some (trail - upper + 63)
  else none

/-- The half width katakana letter of a byte from A1 to DF. -/
def katakana (b : Nat) : Char := Char.ofNat (0xFF61 + (b - 0xA1))

/-- The characters of an entry of Big5. Four entries have two characters each. -/
def big5Entry (indexes : Indexes) (pointer : Nat) : List Char :=
  if pointer = 1133 then ['\u00CA', '\u0304']
  else if pointer = 1135 then ['\u00CA', '\u030C']
  else if pointer = 1164 then ['\u00EA', '\u0304']
  else if pointer = 1166 then ['\u00EA', '\u030C']
  else entry indexes.big5 pointer

def big5Pairs (indexes : Indexes) : DoubleByte where
  pair lead trail :=
    match trailPlace? 0xA1 0xFE trail with
    | none => []
    | some place => big5Entry indexes ((lead - 0x81) * 157 + place)

def eucKrPairs (indexes : Indexes) : DoubleByte where
  pair lead trail :=
    if 0x41 ≤ trail ∧ trail ≤ 0xFE then
      entry indexes.eucKr ((lead - 0x81) * 190 + (trail - 0x41))
    else []

/-- The characters of an entry of Shift_JIS. Some entries are in the private use area. -/
def shiftJisEntry (indexes : Indexes) (pointer : Nat) : List Char :=
  if 8836 ≤ pointer ∧ pointer ≤ 10715 then [Char.ofNat (0xE000 + (pointer - 8836))]
  else entry indexes.jis0208 pointer

def shiftJisPairs (indexes : Indexes) : DoubleByte where
  single b :=
    if b = 0x80 then some '\u0080'
    else if 0xA1 ≤ b ∧ b ≤ 0xDF then some (katakana b)
    else none
  isLead b := (0x81 ≤ b && b ≤ 0x9F) || (0xE0 ≤ b && b ≤ 0xFC)
  pair lead trail :=
    match trailPlace? 0x80 0xFC trail with
    | none => []
    | some place =>
      shiftJisEntry indexes ((lead - if lead < 0xA0 then 0x81 else 0xC1) * 188 + place)

def gb18030Pairs (indexes : Indexes) : DoubleByte where
  single b := if b = 0x80 then some '€' else none
  pair lead trail :=
    match trailPlace? 0x80 0xFE trail with
    | none => []
    | some place => entry indexes.gb18030 ((lead - 0x81) * 190 + place)

/-- The characters of two bytes that are both from A1 on. -/
def rowEntry (index : Nat → Option ForeignChar) (row place : Nat) : List Char :=
  if 0xA1 ≤ place ∧ place ≤ 0xFE then entry index ((row - 0xA1) * 94 + (place - 0xA1)) else []

def eucJpPairs (indexes : Indexes) : DoubleByte where
  isLead b := b = 0x8E || b = 0x8F || (0xA1 ≤ b && b ≤ 0xFE)
  pair lead trail :=
    if lead = 0x8E then if 0xA1 ≤ trail ∧ trail ≤ 0xDF then [katakana trail] else []
    else if lead = 0x8F then []
    else rowEntry indexes.jis0208 lead trail

/-! ### Longer sequences -/

/-- What three bytes of EUC-JP are, the first of which is 8F. -/
def eucJpTriple (indexes : Indexes) (second : UInt8) : List UInt8 → Piece
  | [] => .fault 1
  | third :: _ =>
    match rowEntry indexes.jis0212 second.toNat third.toNat with
    | [] => .fault (1 + foreignCount third)
    | c :: cs => ⟨(c :: cs).map some, 2⟩

def eucJpPiece (indexes : Indexes) (b : UInt8) (rest : List UInt8) : Piece :=
  match rest with
  | second :: more =>
    if b = 0x8F ∧ 0xA1 ≤ second.toNat ∧ second.toNat ≤ 0xFE then eucJpTriple indexes second more
    else (eucJpPairs indexes).piece b rest
  | [] => (eucJpPairs indexes).piece b rest

/-- The character of four bytes of gb18030. -/
def gb18030Entry (indexes : Indexes) (pointer : Nat) : Option Char :=
  if 39419 < pointer ∧ pointer < 189000 ∨ 1237575 < pointer then none
  else if pointer = 7457 then some '\uE7C7'
  else if 189000 ≤ pointer then some (Char.ofNat (0x10000 + (pointer - 189000)))
  else (indexes.gb18030Ranges pointer).map (·.val)

/-- Whether a byte is a digit of ASCII. -/
def isDigit (b : UInt8) : Bool := 0x30 ≤ b.toNat && b.toNat ≤ 0x39

/-- What four bytes of gb18030 are, the second of which is a digit. -/
def gb18030Quadruple (indexes : Indexes) (first second : UInt8) : List UInt8 → Piece
  | [] => .fault 1
  | third :: more =>
    if 0x81 ≤ third.toNat ∧ third.toNat ≤ 0xFE then
      match more with
      | [] => .fault 2
      | fourth :: _ =>
        if isDigit fourth then
          ⟨[gb18030Entry indexes ((first.toNat - 0x81) * 12600 + (second.toNat - 0x30) * 1260 +
            (third.toNat - 0x81) * 10 + (fourth.toNat - 0x30))], 3⟩
        else .fault 0
    else .fault 0

def gb18030Piece (indexes : Indexes) (b : UInt8) (rest : List UInt8) : Piece :=
  match rest with
  | second :: more =>
    if 0x81 ≤ b.toNat ∧ b.toNat ≤ 0xFE ∧ isDigit second then
      gb18030Quadruple indexes b second more
    else (gb18030Pairs indexes).piece b rest
  | [] => (gb18030Pairs indexes).piece b rest

/-! ### Decoding -/

/-- What stands at the start of bytes. -/
def piece (indexes : Indexes) : MultiByte → UInt8 → List UInt8 → Piece
  | gb18030 => gb18030Piece indexes
  | big5 => (big5Pairs indexes).piece
  | eucJp => eucJpPiece indexes
  | shiftJis => (shiftJisPairs indexes).piece
  | eucKr => (eucKrPairs indexes).piece

/-- The characters of the pieces that bytes are made of, behind `taken` bytes of the piece before.
-/
def decodeFrom (piece : UInt8 → List UInt8 → Piece) : Nat → List UInt8 → List (Option Char)
  | _, [] => []
  | 0, b :: rest => (piece b rest).characters ++ decodeFrom piece (piece b rest).taken rest
  | taken + 1, _ :: rest => decodeFrom piece taken rest

/-- The characters of the bytes, with nothing in the place of each fault. -/
def decode (indexes : Indexes) (m : MultiByte) (bytes : List UInt8) : List (Option Char) :=
  decodeFrom (m.piece indexes) 0 bytes

end MultiByte

end MapServices
