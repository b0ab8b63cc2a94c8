import MapServices.Url.Ipv4

/-!
# Addresses of 128 bits

An address is eight pieces of 16 bits, written in hexadecimal with colons between them. A double
colon stands for one zero piece or more, and the last two pieces may be written like an address of
32 bits. The written form leaves out the first longest run of two zero pieces or more.
-/

namespace MapServices.Url.Ipv6

/-- The piece that up to four hexadecimal digits spell. -/
def readPiece? (s : List Char) : Option Nat :=
  if 1 ≤ s.length && s.length ≤ 4 then Ipv4.valueIn? 16 s else none

/-- A byte in decimal digits, without zeros in front. -/
def readByte? (s : List Char) : Option Nat :=
  match s with
  | ['0'] => some 0
  | '0' :: _ | [] => none
  | _ =>
    if s.length ≤ 3 && s.all Char.isDigit && Decimal.digitsValue s ≤ 255 then
      some (Decimal.digitsValue s)
    else none

/-- The two pieces that four bytes with points between them spell. -/
def readDotted? (s : List Char) : Option (List Nat) := do
  match ← (s.splitOn '.').mapM readByte? with
  | [a, b, c, d] => some [256 * a + b, 256 * c + d]
  | _ => none

/-- The pieces of a part of an address without a double colon. Only at the end of the whole address
may two pieces be written with points. -/
def readPieces? (atEnd : Bool) (s : List Char) : Option (List Nat) :=
  if s.isEmpty then some []
  else do
    let groups := s.splitOn ':'
    let last ← groups.getLast?
    let front ← groups.dropLast.mapM readPiece?
    let back ← if atEnd && last.contains '.' then readDotted? last else (readPiece? last).map ([·])
    return front ++ back

/-- The eight pieces of an address. -/
def read? (s : List Char) : Option (List Nat) :=
  match Text.cut? [':', ':'] s with
  | some (front, back) => do
    let a ← readPieces? false front
    let b ← readPieces? true back
    if a.length + b.length ≤ 7 then
      some (a ++ List.replicate (8 - a.length - b.length) 0 ++ b)
    else none
  | none => do
    let pieces ← readPieces? true s
    if pieces.length = 8 then some pieces else none

/-- How many zeros the list starts with. -/
def leadingZeros (pieces : List Nat) : Nat := (pieces.takeWhile (· = 0)).length

/-- The place and the length of the first longest run of two zero pieces or more. -/
def longestZeros? (pieces : List Nat) : Option (Nat × Nat) :=
  let runs := (List.range pieces.length).map fun i => (i, leadingZeros (pieces.drop i))
  let best := runs.foldl (fun best run => if best.2 < run.2 then run else best) (0, 1)
  if 2 ≤ best.2 then some best else none

/-- Pieces in hexadecimal with colons between them. -/
def printPieces (pieces : List Nat) : List Char :=
  [':'].intercalate (pieces.map (Nat.toDigits 16))

/-- The address in its written form. -/
def print (pieces : List Nat) : List Char :=
  match longestZeros? pieces with
  | some (start, length) =>
    printPieces (pieces.take start) ++ [':', ':'] ++ printPieces (pieces.drop (start + length))
  | none => printPieces pieces

end MapServices.Url.Ipv6
