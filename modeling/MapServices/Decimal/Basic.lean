import MapServices.Text.Ascii

/-!
# Reading numbers

The grammar of numbers in text and their values. A floating-point number has an optional sign,
decimal digits with at most one point among or beside them, and an optional exponent; or it is one
of the words `inf`, `infinity` and `nan` in any letter case. Its value is the nearest double: too
large a number reads as infinity and too small a one as zero. An unsigned integer is an optional
plus sign and decimal digits.

Neither grammar allows space, underscores or other bases; a caller that tolerates space trims first.
-/

namespace MapServices.Decimal

/-- Positive infinity. -/
def infinity : Float := Float.ofBits 0x7FF0000000000000

/-- The value that is no number. -/
def notANumber : Float := Float.ofBits 0x7FF8000000000000

/-- The value of a row of decimal digits. -/
def digitsValue (digits : List Char) : Nat :=
  digits.foldl (fun n c => 10 * n + (c.toNat - '0'.toNat)) 0

/-- The double nearest to `m * 10 ^ e`. Exponents that decide the answer by themselves are cut off
first, so that no power of ten is computed which the digits cannot make up for. -/
def scaled (m : Nat) (e : Int) : Float :=
  if m = 0 then 0
  else if 400 < e then infinity
  else if e < -(401 + (m.log2 : Int)) then 0
  else Float.ofScientific m (e < 0) e.natAbs

/-- Splits off a leading sign; `true` stands for minus. -/
def readSign : List Char → Bool × List Char
  | '+' :: s => (false, s)
  | '-' :: s => (true, s)
  | s => (false, s)

/-- The exponent that a whole text spells: nothing, or `e`, a sign and digits. -/
def readExponent? : List Char → Option Int
  | [] => some 0
  | c :: s =>
    let (negative, digits) := readSign s
    if (c = 'e' || c = 'E') && !digits.isEmpty && digits.all Char.isDigit then
      let n : Int := digitsValue digits
      some (if negative then -n else n)
    else none

/-- The number `m * 10 ^ e` that a text without a sign spells in digits. -/
def readUnsigned? (s : List Char) : Option (Nat × Int) :=
  let (whole, rest) := s.span Char.isDigit
  let (fraction, rest) := match rest with
    | '.' :: r => r.span Char.isDigit
    | r => ([], r)
  if whole.isEmpty && fraction.isEmpty then none
  else (readExponent? rest).map fun e => (digitsValue (whole ++ fraction), e - fraction.length)

/-- The double that a text without a sign spells, in digits or as one of the words. -/
def readMagnitude? (s : List Char) : Option Float :=
  match readUnsigned? s with
  | some (m, e) => some (scaled m e)
  | none =>
    let word := String.ofList (Text.lower s)
    if word = "inf" || word = "infinity" then some infinity
    else if word = "nan" then some notANumber
    else none

/-- The double that a text spells. -/
def readFloat? (s : List Char) : Option Float :=
  let (negative, magnitude) := readSign s
  (readMagnitude? magnitude).map fun x => if negative then -x else x

/-- The number below `bound` that a text spells in digits, after an optional plus sign. -/
def readNatBelow? (bound : Nat) (s : List Char) : Option Nat :=
  let digits := match s with
    | '+' :: r => r
    | r => r
  if !digits.isEmpty && digits.all Char.isDigit && digitsValue digits < bound then
    some (digitsValue digits)
  else none

end MapServices.Decimal
