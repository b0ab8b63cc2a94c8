import MapServices.Decimal.Shortest

/-!
# Writing floating-point numbers

The digits that identify a double are laid out as text by the decisions in a `Layout`: for which
magnitudes the point is written in its place, and what a whole number looks like. Otherwise one
digit, a point, the other digits and a signed exponent are written.

* `Layout.render` writes any double; infinities and the value that is no number are written as
  words.
* `plain` is the layout of measures in running text: the point is always written in its place.
-/

namespace MapServices.Decimal

/-- The decisions that turn digits into text. -/
structure Layout where
  /-- Which of two equally near digit sequences is taken. -/
  tie : Tie
  /-- Whether a number whose first digit counts `10 ^ e` is written without an exponent. -/
  positional : Int → Bool
  /-- Whether `.0` is appended to a whole number that is written without an exponent. -/
  pointZero : Bool

/-- The digits of a natural number in base ten, the first one not zero unless the number is. -/
def digitsOf (n : Nat) : List Char := Nat.toDigits 10 n

namespace Layout

/-- Writes the digits with the point in its place; `exponent` is the place of the last digit. -/
def positionalText (l : Layout) (digits : List Char) (exponent : Int) : List Char :=
  if 0 ≤ exponent then
    digits ++ List.replicate exponent.toNat '0' ++ (if l.pointZero then ['.', '0'] else [])
  else
    let places := (-exponent).toNat
    if places < digits.length then
      digits.take (digits.length - places) ++ '.' :: digits.drop (digits.length - places)
    else ['0', '.'] ++ List.replicate (places - digits.length) '0' ++ digits

/-- Writes one digit before the point and the exponent of that digit with its sign. -/
def scientificText (digits : List Char) (leading : Int) : List Char :=
  let mantissa := match digits with
    | d :: e :: rest => d :: '.' :: e :: rest
    | ds => ds
  let sign := if leading < 0 then '-' else '+'
  mantissa ++ 'e' :: sign :: digitsOf leading.natAbs

/-- Writes a non-negative decimal number. -/
def numberText (l : Layout) (n : Number) : List Char :=
  let digits := digitsOf n.digits
  let leading := n.exponent + digits.length - 1
  if l.positional leading then l.positionalText digits n.exponent
  else scientificText digits leading

/-- Writes a double. -/
def render (l : Layout) (x : Float) : String :=
  let sign := if x.toBits >>> 63 = 1 then ['-'] else []
  if x.isNaN then "NaN"
  else if x.isInf then String.ofList (sign ++ ['i', 'n', 'f'])
  else String.ofList (sign ++ l.numberText ((Binary.ofBits x.toBits).shortest l.tie))

end Layout

/-- Numbers in running text: no exponent, nothing after a whole number, and the larger of two
equally near candidates. -/
def plain : Layout where
  tie := .upward
  positional := fun _ => true
  pointZero := false

end MapServices.Decimal
