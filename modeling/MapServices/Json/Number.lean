import MapServices.Json.Basic
import MapServices.Decimal.Basic
import MapServices.Decimal.Layout

/-!
# Numbers in JSON

Integers are read exactly and must fit 64 bits with a sign. A floating-point number is computed from
at most 64 bits of its digits by one multiplication with, or division by, a power of ten: exact for
the numbers people write, and at most a few units of the last place away otherwise. A number beyond
the range of doubles is refused.

* `layout` is how a double is written: positionally from `1e-5` up to `1e16`, a whole number with
  `.0`, and otherwise with a signed exponent.
* `ofFloat` writes what is no finite number as `null`.
-/

namespace MapServices.Json

/-- The decisions of the JSON text of a double. -/
def layout : Decimal.Layout where
  tie := .toEven
  positional := fun e => -5 ≤ e && e < 16
  pointZero := true

/-- A double as a JSON value. -/
def ofFloat (x : Float) : Json :=
  if x.isFinite then .number (layout.render x).toList else .null

/-- Whether the text of a number is that of an integer. -/
def isInteger (written : List Char) : Bool := written.all fun c => c.isDigit || c = '-'

/-- The integer that a number is, if it fits 64 bits with a sign. A zero with a sign is no
integer. -/
def integer? (written : List Char) : Option Int :=
  let (negative, digits) := Decimal.readSign written
  let n := Decimal.digitsValue digits
  if !isInteger written then none
  else if negative then (if 0 < n && n ≤ 0x8000000000000000 then some (-n) else none)
  else if n < 0x8000000000000000 then some n
  else none

/-- The longest row of digits from the front that stays below `2 ^ 64`: its value, and how many
digits are left over. -/
def takeDigits (n : Nat) : List Char → Nat × Nat
  | [] => (n, 0)
  | c :: s =>
    let m := 10 * n + (c.toNat - '0'.toNat)
    if m < 0x10000000000000000 then takeDigits m s else (n, s.length + 1)

/-- The double `x * 10 ^ e`, in steps within the range of doubles, or nothing if it is beyond. -/
def power? (x : Float) (e : Int) : Option Float :=
  if 308 < e then (if x == 0 then some x else none)
  else if 0 ≤ e then
    let y := x * Decimal.scaled 1 e
    if y.isInf then none else some y
  else if e < -308 * 4 then some 0
  else if -308 ≤ e then some (x / Decimal.scaled 1 (-e))
  else power? (x / Decimal.scaled 1 308) (e + 308)
termination_by (-e).toNat

/-- The double that a non-negative number is, from its digits before and after the point and its
exponent. -/
def magnitude? (whole fraction : List Char) (exponent : Int) : Option Float :=
  let (n, dropped) := takeDigits 0 whole
  let (m, unread) := takeDigits n fraction
  let places : Int := dropped + unread - fraction.length
  power? (Float.ofNat m) (places + exponent)

/-- The double that a number is. -/
def float? (written : List Char) : Option Float :=
  let (negative, s) := Decimal.readSign written
  let whole := s.takeWhile Char.isDigit
  let rest := s.dropWhile Char.isDigit
  let (fraction, rest) := match rest with
    | '.' :: r => (r.takeWhile Char.isDigit, r.dropWhile Char.isDigit)
    | r => ([], r)
  match Decimal.readExponent? rest with
  | none => none
  | some exponent =>
    (magnitude? whole fraction exponent).map fun x => if negative then -x else x

end MapServices.Json
