/-!
# The fewest digits that identify a double

A finite double stands for all the reals that round to it: an interval around its value, with both
ends included exactly when its significand is even. `shortest` selects the decimal number with the
fewest digits in that interval, and among those the one nearest to the value. All comparisons are
made on natural numbers, so the selection is exact.

* `Binary` is the value `m * 2 ^ q` of a finite double, taken from its bits.
* `Binary.readsBack` is the test that a decimal number lies in the interval.
* `Binary.shortest` tries one digit, two digits, and so on. On each grid of decimal numbers only the
  two neighbours of the value need a look: if the interval holds a point of the grid, it holds one
  of them.
-/

namespace MapServices.Decimal

/-- A non-negative decimal number, `digits * 10 ^ exponent`. -/
structure Number where
  digits : Nat
  exponent : Int
deriving DecidableEq, Repr

/-- The number with the trailing zeros of its digits moved into the exponent. -/
def Number.normalize : Number → Number
  | ⟨d, e⟩ => if h : d ≠ 0 ∧ d % 10 = 0 then normalize ⟨d / 10, e + 1⟩ else ⟨d, e⟩
termination_by x => x.digits
decreasing_by exact Nat.div_lt_self (by omega) (by omega)

/-- Which of two equally near candidates is taken. -/
inductive Tie where
  /-- The one with the even last digit. -/
  | toEven
  /-- The larger one. -/
  | upward
deriving DecidableEq, Repr

/-- The value `m * 2 ^ q` of a finite double. -/
structure Binary where
  m : Nat
  q : Int
  /-- The neighbour below is only half as far away as the neighbour above. -/
  narrowBelow : Bool
deriving DecidableEq, Repr

namespace Binary

/-- The magnitude of the finite double with these bits. -/
def ofBits (bits : UInt64) : Binary :=
  let exponent := ((bits >>> 52) &&& 0x7FF).toNat
  let fraction := (bits &&& 0xFFFFFFFFFFFFF).toNat
  if exponent = 0 then ⟨fraction, -1074, false⟩
  else ⟨0x10000000000000 + fraction, (exponent : Int) - 1075, fraction = 0 && exponent > 1⟩

/-- The order of `a * 10 ^ i` and `n * 2 ^ j`. -/
def compareScaled (a : Nat) (i : Int) (n : Nat) (j : Int) : Ordering :=
  compare (a * Nat.pow 10 i.toNat * Nat.pow 2 (-j).toNat)
    (n * Nat.pow 2 j.toNat * Nat.pow 10 (-i).toNat)

/-- Whether the decimal number is among the reals that round to the double. -/
def readsBack (x : Binary) (d : Number) : Bool :=
  let low := if x.narrowBelow then 4 * x.m - 1 else 4 * x.m - 2
  let high := 4 * x.m + 2
  let closed := x.m % 2 = 0
  let below := compareScaled d.digits d.exponent low (x.q - 2)
  let above := compareScaled d.digits d.exponent high (x.q - 2)
  (below = .gt || (closed && below = .eq)) && (above = .lt || (closed && above = .eq))

/-- The least exponent `k` with `m * 2 ^ q < 10 ^ k`, estimated from the binary logarithm and then
settled by exact comparison. -/
def scale (x : Binary) : Int :=
  let guess := ((x.m.log2 : Int) + x.q) * 30103 / 100000
  let candidates := [guess - 1, guess, guess + 1]
  (candidates.find? fun k => compareScaled 1 k x.m x.q = .gt).getD (guess + 2)

/-- The largest multiple of `10 ^ e` that is not above the value, as a count of `10 ^ e`. -/
def floorOn (x : Binary) (e : Int) : Nat :=
  (x.m * Nat.pow 2 x.q.toNat * Nat.pow 10 (-e).toNat) /
    (Nat.pow 2 (-x.q).toNat * Nat.pow 10 e.toNat)

/-- The nearer of the two neighbours on the grid of multiples of `10 ^ e`, if either reads back. -/
def onGrid? (x : Binary) (tie : Tie) (e : Int) : Option Number :=
  let low : Number := ⟨x.floorOn e, e⟩
  let high : Number := ⟨x.floorOn e + 1, e⟩
  match x.readsBack low, x.readsBack high with
  | false, false => none
  | true, false => some low
  | false, true => some high
  | true, true =>
    match compareScaled (2 * low.digits + 1) e (2 * x.m) x.q, tie with
    | .gt, _ => some low
    | .lt, _ => some high
    | .eq, .upward => some high
    | .eq, .toEven => some (if low.digits % 2 = 0 then low else high)

/-- The exact value as a decimal number. -/
def exact (x : Binary) : Number :=
  ⟨x.m * Nat.pow 2 x.q.toNat * Nat.pow 5 (-x.q).toNat, -((-x.q).toNat : Int)⟩

/-- The decimal number with the fewest digits that reads back, the nearest of those, and of two
equally near ones the one that `tie` names. -/
def shortest (x : Binary) (tie : Tie) : Number :=
  if x.m = 0 then ⟨0, 0⟩
  else
    let grids := (List.range 17).map fun (n : Nat) => x.scale - ((n : Int) + 1)
    ((grids.findSome? (x.onGrid? tie)).getD x.exact).normalize

end Binary

end MapServices.Decimal
