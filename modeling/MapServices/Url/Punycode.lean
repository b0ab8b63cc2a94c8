/-!
# Punycode

A label with characters beyond ASCII is written in ASCII: first its ASCII characters, then, after a
hyphen, the others as a row of differences. The differences go through the characters in ascending
order and tell where the next one is inserted. Each difference is a number with digits of base 36,
lowest first, in which the limits that mark the last digit adapt to the numbers seen so far.

* `encode` and `decode?` are the two directions.
-/

namespace MapServices.Url.Punycode

/-- A digit of base 36: the letters, then the numerals. -/
def digitChar (d : Nat) : Char :=
  if d < 26 then Char.ofNat ('a'.toNat + d) else Char.ofNat ('0'.toNat + (d - 26))

/-- The value of a digit. -/
def digitValue? (c : Char) : Option Nat :=
  if 'a' ≤ c && c ≤ 'z' then some (c.toNat - 'a'.toNat)
  else if 'A' ≤ c && c ≤ 'Z' then some (c.toNat - 'A'.toNat)
  else if c.isDigit then some (c.toNat - '0'.toNat + 26)
  else none

/-- The limit below which the digit at place `k` is the last one of a number. -/
def limit (bias k : Nat) : Nat := max 1 (min 26 (k - bias))

theorem limit_pos (bias k : Nat) : 0 < limit bias k := by simp only [limit]; omega

theorem limit_le (bias k : Nat) : limit bias k ≤ 26 := by simp only [limit]; omega

/-- Divides by 35 until the number is at most 455; each division adds 36 to the count. -/
def scaleDown (delta count : Nat) : Nat × Nat :=
  if 455 < delta then scaleDown (delta / 35) (count + 36) else (delta, count)
termination_by delta
decreasing_by exact Nat.div_lt_self (by omega) (by omega)

/-- The next bias after a difference, when `points` characters have been placed. -/
def adapt (delta points : Nat) (isFirst : Bool) : Nat :=
  let damped := if isFirst then delta / 700 else delta / 2
  let (rest, count) := scaleDown (damped + damped / points) 0
  count + 36 * rest / (rest + 38)

/-- The digits of a number from place `k` on. -/
def numberDigits (bias k n : Nat) : List Char :=
  let t := limit bias k
  if n < t then [digitChar n]
  else digitChar (t + (n - t) % (36 - t)) :: numberDigits bias (k + 36) ((n - t) / (36 - t))
termination_by n
decreasing_by
  have h := limit_pos bias k
  calc (n - limit bias k) / (36 - limit bias k)
      ≤ n - limit bias k := Nat.div_le_self ..
    _ < n := by omega

/-- The state of an encoder. -/
structure Encoder where
  delta : Nat := 0
  bias : Nat := 72
  /-- How many characters have been placed. -/
  placed : Nat
  /-- The digits written so far. -/
  written : List Char := []

/-- Looks at one character of the label while the characters with number `code` are placed. -/
def Encoder.visit (basic code : Nat) (e : Encoder) (c : Char) : Encoder :=
  if c.toNat < code then { e with delta := e.delta + 1 }
  else if c.toNat = code then
    { delta := 0
      bias := adapt e.delta (e.placed + 1) (e.placed = basic)
      placed := e.placed + 1
      written := e.written ++ numberDigits e.bias 36 e.delta }
  else e

/-- Places the characters with the given numbers, which ascend from `next` on. -/
def Encoder.placeAll (label : List Char) (basic : Nat) : List Nat → Nat → Encoder → Encoder
  | [], _, e => e
  | code :: codes, next, e =>
    let e := { e with delta := e.delta + (code - next) * (e.placed + 1) }
    let e := label.foldl (visit basic code) e
    placeAll label basic codes (code + 1) { e with delta := e.delta + 1 }

/-- The label in ASCII. -/
def encode (label : List Char) : List Char :=
  let basic := label.filter (·.toNat < 128)
  let codes := ((label.filter (128 ≤ ·.toNat)).map Char.toNat).eraseDups.mergeSort
  let e := Encoder.placeAll label basic.length codes 128 { placed := basic.length }
  basic ++ (if basic.isEmpty then [] else ['-']) ++ e.written

/-- Reads a number from place `k` on, of which `n` is known so far. -/
def readNumber? (bias : Nat) : (k weight n : Nat) → List Char → Option (Nat × List Char)
  | _, _, _, [] => none
  | k, weight, n, c :: rest => do
    let d ← digitValue? c
    let t := limit bias k
    if d < t then some (n + d * weight, rest)
    else readNumber? bias (k + 36) (weight * (36 - t)) (n + d * weight) rest

/-- Inserts characters into a label by the differences that are left. The next character has a
number from `code` on and goes behind `place` characters or further back. `fuel` bounds how many
there are. -/
def insertAll? : (fuel bias code place : Nat) → List Char → List Char → Option (List Char)
  | _, _, _, _, label, [] => some label
  | 0, _, _, _, _, _ :: _ => none
  | fuel + 1, bias, code, place, label, s => do
    let (delta, rest) ← readNumber? bias 36 1 0 s
    let points := label.length + 1
    let code := code + (place + delta) / points
    let index := (place + delta) % points
    if code.isValidChar then
      let label := label.take index ++ Char.ofNat code :: label.drop index
      insertAll? fuel (adapt delta points (place = 0)) code (index + 1) label rest
    else none

/-- The label that a text in ASCII stands for. -/
def decode? (s : List Char) : Option (List Char) :=
  let pieces := s.splitOn '-'
  let basic := (['-'].intercalate pieces.dropLast)
  let digits := (pieces.getLast?).getD []
  if basic.all (·.toNat < 128) then insertAll? digits.length 72 128 0 basic digits else none

end MapServices.Url.Punycode
