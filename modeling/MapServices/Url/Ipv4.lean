import MapServices.Text.Ascii
import MapServices.Decimal.Basic

/-!
# Addresses of 32 bits

An address is written as four numbers with points between them. When read, there may be fewer
numbers, of which the last fills the remaining bytes, and each may be decimal, octal after a zero,
or hexadecimal after `0x`. A host name whose last part is a number is such an address or no host
at all.
-/

namespace MapServices.Url.Ipv4

/-- The value of a digit in a base up to sixteen. -/
def digitValue? (c : Char) : Option Nat :=
  if c.isDigit then some (c.toNat - '0'.toNat)
  else if 'a' ≤ c && c ≤ 'f' then some (c.toNat - 'a'.toNat + 10)
  else if 'A' ≤ c && c ≤ 'F' then some (c.toNat - 'A'.toNat + 10)
  else none

/-- The value of digits in a base up to sixteen, if all of them are digits of the base. -/
def valueIn? (base : Nat) (digits : List Char) : Option Nat :=
  digits.foldlM (fun n c =>
    (digitValue? c).bind fun d => if d < base then some (base * n + d) else none) 0

/-- The number that a part of a host name is. -/
def readNumber? (part : List Char) : Option Nat :=
  match part with
  | [] => none
  | '0' :: 'x' :: digits | '0' :: 'X' :: digits => valueIn? 16 digits
  | '0' :: d :: digits => valueIn? 8 (d :: digits)
  | digits => valueIn? 10 digits

/-- The parts of a host name; a point at the end does not count. -/
def parts (host : List Char) : List (List Char) :=
  let all := host.splitOn '.'
  if 1 < all.length && all.getLast? = some [] then all.dropLast else all

/-- Whether the last part of a host name is a number. -/
def endsInNumber (host : List Char) : Bool :=
  match (parts host).getLast? with
  | some last => !last.isEmpty && (last.all Char.isDigit || (readNumber? last).isSome)
  | none => false

/-- The address that a host name spells, as a number below `2 ^ 32`. -/
def read? (host : List Char) : Option Nat := do
  let numbers ← (parts host).mapM readNumber?
  let last ← numbers.getLast?
  let bytes := numbers.dropLast
  let limit := Nat.pow 256 (4 - bytes.length)
  if bytes.length ≤ 3 && bytes.all (· ≤ 255) && last < limit then
    some (bytes.foldl (fun n b => 256 * n + b) 0 * limit + last)
  else none

/-- The address as four decimal numbers with points between them. -/
def print (address : Nat) : List Char :=
  let byte (i : Nat) := Nat.toDigits 10 (address / Nat.pow 256 i % 256)
  byte 3 ++ '.' :: byte 2 ++ '.' :: byte 1 ++ '.' :: byte 0

end MapServices.Url.Ipv4
