/-!
# Base64

Three bytes are written as four characters of six bits each. A last group of one or two bytes is
filled up with equals signs.
-/

namespace MapServices.Base64

/-- The characters for the numbers below 64. -/
def alphabet : List Char :=
  "ABCDEFGHIJKLMNOPQRSTUVWXYZabcdefghijklmnopqrstuvwxyz0123456789+/".toList

/-- The character for six bits of a number, counted from bit `shift` on. -/
def digit (n shift : Nat) : Char := alphabet.getD (n / Nat.pow 2 shift % 64) '='

/-- The text of the bytes. -/
def encode : List UInt8 → List Char
  | [] => []
  | [a] =>
    let n := a.toNat * 65536
    [digit n 18, digit n 12, '=', '=']
  | [a, b] =>
    let n := a.toNat * 65536 + b.toNat * 256
    [digit n 18, digit n 12, digit n 6, '=']
  | a :: b :: c :: rest =>
    let n := a.toNat * 65536 + b.toNat * 256 + c.toNat
    digit n 18 :: digit n 12 :: digit n 6 :: digit n 0 :: encode rest

end MapServices.Base64
