import MapServices.Unicode.Marks

/-!
# Directions of writing

Letters are written from left to right or from right to left, and digits keep to what stands around
them. A label in which both directions meet could be read in two ways.

* `direction` is that of a character.
* `fitsDirection` says that a label is read in one way.
-/

namespace MapServices.Unicode

/-- How a character is written. -/
inductive Direction where
  /-- From left to right. -/
  | left
  /-- From right to left. -/
  | right
  /-- As a digit of European numbers. -/
  | european
  /-- As a digit of Arabic numbers. -/
  | arabic
  /-- As the characters around it. -/
  | neutral
  /-- As the letter that the mark combines with. -/
  | mark
deriving DecidableEq, Repr

/-- How characters are written that are not letters written from left to right. Where ranges
overlap, the first one counts. -/
def directions : List (Direction × List Range) := [
  (.right, ranges
    ["5be 5c0 5c3 5c6 5d0,5f4 608 60b 60d 61b,64a 66d,66f 671,6d5 6e5,6e6 6ee,6ef 6fa,710",
     "712,72f 74d,7a5 7b1,7ea 7f4,7f5 7fa 7fe,815 81a 824 828 830,858 85e,88e 8a0,8c9 fbb2,fbc2",
     "fe73 10800,1091b 10920,10a00 10a10,10a35 10a40,10ae4 10aeb,10b35 10b40,10d23 10e80,10ea9",
     "10ead,10eb1 10f00,10f45 10f51,10f81 10f86,10ff6 1e800,1e8cf 1e922,1e943 1e94b,1ed3d"]),
  (.arabic, ranges
    ["660,669 66b,66c 10d30,10e7e"]),
  (.european, ranges
    ["6f0,6f9 102e1,102fb"]),
  (.neutral, ranges
    ["a1,d7 f7 2b9,2ba 2c2,2cf 2d2,2ed 2ef,2ff 375 3f6 58a,58f 606,607 609,60a 60c 60e,60f 66a",
     "6de 6e9 7f6,7f9 9f2,9f3 9fb af1 bf3,bfa c78,c7e e3f f3a,f3d 1390,1399 1400 169b,169c 17db",
     "17f0,180a 1940,1945 19de,19ff 200c,20c0 2104,214d 218a,2335 237b,2394 2396,26ab 26ad,27ff",
     "2900,2bff 2ce5,2cea 2cf9,2cff 2e00,3004 3008,3020 3030 3037 303d,303f 30a0 30fb 31c0,31e3",
     "4dc0,4dff a490,a4c6 a60d,a60f a673 a67e,a67f a700,a721 a788 a828,a82b a838,a839 a874,a877",
     "ab6a,ab6b fd3e,fdff fe45,fe46 10101 10140,1018c 10190,101a0 1091f 10b39,10b3f 11052,11065",
     "11660,1166c 11fd5,11ff1 16fe2 1d1e9,1d241 1d245 1d300,1d356 1e2ff 1eef0,1f12f 1f16d,1f16f",
     "1f1ad 1f260,1fbca"]),
  (.left, ranges
    ["cbf cc6 11a07 11a08 11c3f"]),
  (.mark, nonspacing)]

/-- How a character is written. -/
def direction (c : Char) : Direction :=
  if c.toNat < 128 then
    if c.isAlpha then .left else if c.isDigit then .european else .neutral
  else ((directions.find? fun e => isIn e.2 c).map Prod.fst).getD .left

/-- Whether the character is written from right to left. -/
def isRightToLeft (c : Char) : Bool :=
  match direction c with
  | .right | .arabic => true
  | _ => false

/-- Whether a label is read in one way: it starts with a letter, ends with a letter or a digit of
the same direction, has no letter of the other, and digits of one kind. -/
def fitsDirection (label : List Char) : Bool :=
  let found := label.map direction
  let last := (found.filter (· ≠ .mark)).getLast?
  match found with
  | [] => true
  | .left :: _ =>
    !found.contains .right && !found.contains .arabic &&
      (last = some .left || last = some .european)
  | .right :: _ =>
    !found.contains .left && (last = some .right || last = some .european || last = some .arabic) &&
      !(found.contains .european && found.contains .arabic)
  | _ => false

end MapServices.Unicode
