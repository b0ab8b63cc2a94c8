/-!
# Tables of characters

A table goes by the numbers of characters. It is written as rows of text: blanks separate entries,
commas the parts of an entry, and points the numbers of a part. Numbers are in base 16.

The tables are those of Unicode 15.1. They are right for the characters that may stand in a name of
the domain system; for others, which are told apart first, they may hold anything.
-/

namespace MapServices.Unicode

/-- The number that small digits in base 16 spell. -/
def number (digits : List Char) : Nat :=
  digits.foldl (fun n c => 16 * n + if c.isDigit then c.toNat - 0x30 else c.toNat - 0x57) 0

/-- The entries of a table. -/
def entries (rows : List String) : List (List (List Nat)) :=
  rows.flatMap fun row => (row.toList.splitOn ' ').map fun entry =>
    (entry.splitOn ',').map fun part => (part.splitOn '.').map number

/-- Numbers that follow each other. -/
structure Range where
  first : Nat
  last : Nat
deriving DecidableEq, Repr

/-- Whether the number lies in the range. -/
def Range.contains (r : Range) (n : Nat) : Bool := r.first ≤ n && n ≤ r.last

/-- The ranges of a table whose entries are first and last numbers, or single numbers. -/
def ranges (rows : List String) : List Range :=
  (entries rows).filterMap fun
    | [[first]] => some ⟨first, first⟩
    | [[first], [last]] => some ⟨first, last⟩
    | _ => none

/-- Whether the character lies in one of the ranges. -/
def isIn (ranges : List Range) (c : Char) : Bool := ranges.any (·.contains c.toNat)

end MapServices.Unicode
