/-!
# White space

The characters with the Unicode property White_Space, and the operations that look at nothing
else: cutting them off the ends of a text, and splitting a text into words.
-/

namespace MapServices.Text

/-- Closed ranges of the code points that have the property White_Space, ascending and apart. -/
def blankRanges : List (Nat × Nat) :=
  [(0x09, 0x0D), (0x20, 0x20), (0x85, 0x85), (0xA0, 0xA0), (0x1680, 0x1680), (0x2000, 0x200A),
   (0x2028, 0x2029), (0x202F, 0x202F), (0x205F, 0x205F), (0x3000, 0x3000)]

/-- Whether `n` lies in one of the closed ranges. -/
def inRanges (ranges : List (Nat × Nat)) (n : Nat) : Bool :=
  ranges.any fun r => r.1 ≤ n && n ≤ r.2

/-- Whether the character is white space. -/
def isBlank (c : Char) : Bool := inRanges blankRanges c.toNat

/-! ### Trimming -/

/-- The text without the white space it starts with. -/
def trimStart (s : List Char) : List Char := s.dropWhile isBlank

/-- The text without the white space it ends with. -/
def trimEnd (s : List Char) : List Char := (trimStart s.reverse).reverse

/-- The text without the white space at both ends. -/
def trim (s : List Char) : List Char := trimEnd (trimStart s)

/-- The string without the white space at both ends. -/
def trimmed (s : String) : String := String.ofList (trim s.toList)

/-- The trimmed string, unless nothing is left of it. -/
def nonBlank? (s : String) : Option String :=
  let t := trimmed s
  if t.isEmpty then none else some t

/-! ### Words -/

/-- The longest pieces of a text that hold no white space. -/
def words (s : List Char) : List (List Char) :=
  (s.splitOnP isBlank).filter fun w => !w.isEmpty

end MapServices.Text
