import MapServices.Json.Basic

/-!
# Reading JSON

`Json.parse?` reads a whole text as one value. The grammar is strict: no comma before a closing
bracket, no zeros before a number, no sign but a minus, no control characters in string literals,
and nothing but white space around the value.

The readers of values, items and fields call each other. Their first argument bounds the depth of
the calls; of two nested calls one consumes a character, so twice the length of the text is
enough.
-/

namespace MapServices.Json

/-- The white space of JSON. -/
def isSpace (c : Char) : Bool := c = ' ' || c = '\n' || c = '\t' || c = '\r'

/-- The text without the white space that it starts with. -/
def skipSpace (s : List Char) : List Char := s.dropWhile isSpace

/-! ### String literals -/

/-- The value of a hexadecimal digit. -/
def hexDigit? (c : Char) : Option Nat :=
  if c.isDigit then some (c.toNat - '0'.toNat)
  else if 'a' ≤ c && c ≤ 'f' then some (c.toNat - 'a'.toNat + 10)
  else if 'A' ≤ c && c ≤ 'F' then some (c.toNat - 'A'.toNat + 10)
  else none

/-- The 16-bit unit that four hexadecimal digits spell. -/
def unit? (a b c d : Char) : Option Nat := do
  let a ← hexDigit? a
  let b ← hexDigit? b
  let c ← hexDigit? c
  let d ← hexDigit? d
  return ((a * 16 + b) * 16 + c) * 16 + d

/-- The character for which a letter stands after a backslash. -/
def letterEscape? : Char → Option Char
  | '"' => some '"'
  | '\\' => some '\\'
  | '/' => some '/'
  | 'b' => some '\x08'
  | 'f' => some '\x0c'
  | 'n' => some '\n'
  | 'r' => some '\r'
  | 't' => some '\t'
  | _ => none

/-- One element of a string literal: a character, or a 16-bit unit that was written by its number.
-/
inductive Piece where
  | char (c : Char)
  | unit (n : Nat)
deriving DecidableEq, Repr

/-- The elements of a string literal up to its closing quote, and what follows the quote. -/
def readPieces : List Char → Option (List Piece × List Char)
  | '"' :: s => some ([], s)
  | '\\' :: 'u' :: a :: b :: c :: d :: s => do
    let n ← unit? a b c d
    let (pieces, rest) ← readPieces s
    return (.unit n :: pieces, rest)
  | '\\' :: e :: s => do
    let c ← letterEscape? e
    let (pieces, rest) ← readPieces s
    return (.char c :: pieces, rest)
  | c :: s =>
    if c.toNat < 0x20 || c = '\\' then none
    else do
      let (pieces, rest) ← readPieces s
      return (.char c :: pieces, rest)
  | [] => none

/-- Joins the elements of a literal into its text. Two units that form a surrogate pair are one
character; any other surrogate leaves the literal without a text. -/
def join? : List Piece → Option (List Char)
  | [] => some []
  | .char c :: rest => (join? rest).map (c :: ·)
  | .unit high :: .unit low :: rest =>
    if 0xD800 ≤ high && high < 0xDC00 then
      if 0xDC00 ≤ low && low < 0xE000 then
        (join? rest).map (Char.ofNat (0x10000 + (high - 0xD800) * 0x400 + (low - 0xDC00)) :: ·)
      else none
    else if 0xDC00 ≤ high && high < 0xE000 then none
    else (join? (.unit low :: rest)).map (Char.ofNat high :: ·)
  | .unit n :: rest =>
    if 0xD800 ≤ n && n < 0xE000 then none else (join? rest).map (Char.ofNat n :: ·)

/-- The text of a literal, if it has one, and what follows the literal. The opening quote has been
read. -/
def readLiteral (s : List Char) : Option (Option String × List Char) := do
  let (pieces, rest) ← readPieces s
  return ((join? pieces).map String.ofList, rest)

/-! ### Numbers -/

/-- The digits at the start of a text, of which there must be one at least. -/
def readDigits1 (s : List Char) : Option (List Char × List Char) :=
  match s.takeWhile Char.isDigit with
  | [] => none
  | digits => some (digits, s.dropWhile Char.isDigit)

/-- The digits of a number before the point: a zero alone, or digits that do not start with one. -/
def readWhole : List Char → Option (List Char × List Char)
  | '0' :: s => some (['0'], s)
  | s => readDigits1 s

/-- A point and digits, if there is a point. -/
def readFraction : List Char → Option (List Char × List Char)
  | '.' :: s => do
    let (digits, rest) ← readDigits1 s
    return ('.' :: digits, rest)
  | s => some ([], s)

/-- The sign of an exponent, if there is one. -/
def readExponentSign : List Char → List Char × List Char
  | '+' :: s => (['+'], s)
  | '-' :: s => (['-'], s)
  | s => ([], s)

/-- The mark of an exponent, a sign and digits, if there is the mark. -/
def readExponentPart : List Char → Option (List Char × List Char)
  | c :: s =>
    if c = 'e' || c = 'E' then do
      let (sign, s) := readExponentSign s
      let (digits, rest) ← readDigits1 s
      return (c :: sign ++ digits, rest)
    else some ([], c :: s)
  | [] => some ([], [])

/-- The text of a number, and what follows it. -/
def readNumber (s : List Char) : Option (List Char × List Char) := do
  let (sign, s) := match s with
    | '-' :: s => (['-'], s)
    | s => ([], s)
  let (whole, s) ← readWhole s
  let (fraction, s) ← readFraction s
  let (exponent, s) ← readExponentPart s
  return (sign ++ whole ++ fraction ++ exponent, s)

/-! ### Values -/

mutual

/-- Reads a value; white space may stand before it. -/
def readValue : Nat → List Char → Option (Json × List Char)
  | 0, _ => none
  | depth + 1, s =>
    match skipSpace s with
    | 'n' :: 'u' :: 'l' :: 'l' :: s => some (.null, s)
    | 't' :: 'r' :: 'u' :: 'e' :: s => some (.bool true, s)
    | 'f' :: 'a' :: 'l' :: 's' :: 'e' :: s => some (.bool false, s)
    | '"' :: s => do
      let (value, s) ← readLiteral s
      return (.text value, s)
    | '[' :: s =>
      match skipSpace s with
      | ']' :: s => some (.array [], s)
      | s => do
        let (items, s) ← readItems depth s
        return (.array items, s)
    | '\x7b' :: s =>
      match skipSpace s with
      | '\x7d' :: s => some (.object [], s)
      | s => do
        let (fields, s) ← readFields depth s
        return (.object fields, s)
    | s => do
      let (written, s) ← readNumber s
      return (.number written, s)

/-- Reads values with commas between them, up to the closing bracket. -/
def readItems : Nat → List Char → Option (List Json × List Char)
  | 0, _ => none
  | depth + 1, s => do
    let (x, s) ← readValue depth s
    match skipSpace s with
    | ']' :: s => return ([x], s)
    | ',' :: s =>
      let (rest, s) ← readItems depth s
      return (x :: rest, s)
    | _ => none

/-- Reads fields with commas between them, up to the closing brace. -/
def readFields : Nat → List Char → Option (List (Option String × Json) × List Char)
  | 0, _ => none
  | depth + 1, s =>
    match skipSpace s with
    | '"' :: s => do
      let (name, s) ← readLiteral s
      match skipSpace s with
      | ':' :: s =>
        let (x, s) ← readValue depth s
        match skipSpace s with
        | '\x7d' :: s => return ([(name, x)], s)
        | ',' :: s =>
          let (rest, s) ← readFields depth s
          return ((name, x) :: rest, s)
        | _ => none
      | _ => none
    | _ => none

end

/-- The value that a whole text spells. -/
def parseChars? (s : List Char) : Option Json :=
  match readValue (2 * s.length + 2) s with
  | some (j, rest) => if (skipSpace rest).isEmpty then some j else none
  | none => none

/-- The value that a whole string spells. -/
def parse? (s : String) : Option Json := parseChars? s.toList

end MapServices.Json
