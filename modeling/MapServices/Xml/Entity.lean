import MapServices.Text.Quoted
import MapServices.Text.Ascii
import MapServices.Decimal.Basic

/-!
# References in character data

An ampersand in text or in an attribute value starts a reference, which the next semicolon ends:
one of five names, or the number of a character. `unescape` replaces the references of a text, and
`escape` writes a text in such a way that `unescape` gives it back.
-/

namespace MapServices.Xml

/-- Space, tab, carriage return and line feed: the white space of markup. -/
def isSpace (c : Char) : Bool := c = ' ' || c = '\t' || c = '\r' || c = '\n'

/-- The base in which a numeric reference is written. -/
inductive Base where
  | decimal
  | hexadecimal
deriving DecidableEq, Repr

namespace Base

/-- The number that the digits multiply by. -/
def value : Base → Nat
  | decimal => 10
  | hexadecimal => 16

/-- The most bytes that the digits of a reference may take. -/
def maxBytes : Base → Nat
  | decimal => 7
  | hexadecimal => 6

/-- The name of the base. -/
def name : Base → String
  | decimal => "decimal"
  | hexadecimal => "hexadecimal"

/-- The value of a digit in this base. -/
def digit? (b : Base) (c : Char) : Option Nat :=
  if c.isDigit then some (c.toNat - '0'.toNat)
  else if b = hexadecimal && 'a' ≤ c && c ≤ 'f' then some (c.toNat - 'a'.toNat + 10)
  else if b = hexadecimal && 'A' ≤ c && c ≤ 'F' then some (c.toNat - 'A'.toNat + 10)
  else none

end Base

/-- Why a reference cannot be replaced. Ranges count bytes from the start of the text. -/
inductive EntityError where
  /-- No semicolon follows the ampersand before the next one. -/
  | unterminated (start stop : Nat)
  /-- The name is none of the five. -/
  | unknownName (start stop : Nat) (name : List Char)
  /-- The number has too many digits. -/
  | tooLong (base : Base)
  /-- A character of the number is no digit; the first byte of it is kept. -/
  | badDigit (base : Base) (byte : Nat)
  /-- The number is zero, or there are no digits at all. -/
  | null (start stop : Nat)
  /-- No character has this number. -/
  | noCharacter (code : Nat)
deriving DecidableEq, Repr

namespace EntityError

/-- The first byte of a character in UTF-8. -/
def firstByte (c : Char) : Nat := ((String.utf8EncodeChar c).head?.map UInt8.toNat).getD 0

private def atRange (start stop : Nat) (what : String) : String :=
  s!"Error while escaping character at range {start}..{stop}: {what}"

/-- The text of the error. -/
def message : EntityError → String
  | unterminated start stop => atRange start stop "Cannot find ';' after '&'"
  | unknownName start stop name =>
    atRange start stop ("Unrecognized escape symbol: " ++ String.ofList (Text.quoted name))
  | tooLong base => s!"Cannot convert {base.name} to utf8"
  | badDigit base byte =>
    "'" ++ String.singleton (Char.ofNat byte) ++ s!"' is not a valid {base.name} character"
  | null start stop => atRange start stop "Null character entity not allowed"
  | noCharacter code => s!"'{code}' is not a valid codepoint"

end EntityError

/-- The number that a row of digits spells, or the first error in it. -/
def readDigits (b : Base) (digits : List Char) : Except EntityError Nat :=
  if b.maxBytes < Text.byteCount digits then .error (.tooLong b)
  else digits.foldlM (fun n c =>
    match b.digit? c with
    | some d => .ok (b.value * n + d)
    | none => .error (.badDigit b (EntityError.firstByte c))) 0

/-- The character with this number, if it is a number of a character. -/
def charOfCode? (code : Nat) : Option Char :=
  if h : code.isValidChar then some (Char.ofNatAux code h) else none

/-- The character that a numeric reference names; `digits` is what stands after the `#`. -/
def numericReference (start stop : Nat) (digits : List Char) : Except EntityError Char := do
  let code ← match digits with
    | 'x' :: rest => readDigits .hexadecimal rest
    | _ => readDigits .decimal digits
  if code = 0 then .error (.null start stop)
  else match charOfCode? code with
    | some c => .ok c
    | none => .error (.noCharacter code)

/-- The characters that have a name. -/
def namedCharacter? (name : List Char) : Option Char :=
  match String.ofList name with
  | "lt" => some '<'
  | "gt" => some '>'
  | "amp" => some '&'
  | "apos" => some '\''
  | "quot" => some '"'
  | _ => none

/-- The character that a reference stands for. The reference runs from byte `start` to the semicolon
at byte `stop`, with `name` between them. -/
def resolveReference (start stop : Nat) (name : List Char) : Except EntityError Char :=
  match name with
  | '#' :: digits => numericReference start stop digits
  | _ =>
    match namedCharacter? name with
    | some c => .ok c
    | none => .error (.unknownName (start + 1) stop name)

/-- Replaces references from byte `offset` of a text that has `total` bytes. `pending` holds the
start of an open reference and what has been read of its name, last character first. -/
def unescapeFrom (total offset : Nat) (pending : Option (Nat × List Char)) :
    List Char → Except EntityError (List Char)
  | [] => match pending with
    | none => .ok []
    | some (start, _) => .error (.unterminated start total)
  | c :: s => match pending with
    | none =>
      if c = '&' then unescapeFrom total (offset + c.utf8Size) (some (offset, [])) s
      else do
        let rest ← unescapeFrom total (offset + c.utf8Size) none s
        return c :: rest
    | some (start, name) =>
      if c = '&' then .error (.unterminated start total)
      else if c = ';' then do
        let d ← resolveReference start offset name.reverse
        let rest ← unescapeFrom total (offset + c.utf8Size) none s
        return d :: rest
      else unescapeFrom total (offset + c.utf8Size) (some (start, c :: name)) s

/-- The text with its references replaced by the characters they stand for. -/
def unescape (s : List Char) : Except EntityError (List Char) :=
  unescapeFrom (Text.byteCount s) 0 none s

/-- A character as it is written in text or in an attribute value. -/
def escapeChar (c : Char) : List Char :=
  match c with
  | '<' => "&lt;".toList
  | '>' => "&gt;".toList
  | '&' => "&amp;".toList
  | '\'' => "&apos;".toList
  | '"' => "&quot;".toList
  | c => [c]

/-- The text with the five named characters replaced by references. -/
def escape (s : List Char) : List Char := s.flatMap escapeChar

end MapServices.Xml
