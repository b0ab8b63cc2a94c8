import MapServices.Text.Ascii

/-!
# JSON values and their text

A `Json` value keeps numbers as they are written, since an integer and a floating-point number are
read from the same text by different rules. A string literal may hold an escaped surrogate without
its partner; such a literal has no text, but it may stand in a value as long as nobody asks for it.

* `Json.chars` writes a value without any white space.
-/

namespace MapServices

/-- A value of the JSON data format. -/
inductive Json where
  | null
  | bool (value : Bool)
  /-- A number, as it is written. -/
  | number (written : List Char)
  /-- A string literal; without a text if a surrogate in it has no partner. -/
  | text (value : Option String)
  | array (items : List Json)
  /-- The fields in the order in which they are written; a name may occur again. -/
  | object (fields : List (Option String × Json))
deriving Inhabited, Repr

namespace Json

/-- A string value. -/
def ofString (s : String) : Json := .text (some s)

/-- An integer. -/
def ofInt (n : Int) : Json := .number (toString n).toList

/-- A list of strings. -/
def ofStrings (l : List String) : Json := .array (l.map ofString)

/-- The value, or `null` for nothing. -/
def ofOption {α : Type} (f : α → Json) : Option α → Json
  | none => .null
  | some x => f x

/-- An object with the given fields. -/
def record (fields : List (String × Json)) : Json :=
  .object (fields.map fun f => (some f.1, f.2))

/-! ### Writing -/

/-- A character as it stands in a string literal: the quote, the backslash and control characters
are escaped. -/
def escapedChar (c : Char) : List Char :=
  match c with
  | '"' => ['\\', '"']
  | '\\' => ['\\', '\\']
  | '\x08' => ['\\', 'b']
  | '\x0c' => ['\\', 'f']
  | '\n' => ['\\', 'n']
  | '\r' => ['\\', 'r']
  | '\t' => ['\\', 't']
  | _ =>
    if c.toNat < 0x20 then
      ['\\', 'u', '0', '0', Nat.digitChar (c.toNat / 16), Nat.digitChar (c.toNat % 16)]
    else [c]

/-- A string literal. One without a text is written as a lone surrogate. -/
def literal : Option String → List Char
  | some s => '"' :: s.toList.flatMap escapedChar ++ ['"']
  | none => "\"\\ud800\"".toList

mutual

/-- The text of a value, without white space. -/
def chars : Json → List Char
  | .null => "null".toList
  | .bool true => "true".toList
  | .bool false => "false".toList
  | .number written => written
  | .text value => literal value
  | .array items => '[' :: itemChars items ++ [']']
  | .object fields => '\x7b' :: fieldChars fields ++ ['\x7d']

/-- The texts of values with commas between them. -/
def itemChars : List Json → List Char
  | [] => []
  | [x] => chars x
  | x :: y :: rest => chars x ++ ',' :: itemChars (y :: rest)

/-- The texts of fields with commas between them. -/
def fieldChars : List (Option String × Json) → List Char
  | [] => []
  | [(name, x)] => literal name ++ ':' :: chars x
  | (name, x) :: y :: rest => literal name ++ ':' :: chars x ++ ',' :: fieldChars (y :: rest)

end

/-- The text of a value, without white space. -/
def print (j : Json) : String := String.ofList j.chars

end Json

end MapServices
