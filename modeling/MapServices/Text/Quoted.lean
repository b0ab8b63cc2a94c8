import MapServices.Text.Printable

/-!
# Quoted text

A text in double quotes on one line, as log lines show it: the quote, the backslash and four
control characters have short escapes, every other character that is not printable is written as
`\u{…}` with its code point in lower-case hexadecimal.
-/

namespace MapServices.Text

/-- A character as it stands inside quotes. -/
def quotedChar (c : Char) : List Char :=
  match c with
  | '"' => ['\\', '"']
  | '\\' => ['\\', '\\']
  | '\n' => ['\\', 'n']
  | '\r' => ['\\', 'r']
  | '\t' => ['\\', 't']
  | '\x00' => ['\\', '0']
  | _ =>
    if isPrintable c then [c]
    else ['\\', 'u', '\x7b'] ++ Nat.toDigits 16 c.toNat ++ ['\x7d']

/-- The text in double quotes. -/
def quoted (s : List Char) : List Char := '"' :: s.flatMap quotedChar ++ ['"']

end MapServices.Text
