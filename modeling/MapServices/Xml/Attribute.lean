import MapServices.Xml.Entity

/-!
# Attributes of a tag

What follows the name in a tag is a row of attributes: a key, an equals sign and a quoted value,
with white space allowed around each of them. `Attribute.scan` reads the row up to its end or to the
first fault. Positions count bytes from the start of the tag's name.
-/

namespace MapServices.Xml

/-- An attribute as it is written: the key with any namespace part, the value with its references.
-/
structure Attribute where
  key : List Char
  value : List Char
deriving DecidableEq, Repr

/-- Why a row of attributes cannot be read on. -/
inductive AttributeError where
  /-- Something else than an equals sign follows the key. -/
  | expectedEquals (position : Nat)
  /-- The tag ends after the equals sign. -/
  | expectedValue (position : Nat)
  /-- The value does not start with a quote. -/
  | unquoted (position : Nat)
  /-- The tag ends inside the value. -/
  | unclosed (position : Nat) (quote : Char)
  /-- The key was used before in the same tag. -/
  | repeated (position previous : Nat)
deriving DecidableEq, Repr

namespace AttributeError

/-- The text of the error. -/
def message : AttributeError → String
  | expectedEquals p => s!"position {p}: attribute key must be directly followed by `=` or space"
  | expectedValue p => s!"position {p}: `=` must be followed by an attribute value"
  | unquoted p => s!"position {p}: attribute value must be enclosed in `\"` or `'`"
  | unclosed p quote =>
    s!"position {p}: missing closing quote `" ++ String.singleton quote ++ "` in attribute value"
  | repeated p previous =>
    s!"position {p}: duplicated attribute, previous declaration at position {previous}"

end AttributeError

namespace Attribute

/-- Where a scan of attributes stands. Texts under way are kept last character first. -/
inductive ScanState where
  /-- Between two attributes. -/
  | between
  /-- Inside a key that started at `start`. -/
  | inKey (start : Nat) (key : List Char)
  /-- After a key, with white space behind it. -/
  | afterKey (start : Nat) (key : List Char)
  /-- After the equals sign. -/
  | beforeValue (key : List Char)
  /-- Inside the value. -/
  | inValue (key : List Char) (quote : Char) (value : List Char)
deriving DecidableEq, Repr

/-- The attributes that were read, and the fault that ended the scan, if any did. -/
structure ScanResult where
  attributes : List Attribute := []
  error? : Option AttributeError := none
deriving DecidableEq, Repr

/-- The result with one more attribute in front. -/
def ScanResult.cons (a : Attribute) (r : ScanResult) : ScanResult :=
  { r with attributes := a :: r.attributes }

/-- Where the key was used before, as far as keys are remembered. -/
def previous? (seen : Option (List (List Char × Nat))) (key : List Char) : Option Nat :=
  seen.bind fun keys => keys.lookup key

/-- Reads attributes from byte `position` on. `seen` holds the keys read so far with their
positions; without it, a repeated key is no fault. -/
def scanFrom (seen : Option (List (List Char × Nat))) (position : Nat) :
    ScanState → List Char → ScanResult
  | .between, [] => {}
  | .inKey .., [] => { error? := some (.expectedEquals position) }
  | .afterKey .., [] => { error? := some (.expectedEquals position) }
  | .beforeValue _, [] => { error? := some (.expectedValue position) }
  | .inValue _ quote _, [] => { error? := some (.unclosed position quote) }
  | .between, c :: s =>
    scanFrom seen (position + c.utf8Size) (if isSpace c then .between else .inKey position [c]) s
  | .inKey start key, c :: s =>
    if c = '=' then
      match previous? seen key.reverse with
      | some earlier => { error? := some (.repeated start earlier) }
      | none =>
        scanFrom (seen.map fun keys => (key.reverse, start) :: keys) (position + c.utf8Size)
          (.beforeValue key.reverse) s
    else
      scanFrom seen (position + c.utf8Size)
        (if isSpace c then .afterKey start key else .inKey start (c :: key)) s
  | .afterKey start key, c :: s =>
    if c = '=' then
      match previous? seen key.reverse with
      | some earlier => { error? := some (.repeated start earlier) }
      | none =>
        scanFrom (seen.map fun keys => (key.reverse, start) :: keys) (position + c.utf8Size)
          (.beforeValue key.reverse) s
    else if isSpace c then scanFrom seen (position + c.utf8Size) (.afterKey start key) s
    else { error? := some (.expectedEquals position) }
  | .beforeValue key, c :: s =>
    if isSpace c then scanFrom seen (position + c.utf8Size) (.beforeValue key) s
    else if c = '"' || c = '\'' then scanFrom seen (position + c.utf8Size) (.inValue key c []) s
    else { error? := some (.unquoted position) }
  | .inValue key quote value, c :: s =>
    if c = quote then
      (scanFrom seen (position + c.utf8Size) .between s).cons ⟨key, value.reverse⟩
    else scanFrom seen (position + c.utf8Size) (.inValue key quote (c :: value)) s

/-- The attributes of a tag whose keys must differ. -/
def scan (position : Nat) (s : List Char) : ScanResult := scanFrom (some []) position .between s

/-- The attributes of a tag whose keys may repeat. -/
def scanRepeating (position : Nat) (s : List Char) : ScanResult := scanFrom none position .between s

end Attribute

end MapServices.Xml
