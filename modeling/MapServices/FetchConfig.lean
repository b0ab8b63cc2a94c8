import MapServices.Decimal.Basic
import MapServices.Text.Blank

/-!
# Settings of requests

How long to wait for an answer, and how to introduce oneself. The two times can be set in seconds,
as texts; a text that is no positive number leaves the default.
-/

namespace MapServices

/-- Settings of requests. Times are in milliseconds. -/
structure FetchConfig where
  /-- The longest time that a request may take. -/
  timeout : Nat := 30000
  /-- The longest time that a connection may take. -/
  connectTimeout : Nat := 10000
  userAgent : String := "capabilities-updater/0.1.0"
deriving DecidableEq, Inhabited, Repr

namespace FetchConfig

/-- The milliseconds of a text that gives a positive number of seconds. -/
def readSeconds? (text : String) : Option Nat :=
  match Decimal.readNatBelow? 0x10000000000000000 (Text.trim text.toList) with
  | some 0 | none => none
  | some n => some (1000 * n)

/-- The settings that the environment gives. -/
def ofEnvironment (timeout connectTimeout : Option String) : FetchConfig :=
  let defaults : FetchConfig := {}
  { defaults with
    timeout := (timeout.bind readSeconds?).getD defaults.timeout
    connectTimeout := (connectTimeout.bind readSeconds?).getD defaults.connectTimeout }

/-- The settings with another longest time of a request. -/
def withTimeout (c : FetchConfig) (timeout : Nat) : FetchConfig := { c with timeout }

/-- A time in the largest unit that leaves a whole part. -/
def showTime (milliseconds : Nat) : String :=
  if milliseconds = 0 then "0ns"
  else if milliseconds < 1000 then s!"{milliseconds}ms"
  else
    let digits := (Nat.toDigits 10 (1000 + milliseconds % 1000)).drop 1
    let fraction := (digits.reverse.dropWhile (· = '0')).reverse
    let point := if fraction.isEmpty then [] else ['.']
    toString (milliseconds / 1000) ++ String.ofList (point ++ fraction) ++ "s"

end FetchConfig

end MapServices
