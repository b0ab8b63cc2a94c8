import MapServices.Text.Blank
import MapServices.Decimal.Basic

/-!
# Points in time

An `Instant` is a point in universal time, kept as the second of its day-count and the fraction of a
second in nanoseconds. A leap second is the second before it with a fraction above one second.

* `Instant.print` writes the date and time of day in universal time, with the fewest of 0, 3, 6 or 9
  digits that show the fraction exactly.
* `Instant.read?` reads a date, a `T` or a space, a time of day and an offset, and turns it into
  universal time. Space between the parts of a date or time is tolerated.
-/

namespace MapServices

/-- A point in universal time. -/
structure Instant where
  /-- Seconds since the start of 1970. -/
  seconds : Int
  /-- Nanoseconds; one second or more inside a leap second. -/
  nanoseconds : Nat := 0
deriving DecidableEq, Inhabited, Repr

/-- A day of the calendar. -/
structure Date where
  year : Int
  month : Nat
  day : Nat
deriving DecidableEq, Repr

namespace Date

/-- Whether the year has a leap day. -/
def isLeapYear (year : Int) : Bool := year % 4 = 0 && (year % 100 ≠ 0 || year % 400 = 0)

/-- The number of days of a month. -/
def daysInMonth (year : Int) (month : Nat) : Nat :=
  if month = 2 then (if isLeapYear year then 29 else 28)
  else if month = 4 || month = 6 || month = 9 || month = 11 then 30
  else 31

/-- Whether the calendar has the day. Years have at most six digits. -/
def isValid (d : Date) : Bool :=
  -262143 ≤ d.year && d.year ≤ 262142 && 1 ≤ d.month && d.month ≤ 12 && 1 ≤ d.day &&
    d.day ≤ daysInMonth d.year d.month

/-- The number of days from the start of 1970. Years are counted from March, so that a leap day is
the last of its year. -/
def toDays (d : Date) : Int :=
  let year := if d.month ≤ 2 then d.year - 1 else d.year
  let month : Int := (d.month + 9) % 12
  let era := year.fdiv 400
  let yearOfEra := year - era * 400
  let dayOfYear := (153 * month + 2) / 5 + d.day - 1
  let dayOfEra := yearOfEra * 365 + yearOfEra / 4 - yearOfEra / 100 + dayOfYear
  era * 146097 + dayOfEra - 719468

/-- The day that many days after the start of 1970. -/
def ofDays (days : Int) : Date :=
  let shifted := days + 719468
  let era := shifted.fdiv 146097
  let dayOfEra := shifted - era * 146097
  let yearOfEra := (dayOfEra - dayOfEra / 1460 + dayOfEra / 36524 - dayOfEra / 146096) / 365
  let dayOfYear := dayOfEra - (365 * yearOfEra + yearOfEra / 4 - yearOfEra / 100)
  let month := (5 * dayOfYear + 2) / 153
  let day := dayOfYear - (153 * month + 2) / 5 + 1
  let calendarMonth := if month < 10 then month + 3 else month - 9
  let year := yearOfEra + era * 400 + (if calendarMonth ≤ 2 then 1 else 0)
  ⟨year, calendarMonth.toNat, day.toNat⟩

end Date

namespace Instant

/-! ### Writing -/

/-- A number in decimal digits with zeros in front up to a width. -/
def padded (width n : Nat) : List Char :=
  let digits := Nat.toDigits 10 n
  List.replicate (width - digits.length) '0' ++ digits

/-- A year with four digits, and with a sign outside of that range. -/
def yearText (year : Int) : List Char :=
  if 0 ≤ year && year ≤ 9999 then padded 4 year.toNat
  else (if year < 0 then '-' else '+') :: padded 4 year.natAbs

/-- The fraction of a second in the fewest of 0, 3, 6 or 9 digits. -/
def fractionText (nanoseconds : Nat) : List Char :=
  if nanoseconds = 0 then []
  else if nanoseconds % 1000000 = 0 then '.' :: padded 3 (nanoseconds / 1000000)
  else if nanoseconds % 1000 = 0 then '.' :: padded 6 (nanoseconds / 1000)
  else '.' :: padded 9 nanoseconds

/-- The date and time of day in universal time. -/
def chars (t : Instant) : List Char :=
  let date := Date.ofDays (t.seconds.fdiv 86400)
  let second := (t.seconds.fmod 86400).toNat
  let isLeap := 1000000000 ≤ t.nanoseconds
  yearText date.year ++ '-' :: padded 2 date.month ++ '-' :: padded 2 date.day ++
    'T' :: padded 2 (second / 3600) ++ ':' :: padded 2 (second / 60 % 60) ++
    ':' :: padded 2 (second % 60 + if isLeap then 1 else 0) ++
    fractionText (t.nanoseconds % 1000000000) ++ ['Z']

/-- The date and time of day in universal time. -/
def print (t : Instant) : String := String.ofList t.chars

/-! ### Reading -/

/-- Reads between one and `width` digits as a number. -/
def readDigits? (width : Nat) (s : List Char) : Option (Nat × List Char) :=
  let digits := (s.takeWhile Char.isDigit).take width
  if digits.isEmpty then none
  else some (Decimal.digitsValue digits, s.drop digits.length)

/-- Reads a number of at most two digits in the given range, after any white space. -/
def readPair? (low high : Nat) (s : List Char) : Option (Nat × List Char) := do
  let (n, rest) ← readDigits? 2 (Text.trimStart s)
  if low ≤ n && n ≤ high then some (n, rest) else none

/-- Reads a year: up to four digits, or a sign and any number of digits. -/
def readYear? (s : List Char) : Option (Int × List Char) :=
  match Text.trimStart s with
  | '-' :: s => (readDigits? s.length s).map fun (n, rest) => (-(n : Int), rest)
  | '+' :: s => (readDigits? s.length s).map fun (n, rest) => ((n : Int), rest)
  | s => (readDigits? 4 s).map fun (n, rest) => ((n : Int), rest)

/-- Reads one certain character, after any white space. -/
def readMark? (mark : Char) (s : List Char) : Option (List Char) :=
  match Text.trimStart s with
  | c :: rest => if c = mark then some rest else none
  | [] => none

/-- Reads a fraction of a second, if there is a point. Digits after the ninth are passed over. -/
def readFraction? : List Char → Option (Nat × List Char)
  | '.' :: s =>
    let digits := s.takeWhile Char.isDigit
    if digits.isEmpty then none
    else
      let kept := digits.take 9
      some (Decimal.digitsValue kept * Nat.pow 10 (9 - kept.length), s.drop digits.length)
  | s => some (0, s)

/-- Reads an offset from universal time in seconds: a letter, or a sign, hours and minutes. -/
def readOffset? (s : List Char) : Option (Int × List Char) :=
  match s with
  | 'Z' :: rest | 'z' :: rest => some (0, rest)
  | _ =>
    if Text.startsIgnoringCase ['u', 't', 'c'] s then some (0, s.drop 3)
    else
      match s with
      | sign :: h₁ :: h₂ :: rest =>
        if (sign = '+' || sign = '-' || sign = '\u2212') && h₁.isDigit && h₂.isDigit then
          match rest.dropWhile fun c => c = ':' || Text.isBlank c with
          | m₁ :: m₂ :: rest =>
            if m₁.isDigit && m₂.isDigit && m₁ < '6' then
              let minutes := Decimal.digitsValue [h₁, h₂] * 60 + Decimal.digitsValue [m₁, m₂]
              let seconds : Int := minutes * 60
              some (if sign = '+' then seconds else -seconds, rest)
            else none
          | _ => none
        else none
      | _ => none

/-- The point in time that a text spells. -/
def readChars? (s : List Char) : Option Instant := do
  let (year, s) ← readYear? s
  let s ← readMark? '-' s
  let (month, s) ← readPair? 1 12 s
  let s ← readMark? '-' s
  let (day, s) ← readPair? 1 31 s
  let s ← match s with
    | 'T' :: s | 't' :: s | ' ' :: s => some s
    | _ => none
  let (hour, s) ← readPair? 0 23 s
  let s ← readMark? ':' s
  let (minute, s) ← readPair? 0 59 s
  let s ← readMark? ':' s
  let (second, s) ← readPair? 0 60 s
  let (fraction, s) ← readFraction? s
  let (offset, s) ← readOffset? (Text.trimStart s)
  let date : Date := ⟨year, month, day⟩
  if date.isValid && offset.natAbs < 86400 && (Text.trimStart s).isEmpty then
    let time : Int := hour * 3600 + minute * 60 + (if second = 60 then 59 else second)
    some {
      seconds := date.toDays * 86400 + time - offset
      nanoseconds := if second = 60 then fraction + 1000000000 else fraction }
  else none

/-- The point in time that a string spells. -/
def read? (s : String) : Option Instant := readChars? s.toList

end Instant

end MapServices
