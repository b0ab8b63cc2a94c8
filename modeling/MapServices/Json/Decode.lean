import MapServices.Json.Number
import MapServices.Sorted.Set

/-!
# Reading values of other types from JSON

Each reader answers with nothing if the JSON value is not of its form. A record is read from an
object, in which unknown fields are passed over and a known field may occur once, or from an array
that lists its fields in order.

* `refusal?` says why a value cannot be taken up as it is, before it is read as anything else.
* `slots?` lays a record out as one `Slot` per field.
* `Slot.required`, `Slot.optional` and `Slot.orDefault` say what becomes of a field that is missing.
-/

namespace MapServices.Json

/-- The string that a value is. -/
def toText? : Json → Option String
  | .text value => value
  | _ => none

/-- The truth value that a value is. -/
def toBool? : Json → Option Bool
  | .bool value => some value
  | _ => none

/-- The integer that a value is. -/
def toInt? : Json → Option Int
  | .number written => integer? written
  | _ => none

/-- The double that a value is. -/
def toFloat? : Json → Option Float
  | .number written => float? written
  | _ => none

/-- The list that a value is. -/
def toList? {α : Type} (f : Json → Option α) : Json → Option (List α)
  | .array items => items.mapM f
  | _ => none

/-- The set of strings that a value is; a member may occur again. -/
def toNameSet? (j : Json) : Option NameSet := (toList? toText? j).map NameSet.ofList

/-- The table of strings that a value is; of several fields with one name the last one counts. -/
def toNameMap? : Json → Option (SortedMap String String)
  | .object fields => do
    let entries ← fields.mapM fun (name, x) => return (← name, ← toText? x)
    return SortedMap.ofList entries
  | _ => none

/-- The value, or nothing for `null`. -/
def toOption? {α : Type} (f : Json → Option α) : Json → Option (Option α)
  | .null => some none
  | j => (f j).map some

/-! ### Values as they are -/

/-- Why a value cannot be taken up as it is. -/
inductive Refusal where
  /-- Too many lists and objects stand inside of each other. -/
  | tooDeep
  /-- A number is beyond the range of doubles. -/
  | outOfRange
  /-- A surrogate in a string literal has no partner. -/
  | loneSurrogate
deriving DecidableEq, Repr

/-- The text of the refusal. -/
def Refusal.message : Refusal → String
  | tooDeep => "recursion limit exceeded"
  | outOfRange => "number out of range"
  | loneSurrogate => "lone leading surrogate in hex escape"

mutual

/-- Why a value is refused, if fewer lists and objects than `limit` may stand inside of each other.
The first reason in the order of the text counts. -/
def refusalWithin? : Nat → Json → Option Refusal
  | _, .null => none
  | _, .bool _ => none
  | _, .number written => if (float? written).isSome then none else some .outOfRange
  | _, .text value => if value.isSome then none else some .loneSurrogate
  | limit, .array items => if limit ≤ 1 then some .tooDeep else itemsRefusal? (limit - 1) items
  | limit, .object fields => if limit ≤ 1 then some .tooDeep else fieldsRefusal? (limit - 1) fields

/-- The first reason to refuse one of the values. -/
def itemsRefusal? : Nat → List Json → Option Refusal
  | _, [] => none
  | limit, x :: rest => (refusalWithin? limit x).or (itemsRefusal? limit rest)

/-- The first reason to refuse one of the fields. -/
def fieldsRefusal? : Nat → List (Option String × Json) → Option Refusal
  | _, [] => none
  | limit, (name, x) :: rest =>
    if name.isSome then (refusalWithin? limit x).or (fieldsRefusal? limit rest)
    else some .loneSurrogate

end

/-- Why a value cannot be taken up as it is. -/
def refusal? (j : Json) : Option Refusal := refusalWithin? 128 j

/-! ### Records -/

/-- What a record holds in the place of a field. -/
inductive Slot where
  /-- A value. -/
  | given (value : Json)
  /-- Nothing, in an object. -/
  | omitted
  /-- Nothing, since an array has ended. -/
  | beyond
deriving Inhabited, Repr

namespace Slot

/-- A field that must be there. -/
def required {α : Type} (f : Json → Option α) : Slot → Option α
  | given j => f j
  | _ => none

/-- A field that an object may leave out or set to `null`. -/
def optional {α : Type} (f : Json → Option α) : Slot → Option (Option α)
  | given j => toOption? f j
  | omitted => some none
  | beyond => none

/-- A field that may be left out, and then has a certain value. -/
def orDefault {α : Type} (default : α) (f : Json → Option α) : Slot → Option α
  | given j => f j
  | _ => some default

end Slot

/-- The place of a field in an object: its value, if the name occurs once at most. -/
def fieldSlot? (fields : List (Option String × Json)) (name : String) : Option Slot :=
  match fields.filter (·.1 == some name) with
  | [] => some .omitted
  | [(_, x)] => some (.given x)
  | _ => none

/-- The places of the fields with the given names. Every name in an object must be a text. -/
def slots? (names : List String) : Json → Option (List Slot)
  | .object fields =>
    if fields.all (·.1.isSome) then names.mapM (fieldSlot? fields) else none
  | .array items =>
    if items.length ≤ names.length then
      some (items.map .given ++ List.replicate (names.length - items.length) .beyond)
    else none
  | _ => none

end MapServices.Json
