import MapServices.Capabilities.Error
import MapServices.Proofs.Failure
import MapServices.Proofs.Text.Blank

/-!
# Values in capabilities documents

What it means that the text of an element is a number, a count or the corner of a box, and what is
reported of a text that is not.

* `Decimal.readNatBelow?_eq_some_iff`: which texts are read as counts.
* `HasText`, `HasNumber`, `HasCount`, `StartsWith`, `HasCorner`: what the first child of a name
  holds.
* `textFaults`, `numberFaults`, `countFaults`, `cornerFaults`: what is wrong with a value, if
  anything. The readers report the first of these faults.
-/

namespace MapServices

open Failure (Reports required required_eq_nil_iff)

namespace Decimal

/-- The text writes the number in decimal digits, perhaps after a plus sign. -/
def WritesNat (s : List Char) (n : Nat) : Prop :=
  ∃ digits, (s = digits ∨ s = '+' :: digits) ∧ digits ≠ [] ∧ (∀ c ∈ digits, c.isDigit) ∧
    digitsValue digits = n

theorem readNatBelow?_eq_some_iff {bound n : Nat} {s : List Char} :
    readNatBelow? bound s = some n ↔ WritesNat s n ∧ n < bound := by
  have hdigits : ∀ digits : List Char,
      (if !digits.isEmpty && digits.all Char.isDigit && digitsValue digits < bound then
        some (digitsValue digits) else none) = some n ↔
      (digits ≠ [] ∧ (∀ c ∈ digits, c.isDigit) ∧ digitsValue digits = n) ∧ n < bound := by
    intro digits
    rw [Option.ite_none_right_eq_some]
    simp only [Bool.and_eq_true, Bool.not_eq_true', List.isEmpty_eq_false_iff, List.all_eq_true,
      decide_eq_true_eq, Option.some.injEq]
    constructor
    · rintro ⟨⟨⟨hne, hall⟩, hlt⟩, rfl⟩
      exact ⟨⟨hne, hall, rfl⟩, hlt⟩
    · rintro ⟨⟨hne, hall, rfl⟩, hlt⟩
      exact ⟨⟨⟨hne, hall⟩, hlt⟩, rfl⟩
  unfold readNatBelow?
  split
  · -- a text that starts with a sign is not made of digits
    rename_i r
    rw [hdigits]
    refine and_congr_left fun _ => ⟨fun h => ⟨r, Or.inr rfl, h⟩, ?_⟩
    rintro ⟨digits, rfl | hr, h⟩
    · exact absurd (h.2.1 '+' List.mem_cons_self) (by decide)
    · rwa [(List.cons.inj hr).2]
  · rename_i hsign
    rw [hdigits]
    refine and_congr_left fun _ => ⟨fun h => ⟨s, Or.inl rfl, h⟩, ?_⟩
    rintro ⟨digits, rfl | rfl, h⟩
    · exact h
    · exact absurd rfl (hsign digits)

end Decimal

namespace BoundingBox

/-- The two parts of a corner spell the two coordinates. -/
def IsCorner (corner : String) (x y : Float) : Prop :=
  ∃ u v, Text.words corner.toList = [u, v] ∧ Decimal.readFloat? u = some x ∧
    Decimal.readFloat? v = some y

/-- The faults of a corner: its form, or its parts. -/
def cornerFaults (corner : String) : List ReadError :=
  match Text.words corner.toList with
  | [u, v] => [u, v].flatMap fun part =>
      required (Decimal.readFloat? part) (.number (String.ofList part)) fun _ => []
  | _ => [.cornerFormat corner]

theorem reports_readPart (part : List Char) :
    Reports (required (Decimal.readFloat? part) (.number (String.ofList part)) fun _ => [])
      (readPart part) := by
  unfold readPart
  cases Decimal.readFloat? part with
  | none => exact .error _ _
  | some x => exact .ok x

theorem reports_readCorner (corner : String) :
    Reports (cornerFaults corner) (readCorner corner) := by
  unfold cornerFaults readCorner
  rcases Text.words corner.toList with _ | ⟨u, _ | ⟨v, _ | ⟨w, more⟩⟩⟩
  · exact .error _ _
  · exact .error _ _
  · exact (reports_readPart u).bind fun x _ => (reports_readPart v).bind fun y _ => .ok (x, y)
  · exact .error _ _

theorem readCorner_eq_ok_iff {corner : String} {x y : Float} :
    readCorner corner = .ok (x, y) ↔ IsCorner corner x y := by
  have hpart : ∀ (part : List Char) (x : Float),
      readPart part = .ok x ↔ Decimal.readFloat? part = some x := by
    intro part x
    unfold readPart
    cases Decimal.readFloat? part <;> simp
  unfold readCorner IsCorner
  split
  · rename_i u v huv
    simp only [huv, Failure.bind_eq_ok, hpart]
    constructor
    · rintro ⟨x', hx, y', hy, h⟩
      cases h
      exact ⟨u, v, rfl, hx, hy⟩
    · rintro ⟨u', v', h, hx, hy⟩
      cases h
      exact ⟨x, hx, y, hy, rfl⟩
  · rename_i hform
    constructor
    · nofun
    · rintro ⟨u, v, huv, -⟩
      exact absurd huv (hform u v)

theorem ofCorners_eq_ok_iff {lower upper : String} {box : BoundingBox} :
    ofCorners lower upper = .ok box ↔
      IsCorner lower box.minX box.minY ∧ IsCorner upper box.maxX box.maxY := by
  simp only [ofCorners, Failure.bind_eq_ok, Prod.exists, readCorner_eq_ok_iff]
  constructor
  · rintro ⟨minX, minY, hlower, maxX, maxY, hupper, h⟩
    cases h
    exact ⟨hlower, hupper⟩
  · rintro ⟨hlower, hupper⟩
    exact ⟨_, _, hlower, _, _, hupper, rfl⟩

theorem reports_ofCorners (lower upper : String) :
    Reports (cornerFaults lower ++ cornerFaults upper) (ofCorners lower upper) := by
  have h := (reports_readCorner lower).bind fun low _ =>
    (reports_readCorner upper).map fun high => BoundingBox.mk low.1 low.2 high.1 high.2
  exact h

theorem cornerFaults_eq_nil_iff {corner : String} :
    cornerFaults corner = [] ↔ ∃ x y, IsCorner corner x y := by
  rw [← (reports_readCorner corner).exists_ok_iff, Prod.exists]
  simp only [readCorner_eq_ok_iff]

end BoundingBox

namespace Xml.Element

variable {e : Element} {name : String}

/-- The first child of the name has a text. -/
def HasText (e : Element) (name : String) : Prop := ∃ text, e.childText? name = some text

/-- The text of the first child of the name spells the number. -/
def HasNumber (e : Element) (name : String) (x : Float) : Prop :=
  ∃ text, e.childText? name = some text ∧ Decimal.readFloat? text.toList = some x

/-- The text of the first child of the name writes the number, which has at most 32 bits. -/
def HasCount (e : Element) (name : String) (n : Nat) : Prop :=
  ∃ text, e.childText? name = some text ∧ Decimal.WritesNat text.toList n ∧ n < 0x100000000

/-- The text of the first child of the name starts with two numbers. -/
def StartsWith (e : Element) (name : String) (point : Float × Float) : Prop :=
  ∃ text u v more, e.childText? name = some text ∧ Text.words text.toList = u :: v :: more ∧
    Decimal.readFloat? u = some point.1 ∧ Decimal.readFloat? v = some point.2

/-- The text of the first child of the name is a corner. -/
def HasCorner (e : Element) (name : String) (x y : Float) : Prop :=
  ∃ text, e.childText? name = some text ∧ BoundingBox.IsCorner text x y

/-- The tree of a document that is put together from pieces. -/
theorem ofDocument_join (pieces : List String) : ofDocument (String.join pieces) =
    (ofChars (pieces.flatMap String.toList)).mapError .ofTreeError := by
  rw [ofDocument, ofString, String.toList_join]

theorem child?_eq_none_iff : e.child? name = none ↔ e.childrenNamed name = [] := by
  rw [child?, childrenNamed, ← List.head?_filter, List.head?_eq_none_iff]

theorem trim_of_childText? {text : String} (h : e.childText? name = some text) :
    Text.trim text.toList = text.toList := by
  obtain ⟨child, -, h⟩ := Option.bind_eq_some_iff.1 h
  exact Text.trim_of_nonBlank? h

theorem requiredText_eq_ok_iff {text : String} :
    e.requiredText name = .ok text ↔ e.childText? name = some text := by
  unfold requiredText
  cases e.childText? name <;> simp

theorem readNumber_eq_ok_iff {value : String} {x : Float}
    (h : Text.trim value.toList = value.toList) :
    readNumber name value = .ok x ↔ Decimal.readFloat? value.toList = some x := by
  unfold readNumber
  rw [h]
  cases Decimal.readFloat? value.toList <;> simp

theorem requiredNumber_eq_ok_iff {x : Float} :
    e.requiredNumber name = .ok x ↔ e.HasNumber name x := by
  simp only [requiredNumber, Failure.bind_eq_ok, requiredText_eq_ok_iff, HasNumber]
  exact exists_congr fun text => and_congr_right fun h =>
    readNumber_eq_ok_iff (trim_of_childText? h)

/-! ### Their faults -/

/-- The fault of a text that is missing, or the faults within it. -/
def textFaults (e : Element) (name : String) (within : String → List DocumentError) :
    List DocumentError :=
  required (e.childText? name) (.missingElement name) within

/-- The fault of a text that is no number, or is missing. -/
def numberFaults (e : Element) (name : String) : List DocumentError :=
  e.textFaults name fun text =>
    required (Decimal.readFloat? text.toList) (.invalidNumber name text) fun _ => []

/-- The fault of a text that is no count, or is missing. -/
def countFaults (e : Element) (name : String) : List DocumentError :=
  e.textFaults name fun text =>
    required (Decimal.readNatBelow? 0x100000000 text.toList) (.invalidNumber name text) fun _ => []

theorem textFaults_eq_nil_iff {within : String → List DocumentError} :
    e.textFaults name within = [] ↔ ∃ text, e.childText? name = some text ∧ within text = [] :=
  required_eq_nil_iff

theorem numberFaults_eq_nil_iff : e.numberFaults name = [] ↔ ∃ x, e.HasNumber name x := by
  simp only [numberFaults, textFaults_eq_nil_iff, required_eq_nil_iff, and_true, HasNumber]
  simp only [← exists_and_left]
  exact exists_comm

theorem countFaults_eq_nil_iff : e.countFaults name = [] ↔ ∃ n, e.HasCount name n := by
  simp only [countFaults, textFaults_eq_nil_iff, required_eq_nil_iff, and_true, HasCount,
    Decimal.readNatBelow?_eq_some_iff]
  simp only [← exists_and_left]
  exact exists_comm

theorem reports_requiredText_bind {α : Type} {f : String → Except DocumentError α}
    {within : String → List DocumentError}
    (hf : ∀ text, e.childText? name = some text → Reports (within text) (f text)) :
    Reports (e.textFaults name within) (e.requiredText name >>= f) := by
  unfold textFaults requiredText
  cases htext : e.childText? name with
  | none => exact .error _ _
  | some text => exact hf text htext

theorem reports_requiredText :
    Reports (e.textFaults name fun _ => []) (e.requiredText name) := by
  unfold textFaults requiredText
  cases e.childText? name with
  | none => exact .error _ _
  | some text => exact .ok text

theorem reports_readNumber {value : String} (h : Text.trim value.toList = value.toList)
    (name : String) :
    Reports (required (Decimal.readFloat? value.toList) (.invalidNumber name value) fun _ => [])
      (readNumber name value) := by
  unfold readNumber
  rw [h]
  cases Decimal.readFloat? value.toList with
  | none => exact .error _ _
  | some x => exact .ok x

theorem reports_requiredNumber :
    Reports (e.numberFaults name) (e.requiredNumber name) :=
  reports_requiredText_bind fun _ h => reports_readNumber (trim_of_childText? h) name

end Xml.Element

end MapServices
