/-!
# ASCII letter case, and the search for a text in a text

Letter case means the letters `A` to `Z` only: every other character is its own lower and upper
case. Searching and cutting go by characters.

* `cut?_eq_some`: a cut loses nothing but the text that was searched for.
-/

namespace MapServices.Text

/-- The text with the letters `A` to `Z` in lower case. -/
def lower (s : List Char) : List Char := s.map Char.toLower

/-- The text with the letters `a` to `z` in upper case. -/
def upper (s : List Char) : List Char := s.map Char.toUpper

/-- The string with the letters `A` to `Z` in lower case. -/
def lowered (s : String) : String := String.ofList (lower s.toList)

/-- Whether two strings differ in the case of ASCII letters at most. -/
def sameIgnoringCase (s t : String) : Bool := lower s.toList == lower t.toList

/-- Whether `needle` occurs in the text. -/
def occursIn (needle : List Char) : List Char → Bool
  | [] => needle.isEmpty
  | c :: s => needle.isPrefixOf (c :: s) || occursIn needle s

/-- Whether one string occurs in another. -/
def occurs (needle s : String) : Bool := occursIn needle.toList s.toList

/-- What follows `start`, if the text starts with it. -/
def afterStart? (start s : List Char) : Option (List Char) :=
  if start.isPrefixOf s then some (s.drop start.length) else none

/-- What stands before and after the first occurrence of `needle`. -/
def cut? (needle : List Char) : List Char → Option (List Char × List Char)
  | [] => if needle.isEmpty then some ([], []) else none
  | c :: s =>
    if needle.isPrefixOf (c :: s) then some ([], (c :: s).drop needle.length)
    else (cut? needle s).map fun r => (c :: r.1, r.2)

theorem cut?_eq_some {needle s before after : List Char}
    (h : cut? needle s = some (before, after)) : s = before ++ needle ++ after := by
  induction s generalizing before with
  | nil => cases needle <;> simp_all [cut?]
  | cons c s ih =>
    unfold cut? at h
    split at h
    · rename_i hp
      obtain ⟨t, ht⟩ := List.isPrefixOf_iff_prefix.1 hp
      simp only [Option.some.injEq, Prod.mk.injEq] at h
      obtain ⟨rfl, rfl⟩ := h
      rw [← ht]; simp
    · obtain ⟨⟨b, a⟩, hr, he⟩ := Option.map_eq_some_iff.1 h
      simp only [Prod.mk.injEq] at he
      obtain ⟨rfl, rfl⟩ := he
      simp [ih hr]

/-- Whether the text starts with `start`, whatever the case of its ASCII letters. -/
def startsIgnoringCase (start s : List Char) : Bool := (lower start).isPrefixOf (lower s)

/-- What stands before and after the first character equal to `c`. -/
def cutAt? (c : Char) (s : List Char) : Option (List Char × List Char) := cut? [c] s

/-- The number of bytes that the text takes in UTF-8. -/
def byteCount : List Char → Nat
  | [] => 0
  | c :: s => c.utf8Size + byteCount s

end MapServices.Text
