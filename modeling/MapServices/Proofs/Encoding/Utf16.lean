import Mathlib.Data.List.Induction
import MapServices.Proofs.Encoding.Ascii

/-!
# Markup in UTF-16

Two bytes make up a unit of UTF-16. So bytes that are markup in ASCII are no markup in UTF-16.

* `Encoding.exists_foreign`: what such bytes are in UTF-16.
-/

namespace MapServices.Encoding

variable {indexes : Indexes} {e : Encoding}

/-- The bytes of the white space of markup. -/
def spaceBytes : List UInt8 := [0x20, 0x09, 0x0D, 0x0A]

/-- The unit is no half of a surrogate pair. -/
def IsSingle (u : Nat) : Prop := u < 0xD800 ∨ 0xE000 ≤ u

instance (u : Nat) : Decidable (IsSingle u) := inferInstanceAs (Decidable (_ ∨ _))

theorem decode_cons_cons {order : Utf16.ByteOrder} {a b : UInt8}
    (hunit : IsSingle (Utf16.unit order a b)) (rest : List UInt8) :
    Utf16.decode order (a :: b :: rest) =
      some (Char.ofNat (Utf16.unit order a b)) :: Utf16.decode order rest := by
  have hstep : Utf16.step none (Utf16.unit order a b) =
      ([some (Char.ofNat (Utf16.unit order a b))], none) := by
    unfold IsSingle at hunit
    have hlead : Utf16.isLead (Utf16.unit order a b) = false := by
      simp only [Utf16.isLead, Bool.and_eq_false_iff, decide_eq_false_iff_not]
      omega
    have htrail : Utf16.isTrail (Utf16.unit order a b) = false := by
      simp only [Utf16.isTrail, Bool.and_eq_false_iff, decide_eq_false_iff_not]
      omega
    simp [Utf16.step, Utf16.first, hlead, htrail]
  rw [Utf16.decode, Utf16.decodeFrom, hstep]
  rfl

theorem charsOf_cons_cons {order : Utf16.ByteOrder} (hscheme : e.scheme = .utf16 order)
    {a b : UInt8} (hunit : IsSingle (Utf16.unit order a b)) (rest : List UInt8) :
    e.charsOf indexes (a :: b :: rest) =
      Char.ofNat (Utf16.unit order a b) :: e.charsOf indexes rest := by
  simp only [charsOf, characters, hscheme, decode_cons_cons hunit]
  rfl

/-- The unit is a character by itself, and neither an angle bracket nor the byte order mark. -/
def IsOther (u : Nat) : Prop :=
  IsSingle u ∧ Char.ofNat u ≠ '<' ∧ Char.ofNat u ≠ '\uFEFF'

instance (u : Nat) : Decidable (IsOther u) := inferInstanceAs (Decidable (_ ∧ _))

theorem isOther_unit (order : Utf16.ByteOrder) {a b : UInt8} (ha : a ∈ spaceBytes)
    (hb : b ∈ 0x3C :: spaceBytes) : IsOther (Utf16.unit order a b) := by
  have hall : (spaceBytes.all fun a => (0x3C :: spaceBytes).all fun b =>
      IsOther (Utf16.unit order a b)) = true := by cases order <;> decide
  simp only [List.all_eq_true, decide_eq_true_eq] at hall
  exact hall a ha b hb

/-- White space and an angle bracket make up a unit that is no white space. -/
theorem isBlank_bracketUnit (order : Utf16.ByteOrder) {a : UInt8} (ha : a ∈ spaceBytes) :
    Text.isBlank (Char.ofNat (Utf16.unit order a 0x3C)) = false := by
  have hall : (spaceBytes.all fun a => !Text.isBlank (Char.ofNat (Utf16.unit order a 0x3C))) =
      true := by cases order <;> decide
  simpa using List.all_eq_true.1 hall a ha

/-- Markup in bytes of ASCII is something else in UTF-16. -/
theorem exists_foreign {order : Utf16.ByteOrder} (hscheme : e.scheme = .utf16 order)
    (spaces rest : List UInt8) (h : ∀ b ∈ spaces, b ∈ spaceBytes) :
    ∃ blanks c s, e.charsOf indexes (spaces ++ 0x3C :: 0x3F :: rest) = blanks ++ c :: s ∧
      (∀ d ∈ blanks, Text.isBlank d) ∧ Text.isBlank c = false ∧ c ≠ '<' ∧ c ≠ '\uFEFF' := by
  -- the bytes of two characters at a time are one unit
  induction spaces using List.twoStepInduction with
  | nil =>
    refine ⟨[], Char.ofNat (Utf16.unit order 0x3C 0x3F), e.charsOf indexes rest, ?_, by simp, ?_,
      ?_, ?_⟩
    · exact charsOf_cons_cons hscheme (by cases order <;> decide) rest
    all_goals cases order <;> decide
  | singleton a =>
    have ha := h a List.mem_cons_self
    obtain ⟨hsingle, hother⟩ := isOther_unit order ha (b := 0x3C) List.mem_cons_self
    exact ⟨[], _, _, charsOf_cons_cons hscheme hsingle (0x3F :: rest), by simp,
      isBlank_bracketUnit order ha, hother⟩
  | cons_cons a b spaces ih _ =>
    have hb := h b (List.mem_cons_of_mem _ List.mem_cons_self)
    obtain ⟨hsingle, hother⟩ :=
      isOther_unit order (h a List.mem_cons_self) (List.mem_cons_of_mem _ hb)
    have hchars : e.charsOf indexes (a :: b :: (spaces ++ 0x3C :: 0x3F :: rest)) = _ :=
      charsOf_cons_cons hscheme hsingle _
    by_cases hblank : Text.isBlank (Char.ofNat (Utf16.unit order a b))
    · obtain ⟨blanks, c, s, hrest, hblanks, hc⟩ := ih fun d hd =>
        h d (List.mem_cons_of_mem _ (List.mem_cons_of_mem _ hd))
      refine ⟨Char.ofNat (Utf16.unit order a b) :: blanks, c, s, ?_, ?_, hc⟩
      · rw [List.cons_append, List.cons_append, hchars, hrest, List.cons_append]
      · exact List.forall_mem_cons.2 ⟨hblank, hblanks⟩
    · exact ⟨[], _, _, hchars, by simp, by simpa using hblank, hother⟩

end MapServices.Encoding
