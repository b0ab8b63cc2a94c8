import Mathlib.Algebra.Group.Nat.Defs
import Mathlib.Data.List.Basic
import MapServices.Proofs.Instant.Calendar
import MapServices.Proofs.Text.Ascii
import MapServices.Proofs.Text.Blank

/-!
# Points in time and their text

A point in time of a year with four digits is read back from its text: the zeros in front of a
number do not change its value, each number ends at the mark behind it, and the day that is read is
the day that was written.

* `Instant.IsUtc`: the times that universal time has in the years 0 to 9999.
* `Instant.read?_print`: such a time is read back from its text.
-/

namespace MapServices.Instant

variable {digits rest : List Char} {width n : Nat}

/-! ## Digits -/

theorem digitsValue_eq (digits : List Char) :
    Decimal.digitsValue digits = Nat.ofDigitChars 10 digits 0 := rfl

theorem isDigit_of_mem_padded {c : Char} (h : c ∈ padded width n) : c.isDigit := by
  rcases List.mem_append.1 h with hzero | hdigit
  · rw [List.eq_of_mem_replicate hzero]
    rfl
  · exact Nat.isDigit_of_mem_toDigits (by decide) (by decide) hdigit

theorem length_padded (hwidth : 0 < width) (h : n < 10 ^ width) :
    (padded width n).length = width := by
  have hle : (Nat.toDigits 10 n).length ≤ width :=
    (Nat.length_toDigits_le_iff (by decide) hwidth).2 h
  simp only [padded, List.length_append, List.length_replicate]
  omega

theorem digitsValue_padded (width n : Nat) : Decimal.digitsValue (padded width n) = n := by
  rw [digitsValue_eq, padded, Nat.ofDigitChars_append, Nat.ofDigitChars_replicate_zero,
    Nat.mul_zero, Nat.ofDigitChars_ten_toDigits]

/-- The text starts with a character that is no digit. -/
def Ends (s : List Char) : Prop := ∃ c rest, s = c :: rest ∧ c.isDigit = false

theorem Ends.cons {c : Char} (h : c.isDigit = false) (rest : List Char) : Ends (c :: rest) :=
  ⟨c, rest, rfl, h⟩

theorem takeWhile_append (h : ∀ c ∈ digits, c.isDigit) (hrest : Ends rest) :
    (digits ++ rest).takeWhile Char.isDigit = digits := by
  obtain ⟨c, s, rfl, hc⟩ := hrest
  rw [List.takeWhile_append_of_pos h, List.takeWhile_cons_of_neg (by simp [hc]), List.append_nil]

theorem padded_ne_nil (width n : Nat) : padded width n ≠ [] :=
  List.append_ne_nil_of_right_ne_nil _ Nat.toDigits_ne_nil

theorem readDigits?_padded (hwidth : 0 < width) (h : n < 10 ^ width) (hrest : Ends rest) :
    readDigits? width (padded width n ++ rest) = some (n, rest) := by
  have hlength := length_padded hwidth h
  have htake : (padded width n).take width = padded width n :=
    List.take_of_length_le (Nat.le_of_eq hlength)
  simp only [readDigits?, takeWhile_append (fun _ => isDigit_of_mem_padded) hrest, htake]
  rw [if_neg (by simpa using padded_ne_nil width n), digitsValue_padded, List.drop_left]

theorem exists_padded (width n : Nat) : ∃ c s, padded width n = c :: s ∧ c.isDigit := by
  obtain ⟨c, s, hs⟩ := List.exists_cons_of_ne_nil (padded_ne_nil width n)
  exact ⟨c, s, hs, isDigit_of_mem_padded (hs ▸ List.mem_cons_self)⟩

theorem trimStart_padded (width n : Nat) (rest : List Char) :
    Text.trimStart (padded width n ++ rest) = padded width n ++ rest := by
  obtain ⟨c, s, hs, hc⟩ := exists_padded width n
  rw [hs]
  exact Text.trimStart_eq_self_iff.2 (by simpa using Text.isBlank_of_isDigit hc)

/-! ## The parts of a text -/

theorem readPair?_padded {low high : Nat} (hlow : low ≤ n) (hhigh : n ≤ high) (hmax : high < 100)
    (hrest : Ends rest) : readPair? low high (padded 2 n ++ rest) = some (n, rest) := by
  have hread := readDigits?_padded (show 0 < 2 by decide) (show n < 10 ^ 2 by omega) hrest
  simp [readPair?, trimStart_padded, hread, hlow, hhigh]

theorem readYear?_padded (h : n < 10000) (hrest : Ends rest) :
    readYear? (padded 4 n ++ rest) = some ((n : Int), rest) := by
  have hread := readDigits?_padded (show 0 < 4 by decide) (show n < 10 ^ 4 by omega) hrest
  obtain ⟨c, s, hs, hc⟩ := exists_padded 4 n
  rw [readYear?, trimStart_padded]
  rw [hs, List.cons_append] at hread ⊢
  split
  · rename_i heq
    rw [(List.cons.inj heq).1] at hc
    cases hc
  · rename_i heq
    rw [(List.cons.inj heq).1] at hc
    cases hc
  · rw [hread]
    rfl

theorem readMark?_cons {mark : Char} (h : Text.isBlank mark = false) (rest : List Char) :
    readMark? mark (mark :: rest) = some rest := by
  have htrim : Text.trimStart (mark :: rest) = mark :: rest :=
    Text.trimStart_eq_self_iff.2 (by simpa using h)
  simp [readMark?, htrim]

/-- The digits that are left out of a fraction are zeros. -/
theorem readFraction?_padded (hwidth : 0 < width) (hmax : width ≤ 9) (h : n < 10 ^ width)
    (hrest : Ends rest) :
    readFraction? ('.' :: padded width n ++ rest) = some (n * 10 ^ (9 - width), rest) := by
  have hlength := length_padded hwidth h
  have htake : (padded width n).take 9 = padded width n := List.take_of_length_le (by omega)
  simp only [readFraction?, List.cons_append, htake,
    takeWhile_append (fun _ => isDigit_of_mem_padded) hrest]
  rw [if_neg (by simpa using padded_ne_nil width n), digitsValue_padded, hlength,
    List.drop_left' hlength]
  rfl

theorem readFraction?_fractionText (h : n < 1000000000) :
    readFraction? (fractionText n ++ ['Z']) = some (n, ['Z']) := by
  have hrest : Ends ['Z'] := .cons rfl []
  unfold fractionText
  split
  · rename_i hzero
    rw [hzero]
    rfl
  split
  · have hread := readFraction?_padded (by decide) (show 3 ≤ 9 by decide)
      (show n / 1000000 < 10 ^ 3 by omega) hrest
    rw [hread]
    simp only [Option.some.injEq, Prod.mk.injEq, and_true]
    omega
  split
  · have hread := readFraction?_padded (by decide) (show 6 ≤ 9 by decide)
      (show n / 1000 < 10 ^ 6 by omega) hrest
    rw [hread]
    simp only [Option.some.injEq, Prod.mk.injEq, and_true]
    omega
  · have hread := readFraction?_padded (by decide) (show 9 ≤ 9 by decide)
      (show n < 10 ^ 9 by omega) hrest
    rw [hread]
    simp

/-! ## Universal time -/

/-- The day of a point in time. -/
def date (t : Instant) : Date := Date.ofDays (t.seconds.fdiv 86400)

/-- A time of the years 0 to 9999; a leap second is the last of its minute. -/
structure IsUtc (t : Instant) : Prop where
  year : 0 ≤ t.date.year ∧ t.date.year ≤ 9999
  nanoseconds : t.nanoseconds < 1000000000 ∨
    t.nanoseconds < 2000000000 ∧ t.seconds.fmod 60 = 59

theorem eq_of_parts {s t : Instant} (hseconds : s.seconds = t.seconds)
    (hnanoseconds : s.nanoseconds = t.nanoseconds) : s = t := by
  cases s
  cases t
  cases hseconds
  cases hnanoseconds
  rfl

theorem ends_fractionText (n : Nat) : Ends (fractionText n ++ ['Z']) := by
  unfold fractionText
  split
  · exact .cons rfl []
  · split <;> try split
    all_goals exact .cons rfl _

/-- The text of a time of day of a date, in universal time. -/
def textOf (year month day hour minute second fraction : Nat) : List Char :=
  padded 4 year ++ '-' :: (padded 2 month ++ '-' :: (padded 2 day ++ 'T' :: (padded 2 hour ++
    ':' :: (padded 2 minute ++ ':' :: (padded 2 second ++ (fractionText fraction ++ ['Z']))))))

theorem readChars?_textOf {year month day hour minute second fraction : Nat}
    (hdate : Date.isValid ⟨year, month, day⟩) (hyear : year < 10000) (hhour : hour ≤ 23)
    (hminute : minute ≤ 59) (hsecond : second ≤ 60) (hfraction : fraction < 1000000000) :
    readChars? (textOf year month day hour minute second fraction) = some {
      seconds := Date.toDays ⟨year, month, day⟩ * 86400 +
        (hour * 3600 + minute * 60 + (if second = 60 then 59 else second))
      nanoseconds := if second = 60 then fraction + 1000000000 else fraction } := by
  obtain ⟨⟨hmonth0, hmonth1⟩, hday0, hday1⟩ := Date.ranges_of_isValid hdate
  have hmonth : ∀ rest,
      readPair? 1 12 (padded 2 month ++ '-' :: rest) = some (month, '-' :: rest) := fun rest =>
    readPair?_padded hmonth0 hmonth1 (by decide) (.cons rfl rest)
  have hday : ∀ rest, readPair? 1 31 (padded 2 day ++ 'T' :: rest) = some (day, 'T' :: rest) :=
    fun rest => readPair?_padded hday0 hday1 (by decide) (.cons rfl rest)
  have hhour : ∀ rest, readPair? 0 23 (padded 2 hour ++ ':' :: rest) = some (hour, ':' :: rest) :=
    fun rest => readPair?_padded (Nat.zero_le _) hhour (by decide) (.cons rfl rest)
  have hminute : ∀ rest,
      readPair? 0 59 (padded 2 minute ++ ':' :: rest) = some (minute, ':' :: rest) := fun rest =>
    readPair?_padded (Nat.zero_le _) hminute (by decide) (.cons rfl rest)
  have hsecond := readPair?_padded (Nat.zero_le _) hsecond (by decide) (ends_fractionText fraction)
  have hdash : ∀ rest, readMark? '-' ('-' :: rest) = some rest := readMark?_cons (by decide)
  have hcolon : ∀ rest, readMark? ':' (':' :: rest) = some rest := readMark?_cons (by decide)
  have hoffset : readOffset? (Text.trimStart ['Z']) = some (0, []) := by decide
  -- one step for each part of the text
  refine Option.bind_eq_some_iff.2 ⟨_, readYear?_padded hyear (.cons rfl _), ?_⟩
  refine Option.bind_eq_some_iff.2 ⟨_, hdash _, ?_⟩
  refine Option.bind_eq_some_iff.2 ⟨_, hmonth _, ?_⟩
  refine Option.bind_eq_some_iff.2 ⟨_, hdash _, ?_⟩
  refine Option.bind_eq_some_iff.2 ⟨_, hday _, ?_⟩
  refine Option.bind_eq_some_iff.2 ⟨_, rfl, ?_⟩
  refine Option.bind_eq_some_iff.2 ⟨_, hhour _, ?_⟩
  refine Option.bind_eq_some_iff.2 ⟨_, hcolon _, ?_⟩
  refine Option.bind_eq_some_iff.2 ⟨_, hminute _, ?_⟩
  refine Option.bind_eq_some_iff.2 ⟨_, hcolon _, ?_⟩
  refine Option.bind_eq_some_iff.2 ⟨_, hsecond, ?_⟩
  refine Option.bind_eq_some_iff.2 ⟨_, readFraction?_fractionText hfraction, ?_⟩
  refine Option.bind_eq_some_iff.2 ⟨_, hoffset, ?_⟩
  have hend : Text.trimStart [] = [] := rfl
  simp [hend, hdate]

theorem chars_eq_textOf {t : Instant} (h : 0 ≤ t.date.year ∧ t.date.year ≤ 9999) {second : Nat}
    (hsecond : (second : Int) = t.seconds.fmod 86400) :
    t.chars = textOf t.date.year.toNat t.date.month t.date.day (second / 3600) (second / 60 % 60)
      (second % 60 + if 1000000000 ≤ t.nanoseconds then 1 else 0) (t.nanoseconds % 1000000000) := by
  have hyear : yearText t.date.year = padded 4 t.date.year.toNat := by
    rw [yearText, if_pos (by simp [h.1, h.2])]
  have hday : (t.seconds.fmod 86400).toNat = second := by omega
  rw [textOf, ← hyear, ← hday]
  simp only [chars, date, List.append_assoc, List.cons_append]

theorem readChars?_chars {t : Instant} (h : t.IsUtc) : readChars? t.chars = some t := by
  obtain ⟨⟨hyear0, hyear1⟩, hnano⟩ := h
  have hvalid : t.date.isValid := Date.isValid_ofDays ⟨hyear0, hyear1⟩
  have hdays : t.date.toDays = t.seconds.fdiv 86400 := Date.toDays_ofDays _
  have hdate : t.date = ⟨t.date.year.toNat, t.date.month, t.date.day⟩ := by
    rw [Int.toNat_of_nonneg hyear0]
  rw [hdate] at hvalid hdays
  have hsum := Int.mul_fdiv_add_fmod t.seconds 86400
  have hlow := Int.fmod_nonneg_of_pos t.seconds (show (0 : Int) < 86400 by decide)
  have hhigh := Int.fmod_lt_of_pos t.seconds (show (0 : Int) < 86400 by decide)
  obtain ⟨second, hsecond⟩ := Int.eq_ofNat_of_zero_le hlow
  have hminute : t.seconds.fmod 60 = second % 60 := by
    rw [Int.fmod_eq_emod_of_nonneg _ (by decide)] at hsecond ⊢
    omega
  rw [chars_eq_textOf ⟨hyear0, hyear1⟩ hsecond.symm]
  rw [hminute] at hnano
  by_cases hleap : 1000000000 ≤ t.nanoseconds
  · -- a leap second is written as the second 60
    have hlast : second % 60 + (if 1000000000 ≤ t.nanoseconds then 1 else 0) = 60 := by
      rw [if_pos hleap]
      omega
    rw [hlast, readChars?_textOf hvalid (by omega) (by omega) (by omega) (by omega) (by omega),
      hdays]
    refine congrArg some (eq_of_parts ?_ ?_)
    · simp only [if_pos]
      omega
    · simp only [if_pos]
      omega
  · have hlast : second % 60 + (if 1000000000 ≤ t.nanoseconds then 1 else 0) = second % 60 := by
      rw [if_neg hleap, Nat.add_zero]
    have hordinary : second % 60 ≠ 60 := by omega
    rw [hlast, readChars?_textOf hvalid (by omega) (by omega) (by omega) (by omega) (by omega),
      hdays]
    refine congrArg some (eq_of_parts ?_ ?_)
    · simp only [if_neg hordinary]
      omega
    · simp only [if_neg hordinary]
      omega

theorem read?_print {t : Instant} (h : t.IsUtc) : read? t.print = some t := by
  rw [read?, print, String.toList_ofList, readChars?_chars h]

end MapServices.Instant
