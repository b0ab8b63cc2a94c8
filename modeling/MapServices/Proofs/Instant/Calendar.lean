import MapServices.Instant

/-!
# The calendar

A day of a cycle of 400 years is found in steps: the century, the group of four years in it, the
year of the group, and the day of the year counted from March. The last century of the cycle, and
the last year of a group that ends in a leap year, are one day longer than the others.

* `Date.exists_placed`: each day of the cycle has its place.
* `Date.toDays_ofDays`: the days of the calendar are numbered one by one.
* `Date.isValid_ofDays`: a day is found by its number in the calendar.
-/

namespace MapServices.Date

/-- The place of a day in a cycle of 400 years: its century, the group of four years, the year of
the group and the day of the year. The year after a leap day is complete. -/
structure Placed (dayOfEra century group year dayOfYear : Int) : Prop where
  century_mem : 0 ≤ century ∧ century ≤ 3
  group_mem : 0 ≤ group ∧ group ≤ 24
  year_mem : 0 ≤ year ∧ year ≤ 3
  dayOfYear_mem : 0 ≤ dayOfYear ∧
    (dayOfYear ≤ 364 ∨ dayOfYear = 365 ∧ year = 3 ∧ (group < 24 ∨ century = 3))
  sum : dayOfEra = 36524 * century + 1461 * group + 365 * year + dayOfYear

theorem exists_placed {d : Int} (h0 : 0 ≤ d) (h1 : d < 146097) :
    ∃ century group year dayOfYear, Placed d century group year dayOfYear := by
  -- the last day of a cycle, of a century and of a group belongs to no further part
  obtain ⟨b, r, hb, hr, rfl⟩ : ∃ b r : Int, (0 ≤ b ∧ b ≤ 3) ∧
      (0 ≤ r ∧ (r < 36524 ∨ r = 36524 ∧ b = 3)) ∧ d = 36524 * b + r := by
    by_cases h : d = 146096
    · exact ⟨3, 36524, by omega⟩
    · exact ⟨d / 36524, d % 36524, by omega⟩
  obtain ⟨q, s, hq, hs, rfl⟩ : ∃ q s : Int, (0 ≤ q ∧ q ≤ 24) ∧
      (0 ≤ s ∧ s < 1461 ∧ (s = 1460 → q < 24 ∨ b = 3)) ∧ r = 1461 * q + s :=
    ⟨r / 1461, r % 1461, by omega⟩
  obtain ⟨k, t, hk, ht, rfl⟩ : ∃ k t : Int, (0 ≤ k ∧ k ≤ 3) ∧
      (0 ≤ t ∧ (t ≤ 364 ∨ t = 365 ∧ k = 3 ∧ (q < 24 ∨ b = 3))) ∧ s = 365 * k + t := by
    by_cases h : s = 1460
    · exact ⟨3, 365, by omega⟩
    · exact ⟨s / 365, s % 365, by omega⟩
  exact ⟨b, q, k, t, hb, hq, hk, ht, by omega⟩

namespace Placed

variable {d b q k t : Int}

/-- The year that `ofDays` computes, which takes the days that are too many off first. -/
theorem year_eq (h : Placed d b q k t) :
    (d - d / 1460 + d / 36524 - d / 146096) / 365 = 100 * b + 4 * q + k := by
  obtain ⟨hb, hq, hk, ht, rfl⟩ := h
  generalize hd : 36524 * b + 1461 * q + 365 * k + t = d
  have hgroups : d / 1460 = 25 * b + q + if 1460 ≤ 24 * b + q + 365 * k + t then 1 else 0 := by
    split <;> omega
  have hcenturies : d / 36524 - d / 146096 = b := by
    by_cases hlast : d = 146096
    · omega
    · have hshort : 1461 * q + 365 * k + t < 36524 := by omega
      omega
  rw [Int.add_sub_assoc, hcenturies, hgroups]
  split <;> omega

/-- The days before the year. -/
theorem dayOfYear_eq (h : Placed d b q k t) {y : Int} (hy : y = 100 * b + 4 * q + k) :
    d - (365 * y + y / 4 - y / 100) = t := by
  obtain ⟨hb, hq, hk, ht, rfl⟩ := h
  have hleap : y / 4 = 25 * b + q := by omega
  have hcentury : y / 100 = b := by omega
  omega

/-- Only a year before March of a leap year has a day more. -/
theorem isLeapYear (h : Placed d b q k t) (ht : t = 365) {y : Int}
    (hy : y = 100 * b + 4 * q + k) (era : Int) : isLeapYear (y + 1 + era * 400) := by
  obtain ⟨hb, hq, hk, hday, rfl⟩ := h
  simp only [Date.isLeapYear, Bool.and_eq_true, Bool.or_eq_true, decide_eq_true_eq, ne_eq]
  omega

end Placed

/-- The date of a day of a year, both counted from March. -/
def ofMarch (year dayOfYear : Int) : Date :=
  let month := (5 * dayOfYear + 2) / 153
  let calendarMonth := if month < 10 then month + 3 else month - 9
  ⟨year + (if calendarMonth ≤ 2 then 1 else 0), calendarMonth.toNat,
    (dayOfYear - (153 * month + 2) / 5 + 1).toNat⟩

theorem ofDays_eq (days : Int) : ∃ era y t : Int, (0 ≤ y ∧ y < 400) ∧ (0 ≤ t ∧ t ≤ 365) ∧
    (t = 365 → isLeapYear (y + 1 + era * 400)) ∧
    days + 719468 = era * 146097 + (365 * y + y / 4 - y / 100 + t) ∧
    ofDays days = ofMarch (y + era * 400) t := by
  have hera := Int.mul_fdiv_add_fmod (days + 719468) 146097
  have hlow := Int.fmod_nonneg_of_pos (days + 719468) (show (0 : Int) < 146097 by decide)
  have hhigh := Int.fmod_lt_of_pos (days + 719468) (show (0 : Int) < 146097 by decide)
  obtain ⟨b, q, k, t, h⟩ := exists_placed
    (d := days + 719468 - (days + 719468).fdiv 146097 * 146097) (by omega) (by omega)
  have hday := h.dayOfYear_eq h.year_eq
  have hleap := fun ht => h.isLeapYear ht h.year_eq ((days + 719468).fdiv 146097)
  have hyear := h.year_eq
  obtain ⟨hb, hq, hk, ht, -⟩ := h
  refine ⟨(days + 719468).fdiv 146097, _, t, ⟨?_, ?_⟩, ⟨ht.1, by omega⟩, hleap, ?_, ?_⟩
  · omega
  · omega
  · omega
  · unfold ofDays ofMarch
    simp only [hday]

theorem toDays_ofMarch {era y t : Int} (hy : 0 ≤ y ∧ y < 400) (ht : 0 ≤ t ∧ t ≤ 365) :
    (ofMarch (y + era * 400) t).toDays =
      era * 146097 + (365 * y + y / 4 - y / 100 + t) - 719468 := by
  obtain ⟨month, hmonth⟩ : ∃ month, month = (5 * t + 2) / 153 := ⟨_, rfl⟩
  have hrange : 0 ≤ month ∧ month ≤ 11 := by omega
  have hday : 0 ≤ t - (153 * month + 2) / 5 := by omega
  have hera : (y + era * 400).fdiv 400 = era := by
    rw [Int.fdiv_eq_ediv_of_nonneg _ (by decide)]
    omega
  simp only [ofMarch, toDays, ← hmonth]
  -- January and February are in the year after the one that is counted from March
  by_cases hlate : month < 10
  · have hcount : (((month + 3).toNat : Int) + 9) % 12 = month := by omega
    have hsame : ¬ month + 3 ≤ 2 := by omega
    have hmarch : ¬ (month + 3).toNat ≤ 2 := by omega
    simp only [if_pos hlate, hcount, if_neg hsame, if_neg hmarch, Int.add_zero, hera]
    omega
  · have hcount : (((month - 9).toNat : Int) + 9) % 12 = month := by omega
    have hnext : month - 9 ≤ 2 := by omega
    have hmarch : (month - 9).toNat ≤ 2 := by omega
    simp only [if_neg hlate, hcount, if_pos hnext, if_pos hmarch, Int.add_sub_cancel, hera]
    omega

theorem toDays_ofDays (days : Int) : (ofDays days).toDays = days := by
  obtain ⟨era, y, t, hy, ht, -, hsum, heq⟩ := ofDays_eq days
  rw [heq, toDays_ofMarch hy ht]
  omega

theorem month_ofMarch {y t : Int} (ht : 0 ≤ t ∧ t ≤ 365) :
    1 ≤ (ofMarch y t).month ∧ (ofMarch y t).month ≤ 12 ∧ 1 ≤ (ofMarch y t).day := by
  simp only [ofMarch]
  split <;> omega

/-- The day is one of its month; the last day of February is one of a leap year. -/
theorem day_ofMarch_le {y t : Int} (ht : 0 ≤ t ∧ t ≤ 365) (hleap : t = 365 → isLeapYear (y + 1)) :
    (ofMarch y t).day ≤ daysInMonth (ofMarch y t).year (ofMarch y t).month := by
  obtain ⟨month, hmonth⟩ : ∃ month, month = (5 * t + 2) / 153 := ⟨_, rfl⟩
  have hrange : 0 ≤ month ∧ month ≤ 11 := by omega
  simp only [ofMarch, ← hmonth]
  by_cases hfebruary : month = 11
  · subst hfebruary
    have hday : (t - (153 * 11 + 2) / 5 + 1).toNat ≤ if isLeapYear (y + 1) then 29 else 28 := by
      by_cases hlast : t = 365
      · rw [if_pos (hleap hlast), hlast]
        decide
      · split <;> omega
    simpa [daysInMonth] using hday
  · have hnot : ¬ (if month < 10 then month + 3 else month - 9).toNat = 2 := by split <;> omega
    rw [daysInMonth, if_neg hnot]
    by_cases hshort : month = 1 ∨ month = 3 ∨ month = 6 ∨ month = 8
    · have hle : ∀ p : Prop, [Decidable p] → 30 ≤ if p then 30 else 31 := by
        intro p _
        split <;> omega
      exact Nat.le_trans (by omega) (hle _)
    · rw [if_neg]
      · omega
      · simp only [Bool.or_eq_true, decide_eq_true_eq]
        split <;> omega

theorem isValid_ofMarch {y t : Int} (ht : 0 ≤ t ∧ t ≤ 365) (hleap : t = 365 → isLeapYear (y + 1))
    (hyear : 0 ≤ (ofMarch y t).year ∧ (ofMarch y t).year ≤ 9999) : (ofMarch y t).isValid := by
  have hday := day_ofMarch_le ht hleap
  have hmonth := month_ofMarch (y := y) ht
  simp only [isValid, Bool.and_eq_true, decide_eq_true_eq]
  omega

/-- The days of the calendar are found, in the years that are written with four digits. -/
theorem isValid_ofDays {days : Int} (h : 0 ≤ (ofDays days).year ∧ (ofDays days).year ≤ 9999) :
    (ofDays days).isValid := by
  obtain ⟨era, y, t, -, ht, hleap, -, heq⟩ := ofDays_eq days
  rw [heq] at h ⊢
  refine isValid_ofMarch ht (fun hlast => ?_) h
  rw [Int.add_right_comm]
  exact hleap hlast

theorem ranges_of_isValid {d : Date} (h : d.isValid) :
    (1 ≤ d.month ∧ d.month ≤ 12) ∧ 1 ≤ d.day ∧ d.day ≤ 31 := by
  have hdays : daysInMonth d.year d.month ≤ 31 := by
    unfold daysInMonth
    split
    · split <;> decide
    · split <;> decide
  simp only [isValid, Bool.and_eq_true, decide_eq_true_eq] at h
  omega

end MapServices.Date
