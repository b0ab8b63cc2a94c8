import Mathlib.Data.List.Nodup
import Mathlib.Data.List.Sort
import Mathlib.Tactic.Ring
import MapServices.Proofs.Lists
import MapServices.Url.Punycode

/-!
# Punycode loses nothing

The encoder and the decoder go through the characters beyond ASCII in the same order. `InStep` says
that the decoder, having read what the encoder has written, is about to get the number that the
encoder is counting.

* `decode?_encode`: what is written for a label is read as that label.
* `encode_eq`: beyond the ASCII characters of the label and a hyphen, digits of base 36
  are all that is written.
-/

namespace MapServices.Url.Punycode

/-! ### Numbers -/

theorem digitValue?_digitChar {d : Nat} (h : d < 36) : digitValue? (digitChar d) = some d := by
  have hall : ∀ d ∈ List.range 36, digitValue? (digitChar d) = some d := by decide
  exact hall d (List.mem_range.2 h)

/-- A number is read as it was written. What follows it is left alone. -/
theorem readNumber?_numberDigits (bias k weight n q : Nat) (rest : List Char) :
    readNumber? bias k weight n (numberDigits bias k q ++ rest) = some (n + q * weight, rest) := by
  induction q using Nat.strongRecOn generalizing k weight n with
  | _ q ih =>
    have hpos := limit_pos bias k
    have hle := limit_le bias k
    rw [numberDigits]
    by_cases hq : q < limit bias k
    · have hdigit : q < 36 := by omega
      simp [hq, readNumber?, digitValue?_digitChar hdigit]
    · have hmod : (q - limit bias k) % (36 - limit bias k) < 36 - limit bias k :=
        Nat.mod_lt _ (by omega)
      have hdigit : limit bias k + (q - limit bias k) % (36 - limit bias k) < 36 := by omega
      have hsmaller : (q - limit bias k) / (36 - limit bias k) < q := by
        have := Nat.div_le_self (q - limit bias k) (36 - limit bias k)
        omega
      have hsum : limit bias k + (q - limit bias k) % (36 - limit bias k) +
          (q - limit bias k) / (36 - limit bias k) * (36 - limit bias k) = q := by
        have := Nat.mod_add_div' (q - limit bias k) (36 - limit bias k)
        omega
      simp only [hq, if_false, List.cons_append, readNumber?, digitValue?_digitChar hdigit,
        Option.bind_eq_bind, Option.bind_some]
      rw [if_neg (by omega), ih _ hsmaller]
      congr 2
      generalize (q - limit bias k) % (36 - limit bias k) = r at hsum ⊢
      generalize (q - limit bias k) / (36 - limit bias k) = p at hsum ⊢
      generalize 36 - limit bias k = m at hsum ⊢
      calc n + (limit bias k + r) * weight + p * (weight * m)
          = n + (limit bias k + r + p * m) * weight := by ring
        _ = n + q * weight := by rw [hsum]

theorem length_numberDigits_pos (bias k q : Nat) : 0 < (numberDigits bias k q).length := by
  rw [numberDigits]
  split <;> simp

/-! ### The decoder follows the encoder -/

/-- From the given state on, the decoder turns the digits into the label. -/
def Restores (bias code place : Nat) (placed label digits : List Char) : Prop :=
  ∀ fuel, digits.length ≤ fuel → insertAll? fuel bias code place placed digits = some label

theorem Restores.done (bias code place : Nat) (label : List Char) :
    Restores bias code place label label [] := by
  intro fuel _
  cases fuel <;> rfl

/-- The decoder reads a number and inserts the next character. -/
theorem Restores.number {bias code place delta index : Nat} {placed label digits : List Char}
    {c : Char} (hcode : code ≤ c.toNat) (hindex : index ≤ placed.length)
    (hdelta : place + delta = (c.toNat - code) * (placed.length + 1) + index)
    (h : Restores (adapt delta (placed.length + 1) (place = 0)) c.toNat (index + 1)
      (placed.take index ++ c :: placed.drop index) label digits) :
    Restores bias code place placed label (numberDigits bias 36 delta ++ digits) := by
  intro fuel hfuel
  have hlength := length_numberDigits_pos bias 36 delta
  rw [List.length_append] at hfuel
  obtain ⟨fuel, rfl⟩ : ∃ f, fuel = f + 1 := ⟨fuel - 1, by omega⟩
  obtain ⟨d, digits', hd⟩ : ∃ d digits', numberDigits bias 36 delta ++ digits = d :: digits' := by
    cases hnumber : numberDigits bias 36 delta with
    | nil => simp [hnumber] at hlength
    | cons d ds => exact ⟨d, ds ++ digits, rfl⟩
  have hread := readNumber?_numberDigits bias 36 1 0 delta digits
  have hdiv : (place + delta) / (placed.length + 1) = c.toNat - code := by
    rw [hdelta, Nat.mul_comm, Nat.mul_add_div (by omega), Nat.div_eq_of_lt (by omega)]
    rfl
  have hmod : (place + delta) % (placed.length + 1) = index := by
    rw [hdelta, Nat.mul_comm, Nat.mul_add_mod, Nat.mod_eq_of_lt (by omega)]
  have hvalid : c.toNat.isValidChar := c.valid
  rw [hd] at hread ⊢
  simp only [insertAll?, hread, Option.bind_eq_bind, Option.bind_some, Nat.zero_add, Nat.mul_one,
    hdiv, hmod, Nat.add_sub_cancel' hcode, hvalid, if_true, Char.ofNat_toNat]
  exact h fuel (by omega)

/-- The encoder has visited the first part of a label for the characters with number `code`, and
the decoder, which has placed what the encoder has placed, stands at `reached` and `place`. -/
structure InStep (basic code : Nat) (visited rest : List Char) (e : Encoder)
    (reached place : Nat) : Prop where
  reached_le : reached ≤ code
  placed : e.placed =
    (visited.filter (·.toNat ≤ code) ++ rest.filter (·.toNat < code)).length
  delta : place + e.delta =
    (code - reached) * (e.placed + 1) + (visited.filter (·.toNat ≤ code)).length
  basic_le : basic ≤ e.placed
  isFirst : e.placed = basic ↔ place = 0

namespace InStep

variable {basic code reached place : Nat} {visited rest : List Char} {c : Char} {e : Encoder}

/-- A character that was placed before is counted. -/
theorem visit_lt (h : InStep basic code visited (c :: rest) e reached place)
    (hc : c.toNat < code) :
    InStep basic code (visited ++ [c]) rest { e with delta := e.delta + 1 } reached place := by
  obtain ⟨hreached, hplaced, hdelta, hbasic, hfirst⟩ := h
  have hle : c.toNat ≤ code := by omega
  refine ⟨hreached, ?_, ?_, hbasic, hfirst⟩
  · simpa [hc, hle] using hplaced
  · simp only [List.filter_append, List.length_append, List.filter_cons, hle, decide_true, if_true,
      List.filter_nil, List.length_singleton]
    omega

/-- A character that is placed later is passed over. -/
theorem visit_gt (h : InStep basic code visited (c :: rest) e reached place)
    (hc : code < c.toNat) : InStep basic code (visited ++ [c]) rest e reached place := by
  obtain ⟨hreached, hplaced, hdelta, hbasic, hfirst⟩ := h
  have hlt : ¬ c.toNat < code := by omega
  have hle : ¬ c.toNat ≤ code := by omega
  refine ⟨hreached, ?_, ?_, hbasic, hfirst⟩
  · simpa [hlt, hle] using hplaced
  · simpa [hle] using hdelta

theorem visit_of_eq (hc : c.toNat = code) :
    e.visit basic code c =
      { delta := 0
        bias := adapt e.delta (e.placed + 1) (e.placed = basic)
        placed := e.placed + 1
        written := e.written ++ numberDigits e.bias 36 e.delta } := by
  simp [Encoder.visit, hc]

/-- A character that is placed now goes where the visited part of the label ends. -/
theorem visit_eq (h : InStep basic code visited (c :: rest) e reached place)
    (hc : c.toNat = code) :
    InStep basic code (visited ++ [c]) rest (e.visit basic code c) code
      ((visited.filter (·.toNat ≤ code)).length + 1) := by
  obtain ⟨-, hplaced, -, hbasic, -⟩ := h
  have hle : c.toNat ≤ code := by omega
  have hrest : (c :: rest).filter (·.toNat < code) = rest.filter (·.toNat < code) := by
    simp [hc]
  rw [hrest] at hplaced
  rw [visit_of_eq hc]
  refine ⟨le_refl _, ?_, ?_, ?_, ?_⟩
  · simp only [hplaced, List.filter_append, List.length_append, List.filter_cons, hle,
      decide_true, if_true, List.filter_nil, List.length_singleton]
    omega
  · simp [hle]
  · show basic ≤ e.placed + 1
    omega
  · show e.placed + 1 = basic ↔ _
    omega

/-- After a look at the whole label, the next number is in turn. -/
theorem next (h : InStep basic code visited [] e reached place) :
    reached ≤ code + 1 ∧ e.placed = (visited.filter (·.toNat < code + 1)).length ∧
      place + (e.delta + 1) = (code + 1 - reached) * (e.placed + 1) := by
  obtain ⟨hreached, hplaced, hdelta, -, -⟩ := h
  have hle : ∀ c : Char, decide (c.toNat < code + 1) = decide (c.toNat ≤ code) := by
    intro c
    exact decide_eq_decide.2 Nat.lt_succ_iff
  have hsplit : code + 1 - reached = (code - reached) + 1 := by omega
  simp only [List.filter_nil, List.append_nil] at hplaced
  refine ⟨by omega, by simpa only [hle] using hplaced, ?_⟩
  rw [hsplit, Nat.add_mul, Nat.one_mul]
  omega

end InStep

/-- The digits that are written from now on bring the decoder from where it stands to the label. -/
def Follows (label : List Char) (before after : Encoder) (reached place : Nat)
    (placed : List Char) : Prop :=
  ∃ digits, after.written = before.written ++ digits ∧
    Restores before.bias reached place placed label digits

/-- A look at the whole label, after which `next` goes on. -/
theorem follows_foldl_visit {basic code : Nat} {label : List Char} {next : Encoder → Encoder}
    (hnext : ∀ e reached place, InStep basic code label [] e reached place →
      Follows label e (next e) reached place (label.filter (·.toNat ≤ code)))
    (visited rest : List Char) (hlabel : visited ++ rest = label) {e : Encoder}
    {reached place : Nat} (h : InStep basic code visited rest e reached place) :
    Follows label e (next (rest.foldl (Encoder.visit basic code) e)) reached place
      (visited.filter (·.toNat ≤ code) ++ rest.filter (·.toNat < code)) := by
  induction rest generalizing visited e reached place with
  | nil =>
    rw [List.append_nil] at hlabel
    subst hlabel
    simpa using hnext e reached place h
  | cons c rest ih =>
    have hlabel' : (visited ++ [c]) ++ rest = label := by simpa using hlabel
    rw [List.foldl_cons]
    rcases lt_trichotomy c.toNat code with hc | hc | hc
    · have hle : c.toNat ≤ code := by omega
      have hvisit : e.visit basic code c = { e with delta := e.delta + 1 } := by
        simp [Encoder.visit, hc]
      obtain ⟨digits, hwritten, hrestores⟩ := ih (visited ++ [c]) hlabel' (h.visit_lt hc)
      rw [hvisit]
      exact ⟨digits, hwritten, by simpa [hc, hle] using hrestores⟩
    · have hle : c.toNat ≤ code := by omega
      have hnew := h.visit_eq hc
      obtain ⟨hreached, hplaced, hdelta, -, hfirst⟩ := h
      have hrest : (c :: rest).filter (·.toNat < code) = rest.filter (·.toNat < code) := by
        simp [hc]
      rw [hrest] at hplaced ⊢
      have hindex : (visited.filter (·.toNat ≤ code)).length ≤
          (visited.filter (·.toNat ≤ code) ++ rest.filter (·.toNat < code)).length := by
        simp
      obtain ⟨digits, hwritten, hrestores⟩ := ih (visited ++ [c]) hlabel' hnew
      refine ⟨numberDigits e.bias 36 e.delta ++ digits, ?_, ?_⟩
      · rw [hwritten, InStep.visit_of_eq hc, List.append_assoc]
      · apply Restores.number (hc ▸ hreached) hindex (by rw [hc, ← hplaced]; exact hdelta)
        rw [hc, ← hplaced]
        have hbias : (e.visit basic code c).bias = adapt e.delta (e.placed + 1) (place = 0) := by
          simp only [InStep.visit_of_eq hc, hfirst]
        rw [← hbias]
        simpa [hle] using hrestores
    · have hlt : ¬ c.toNat < code := by omega
      have hle : ¬ c.toNat ≤ code := by omega
      have hvisit : e.visit basic code c = e := by
        have hne : c.toNat ≠ code := by omega
        simp [Encoder.visit, hlt, hne]
      rw [hvisit]
      simpa [hlt, hle] using ih (visited ++ [c]) hlabel' (h.visit_gt hc)

/-- The numbers, from `next` on, of the characters of a label. -/
def ArePending (label : List Char) (next : Nat) (codes : List Nat) : Prop :=
  ∀ n, n ∈ codes ↔ next ≤ n ∧ ∃ c ∈ label, c.toNat = n

namespace ArePending

variable {label : List Char} {next code : Nat} {codes : List Nat}

theorem filter_of_nil (h : ArePending label next []) : label.filter (·.toNat < next) = label := by
  refine List.filter_eq_self.2 fun c hc => decide_eq_true ?_
  by_contra hle
  exact absurd ((h c.toNat).2 ⟨by omega, c, hc, rfl⟩) List.not_mem_nil

/-- No character of the label has a number between `next` and the first of the codes. -/
theorem filter_of_cons (h : ArePending label next (code :: codes)) (hhead : ∀ n ∈ codes, code < n) :
    label.filter (·.toNat < next) = label.filter (·.toNat < code) := by
  obtain ⟨hnext, -⟩ := (h code).1 List.mem_cons_self
  apply List.filter_congr
  intro c hc
  by_cases hlt : c.toNat < next
  · simp [hlt, show c.toNat < code by omega]
  · have hmem := (h c.toNat).2 ⟨by omega, c, hc, rfl⟩
    have hle : code ≤ c.toNat := by
      rcases List.mem_cons.1 hmem with heq | hmem
      · omega
      · have hlater := hhead _ hmem
        omega
    simp [hlt, show ¬ c.toNat < code by omega]

theorem tail (h : ArePending label next (code :: codes)) (hhead : ∀ n ∈ codes, code < n) :
    ArePending label (code + 1) codes := by
  obtain ⟨hnext, -⟩ := (h code).1 List.mem_cons_self
  intro n
  constructor
  · intro hn
    exact ⟨hhead n hn, ((h n).1 (List.mem_cons_of_mem _ hn)).2⟩
  · rintro ⟨hn, hc⟩
    rcases List.mem_cons.1 ((h n).2 ⟨by omega, hc⟩) with heq | hmem
    · omega
    · exact hmem

end ArePending

/-- The characters with the given numbers are all that have not been placed yet. -/
theorem follows_placeAll {basic next : Nat} {label : List Char} {codes : List Nat}
    (hsorted : codes.Pairwise (· < ·)) (hcodes : ArePending label next codes) {e : Encoder}
    {reached place : Nat} (hreached : reached ≤ next)
    (hplaced : e.placed = (label.filter (·.toNat < next)).length)
    (hdelta : place + e.delta = (next - reached) * (e.placed + 1)) (hbasic : basic ≤ e.placed)
    (hfirst : e.placed = basic ↔ place = 0) :
    Follows label e (Encoder.placeAll label basic codes next e) reached place
      (label.filter (·.toNat < next)) := by
  induction codes generalizing next e reached place with
  | nil =>
    rw [hcodes.filter_of_nil]
    exact ⟨[], by simp [Encoder.placeAll], Restores.done e.bias reached place label⟩
  | cons code codes ih =>
    obtain ⟨hhead, htail⟩ := List.pairwise_cons.1 hsorted
    obtain ⟨hnext, -⟩ := (hcodes code).1 List.mem_cons_self
    have hgap := hcodes.filter_of_cons hhead
    have hstep : InStep basic code [] label
        { e with delta := e.delta + (code - next) * (e.placed + 1) } reached place := by
      refine ⟨by omega, by simpa [← hgap] using hplaced, ?_, hbasic, hfirst⟩
      have hsplit : code - reached = (next - reached) + (code - next) := by omega
      simp only [hsplit, Nat.add_mul, List.filter_nil, List.length_nil]
      omega
    rw [hgap, Encoder.placeAll]
    have hafter : ∀ e' reached' place', InStep basic code label [] e' reached' place' →
        Follows label e'
          (Encoder.placeAll label basic codes (code + 1) { e' with delta := e'.delta + 1 })
          reached' place' (label.filter (·.toNat ≤ code)) := by
      intro e' reached' place' h
      obtain ⟨hreached', hplaced', hdelta'⟩ := h.next
      have hdone : Follows label { e' with delta := e'.delta + 1 }
          (Encoder.placeAll label basic codes (code + 1) { e' with delta := e'.delta + 1 })
          reached' place' (label.filter (·.toNat < code + 1)) :=
        ih htail (hcodes.tail hhead) hreached' hplaced' hdelta' h.basic_le h.isFirst
      simp only [Nat.lt_succ_iff] at hdone
      exact hdone
    exact follows_foldl_visit hafter [] label (List.nil_append label) hstep

/-! ### Digits -/

/-- A digit of base 36, in lower case. -/
def IsDigit (c : Char) : Prop := ∃ d < 36, c = digitChar d

theorem IsDigit.of_all {p : Char → Bool} (h : (List.range 36).all fun d => p (digitChar d))
    {c : Char} (hc : IsDigit c) : p c := by
  obtain ⟨d, hd, rfl⟩ := hc
  exact List.all_eq_true.1 h d (List.mem_range.2 hd)

theorem isDigit_of_mem_numberDigits {bias k q : Nat} {c : Char} (hc : c ∈ numberDigits bias k q) :
    IsDigit c := by
  induction q using Nat.strongRecOn generalizing k with
  | _ q ih =>
    have hpos := limit_pos bias k
    have hle := limit_le bias k
    rw [numberDigits] at hc
    by_cases hq : q < limit bias k
    · simp only [hq, if_true, List.mem_singleton] at hc
      exact ⟨q, by omega, hc⟩
    · simp only [hq, if_false, List.mem_cons] at hc
      rcases hc with rfl | hc
      · have hmod : (q - limit bias k) % (36 - limit bias k) < 36 - limit bias k :=
          Nat.mod_lt _ (by omega)
        exact ⟨_, by omega, rfl⟩
      · refine ih _ ?_ hc
        have := Nat.div_le_self (q - limit bias k) (36 - limit bias k)
        omega

theorem isDigit_visit {basic code : Nat} {e : Encoder} (h : ∀ c ∈ e.written, IsDigit c) (d : Char) :
    ∀ c ∈ (e.visit basic code d).written, IsDigit c := by
  unfold Encoder.visit
  split
  · exact h
  · split
    · intro c hc
      rcases List.mem_append.1 hc with hc | hc
      · exact h c hc
      · exact isDigit_of_mem_numberDigits hc
    · exact h

theorem isDigit_placeAll {basic next : Nat} {label : List Char} {codes : List Nat} {e : Encoder}
    (h : ∀ c ∈ e.written, IsDigit c) :
    ∀ c ∈ (Encoder.placeAll label basic codes next e).written, IsDigit c := by
  have hfoldl : ∀ (code : Nat) (l : List Char) (e : Encoder), (∀ c ∈ e.written, IsDigit c) →
      ∀ c ∈ (l.foldl (Encoder.visit basic code) e).written, IsDigit c := by
    intro code l
    induction l with
    | nil => exact fun _ h => h
    | cons d l ih => exact fun e h => ih _ (isDigit_visit h d)
  induction codes generalizing next e with
  | nil => exact h
  | cons code codes ih => exact ih (hfoldl code label _ h)

/-! ### Labels -/

/-- What is written after the ASCII characters of a label are digits that bring the decoder from
there to the whole label. -/
theorem encode_eq (label : List Char) :
    ∃ digits, encode label = label.filter (·.toNat < 128) ++
      (if (label.filter (·.toNat < 128)).isEmpty then [] else ['-']) ++ digits ∧
      (∀ c ∈ digits, IsDigit c) ∧
      Restores 72 128 0 (label.filter (·.toNat < 128)) label digits := by
  have hsorted : (((label.filter (128 ≤ ·.toNat)).map Char.toNat).eraseDups.mergeSort).Pairwise
      (· < ·) :=
    (List.sortedLT_iff_nodup_and_sortedLE.2
      ⟨List.nodup_mergeSort.2 (Lists.nodup_eraseDups _), List.sortedLE_mergeSort⟩).pairwise
  have hcodes : ∀ n, n ∈ ((label.filter (128 ≤ ·.toNat)).map Char.toNat).eraseDups.mergeSort ↔
      128 ≤ n ∧ ∃ c ∈ label, c.toNat = n := by
    intro n
    simp only [List.mem_mergeSort, List.mem_eraseDups, List.mem_map, List.mem_filter,
      decide_eq_true_eq]
    constructor
    · rintro ⟨c, ⟨hc, hle⟩, rfl⟩
      exact ⟨hle, c, hc, rfl⟩
    · rintro ⟨hle, c, hc, rfl⟩
      exact ⟨c, ⟨hc, hle⟩, rfl⟩
  have hfollows : Follows label { placed := (label.filter (·.toNat < 128)).length }
      (Encoder.placeAll label (label.filter (·.toNat < 128)).length _ 128
        { placed := (label.filter (·.toNat < 128)).length }) 128 0
      (label.filter (·.toNat < 128)) :=
    follows_placeAll hsorted hcodes (le_refl 128) rfl (by simp) (le_refl _) (by simp)
  obtain ⟨digits, hwritten, hrestores⟩ := hfollows
  rw [List.nil_append] at hwritten
  refine ⟨digits, ?_, ?_, hrestores⟩
  · rw [encode, hwritten]
  · rw [← hwritten]
    exact isDigit_placeAll (by simp)

/-- What is written for a label is read as that label. -/
theorem decode?_encode (label : List Char) : decode? (encode label) = some label := by
  obtain ⟨digits, hencode, hdigits, hrestores⟩ := encode_eq label
  have hhyphen : '-' ∉ digits := by
    intro hmem
    have hne : ('-' != '-') = true := (hdigits '-' hmem).of_all (p := fun c => c != '-') (by decide)
    cases hne
  have hbasic : (label.filter (·.toNat < 128)).all (·.toNat < 128) := by simp
  -- the last hyphen is the one before the digits
  have hpieces : ['-'].intercalate ((encode label).splitOn '-').dropLast =
      label.filter (·.toNat < 128) ∧ ((encode label).splitOn '-').getLast? = some digits := by
    rw [hencode]
    by_cases hempty : (label.filter (·.toNat < 128)).isEmpty
    · rw [if_pos hempty, List.isEmpty_iff.1 hempty]
      simp [List.splitOn_eq_singleton hhyphen]
    · rw [if_neg hempty, List.append_assoc, List.singleton_append, List.splitOn_append_cons_self,
        List.splitOn_eq_singleton hhyphen]
      simp
  simp only [decode?, hpieces, hbasic, if_true, Option.getD_some]
  exact hrestores _ (le_refl _)

end MapServices.Url.Punycode
