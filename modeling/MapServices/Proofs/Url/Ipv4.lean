import Mathlib.Algebra.Group.Nat.Defs
import Mathlib.Data.List.Induction
import MapServices.Proofs.Lists
import MapServices.Url.Ipv4

/-!
# Written addresses of 32 bits

* `valueIn?_toDigits`: digits have the value from which they were made.
* `read?_print`: an address is read as it was written.
* `lt_of_read?`: what is read has 32 bits.
-/

namespace MapServices.Url.Ipv4

/-! ### Digits -/

theorem digitValue?_digitChar {d : Nat} (h : d < 16) : digitValue? (Nat.digitChar d) = some d := by
  have hall : ∀ d ∈ List.range 16, digitValue? (Nat.digitChar d) = some d := by decide
  exact hall d (List.mem_range.2 h)

theorem valueIn?_concat (base : Nat) (digits : List Char) {d : Nat} (hd : d < base)
    (hbase : base ≤ 16) : valueIn? base (digits ++ [Nat.digitChar d]) =
      (valueIn? base digits).map fun n => base * n + d := by
  unfold valueIn?
  rw [List.foldlM_append]
  cases digits.foldlM (fun n c => (digitValue? c).bind fun d =>
      if d < base then some (base * n + d) else none) 0 with
  | none => rfl
  | some n => simp [digitValue?_digitChar (show d < 16 by omega), hd]

theorem valueIn?_toDigits {base : Nat} (hone : 1 < base) (hbase : base ≤ 16) (n : Nat) :
    valueIn? base (Nat.toDigits base n) = some n := by
  induction n using Nat.strongRecOn with
  | _ n ih =>
    rw [Nat.toDigits_eq_if hone]
    split
    · rename_i hn
      have hsingle := valueIn?_concat base [] hn hbase
      simpa [valueIn?] using hsingle
    · rename_i hn
      have hpos : 0 < n := by omega
      rw [valueIn?_concat base _ (Nat.mod_lt n (by omega)) hbase,
        ih _ (Nat.div_lt_self hpos hone), Option.map_some, Nat.div_add_mod]

theorem valueIn?_lt {base n : Nat} {digits : List Char} (h : valueIn? base digits = some n) :
    n < base ^ digits.length := by
  unfold valueIn? at h
  induction digits using List.reverseRecOn generalizing n with
  | nil =>
    cases h
    simp
  | append_singleton digits c ih =>
    rw [List.foldlM_append] at h
    obtain ⟨m, hm, h⟩ := Option.bind_eq_some_iff.1 h
    have hlt := ih hm
    simp only [List.foldlM_cons, List.foldlM_nil, Option.bind_eq_bind, Option.bind_eq_some_iff] at h
    obtain ⟨k, ⟨d, -, hk⟩, h⟩ := h
    cases h
    split at hk
    · rename_i hd
      cases hk
      rw [List.length_append, List.length_singleton, Nat.pow_succ]
      have hmul : base * (m + 1) ≤ base * base ^ digits.length := Nat.mul_le_mul_left base hlt
      have hcomm : base * base ^ digits.length = base ^ digits.length * base := Nat.mul_comm ..
      have hadd : base * (m + 1) = base * m + base := Nat.mul_succ ..
      omega
    · cases hk

theorem readNumber?_toDigits {b : Nat} (h : b < 256) :
    readNumber? (Nat.toDigits 10 b) = some b := by
  have hall : ∀ b ∈ List.range 256, readNumber? (Nat.toDigits 10 b) = some b := by decide +kernel
  exact hall b (List.mem_range.2 h)

theorem isDigit_of_mem_toDigits {n : Nat} : ∀ c ∈ Nat.toDigits 10 n, c.isDigit :=
  fun _ hc => Nat.isDigit_of_mem_toDigits (by decide) (by decide) hc

theorem point_not_mem_toDigits (n : Nat) : '.' ∉ Nat.toDigits 10 n := by
  intro h
  have hdigit : '.'.isDigit := isDigit_of_mem_toDigits '.' h
  exact absurd hdigit (by decide)

/-! ### Addresses -/

/-- The four numbers of an address. -/
def bytes (address : Nat) : List Nat :=
  [address / 256 ^ 3 % 256, address / 256 ^ 2 % 256, address / 256 % 256, address % 256]

theorem print_eq (address : Nat) :
    print address = ['.'].intercalate ((bytes address).map (Nat.toDigits 10)) := by
  simp [print, bytes, List.intercalate_cons_cons]

theorem splitOn_print (address : Nat) :
    (print address).splitOn '.' = (bytes address).map (Nat.toDigits 10) := by
  rw [print_eq]
  refine List.splitOn_intercalate '.' (fun part hpart => ?_) (by simp [bytes])
  obtain ⟨b, -, rfl⟩ := List.mem_map.1 hpart
  exact point_not_mem_toDigits b

theorem parts_print (address : Nat) :
    parts (print address) = (bytes address).map (Nat.toDigits 10) := by
  rw [parts, splitOn_print]
  simp [bytes]

theorem endsInNumber_print (address : Nat) : endsInNumber (print address) := by
  have hdigits : (Nat.toDigits 10 (address % 256)).all Char.isDigit :=
    List.all_eq_true.2 isDigit_of_mem_toDigits
  rw [endsInNumber, parts_print]
  simp [bytes, hdigits]

/-- An address is read as it was written. -/
theorem read?_print {address : Nat} (h : address < 2 ^ 32) :
    read? (print address) = some address := by
  have hnumbers : ((bytes address).map (Nat.toDigits 10)).mapM readNumber? =
      some (bytes address) := by
    rw [Lists.mapM_eq_some_iff, List.forall₂_map_left_iff, List.forall₂_same]
    intro b hb
    refine readNumber?_toDigits ?_
    simp only [bytes, List.mem_cons, List.not_mem_nil, or_false] at hb
    omega
  rw [read?, parts_print, hnumbers]
  simp [bytes]
  omega

theorem foldl_lt {bytes : List Nat} (h : ∀ b ∈ bytes, b ≤ 255) {n k : Nat} (hn : n < 256 ^ k) :
    bytes.foldl (fun n b => 256 * n + b) n < 256 ^ (k + bytes.length) := by
  induction bytes generalizing n k with
  | nil => exact hn
  | cons b bytes ih =>
    have hb := h b List.mem_cons_self
    have hnext : 256 * n + b < 256 ^ (k + 1) := by
      rw [Nat.pow_succ]
      omega
    have hrest := ih (fun b hb => h b (List.mem_cons_of_mem _ hb)) hnext
    rwa [Nat.add_assoc, Nat.add_comm 1] at hrest

theorem lt_of_read? {host : List Char} {address : Nat} (h : read? host = some address) :
    address < 2 ^ 32 := by
  simp only [read?, Option.bind_eq_bind, Option.bind_eq_some_iff] at h
  obtain ⟨numbers, -, last, -, h⟩ := h
  split at h
  · rename_i hbounds
    simp only [Bool.and_eq_true, decide_eq_true_eq, List.all_eq_true] at hbounds
    obtain ⟨⟨hlength, hbytes⟩, hlast⟩ := hbounds
    cases h
    have hfront := foldl_lt hbytes (show 0 < 256 ^ 0 by decide)
    rw [Nat.zero_add] at hfront
    generalize numbers.dropLast.foldl (fun n b => 256 * n + b) 0 = n at hfront ⊢
    generalize numbers.dropLast.length = k at hlength hlast hfront ⊢
    have hpow : 256 ^ k * 256 ^ (4 - k) = 2 ^ 32 := calc
      256 ^ k * 256 ^ (4 - k) = 256 ^ (k + (4 - k)) := (Nat.pow_add 256 k (4 - k)).symm
      _ = 256 ^ 4 := congrArg (256 ^ ·) (Nat.add_sub_cancel' (by omega))
      _ = 2 ^ 32 := by decide
    calc n * 256 ^ (4 - k) + last < n * 256 ^ (4 - k) + 256 ^ (4 - k) := by
          exact Nat.add_lt_add_left hlast _
      _ = (n + 1) * 256 ^ (4 - k) := by rw [Nat.add_mul, Nat.one_mul]
      _ ≤ 256 ^ k * 256 ^ (4 - k) := Nat.mul_le_mul_right _ hfront
      _ = 2 ^ 32 := hpow
  · cases h

theorem mem_print {address : Nat} {c : Char} (h : c ∈ print address) : c.isDigit ∨ c = '.' := by
  rw [print_eq] at h
  rcases Lists.mem_intercalate h with rfl | ⟨part, hpart, hc⟩
  · exact Or.inr rfl
  · obtain ⟨b, -, rfl⟩ := List.mem_map.1 hpart
    exact Or.inl (isDigit_of_mem_toDigits c hc)

end MapServices.Url.Ipv4
