import Mathlib.Data.List.TakeWhile
import MapServices.Proofs.Failure
import MapServices.Proofs.Url.Host

/-!
# Written places

* `Authority.ofText_printHost`: a written host with its port is read as they are.
* `Authority.ofText_spec`: the host and the port that are read can be written.
-/

namespace MapServices.Url

/-- A port can be written beside a scheme that does not imply it. -/
structure IsPort (scheme : List Char) (port : Nat) : Prop where
  bound : port < 0x10000
  explicit : defaultPort? scheme ≠ some port

/-! ### Ports -/

theorem readPort_toDigits {scheme : List Char} {port : Nat} (h : IsPort scheme port) :
    readPort scheme (Nat.toDigits 10 port) = .ok (some port) := by
  have hempty : (Nat.toDigits 10 port).isEmpty = false := by
    simp
  have hdigits : (Nat.toDigits 10 port).all Char.isDigit :=
    List.all_eq_true.2 Ipv4.isDigit_of_mem_toDigits
  have hvalue : Decimal.digitsValue (Nat.toDigits 10 port) = port := Nat.ofDigitChars_ten_toDigits
  simp only [readPort, hempty, hdigits, hvalue, h.bound, h.explicit, decide_true, Bool.and_self,
    if_true, if_false, Bool.false_eq_true]

theorem isPort_of_readPort {scheme s : List Char} {port : Nat}
    (h : readPort scheme s = .ok (some port)) : IsPort scheme port := by
  unfold readPort at h
  split at h
  · cases h
  · split at h
    · rename_i hbound
      rw [Bool.and_eq_true, decide_eq_true_eq] at hbound
      simp only [Except.ok.injEq] at h
      split at h
      · cases h
      · rename_i hexplicit
        cases h
        exact ⟨hbound.2, hexplicit⟩
    · cases h

/-! ### Places -/

theorem isHostChar_of_isDigit {c : Char} (h : c.isDigit) : IsHostChar c :=
  (isHostChar_of_isWrittenChar (isWrittenChar_of_isDigit h)).1

theorem isHostChar_of_mem_printHost {u : Url} {host : Host} {special : Bool}
    (h : host.IsWritten special) : ∀ c ∈ u.printHost host, IsHostChar c := by
  intro c hc
  rcases List.mem_append.1 hc with hc | hc
  · exact h.chars c hc
  · cases hport : u.port? with
    | none =>
      rw [hport] at hc
      cases hc
    | some port =>
      rw [hport] at hc
      rcases List.mem_cons.1 hc with rfl | hc
      · decide
      · exact isHostChar_of_isDigit (Ipv4.isDigit_of_mem_toDigits c hc)

/-- Splitting a written place at its colon gives the host and the digits of the port. -/
theorem splitPort_printHost {u : Url} {host : Host} {special : Bool} (h : host.IsWritten special) :
    splitPort false (u.printHost host) = (host.print, u.port?.map (Nat.toDigits 10)) := by
  rw [printHost, h.colon]
  cases u.port? with
  | none => simp [splitPort]
  | some port => simp [splitPort]

theorem readPort_map_toDigits {scheme : List Char} {port? : Option Nat}
    (h : ∀ port, port? = some port → IsPort scheme port) :
    readPort scheme ((port?.map (Nat.toDigits 10)).getD []) = .ok port? := by
  cases hport : port? with
  | none => rfl
  | some port => exact readPort_toDigits (h port hport)

theorem ne_backslash_of_mem_digits (port? : Option Nat) :
    ∀ c ∈ (port?.map (Nat.toDigits 10)).getD [], decide (c ≠ '\\') = true := by
  cases port? with
  | none => simp
  | some port =>
    intro c hc
    have hne := (isHostChar_of_isDigit (Ipv4.isDigit_of_mem_toDigits c hc)).backslash
    exact decide_eq_true hne

theorem Authority.ofText_printHost {u : Url} {host : Host} {special : Bool}
    (h : host.IsWritten special) (hport : ∀ port, u.port? = some port → IsPort u.scheme port)
    (more : Bool) :
    Authority.ofText u.scheme special more (u.printHost host) =
      .ok ({ host, port? := u.port? }, []) := by
  have huser : splitUser (u.printHost host) = (none, u.printHost host) := by
    rw [splitUser, List.splitOn_eq_singleton]
    exact fun hmem => (isHostChar_of_mem_printHost h '@' hmem).sign rfl
  have hempty : host.print.isEmpty = false := by
    simpa using h.ne_nil
  have hnamed : host ≠ .name [] := by
    rintro rfl
    exact h.ne_nil rfl
  have hdigits := readPort_map_toDigits hport
  have htake := List.takeWhile_eq_self_iff.2 (ne_backslash_of_mem_digits u.port?)
  have hdrop := List.dropWhile_eq_nil_iff.2 (ne_backslash_of_mem_digits u.port?)
  have hnone : readUser [] = ([], []) := rfl
  simp only [ofText, ↓Failure.throwIf_eq_ok, Failure.bind_eq_ok, huser, splitPort_printHost h]
  refine ⟨by simp, by simp [hempty], host, h.read, by simp [hnamed], u.port?, ?_, ?_, ?_⟩
  · rw [htake, hdigits]
  · simp [hnone]
  · simp only [hnone, hdrop, Option.getD_none]
    rfl

theorem Authority.ofText_spec {scheme s left : List Char} {special more : Bool} {a : Authority}
    (h : Authority.ofText scheme special more s = .ok (a, left)) :
    (a.host ≠ .name [] → a.host.IsWritten special) ∧
      ∀ port, a.port? = some port → IsPort scheme port := by
  simp only [ofText, ↓Failure.throwIf_eq_ok, Failure.bind_eq_ok] at h
  obtain ⟨-, -, host, hhost, -, port?, hport, -, h⟩ := h
  cases h
  refine ⟨Host.isWritten_of_ofText hhost, ?_⟩
  rintro port rfl
  exact isPort_of_readPort hport

end MapServices.Url
