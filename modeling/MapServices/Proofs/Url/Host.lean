import Mathlib.Tactic.MkIffOfInductiveProp
import MapServices.Proofs.Url.Domain
import MapServices.Proofs.Url.Ipv6
import MapServices.Proofs.Url.Percent
import MapServices.Url.Parser

/-!
# Written hosts

* `Host.IsWritten`: a host is read again from its written form, in which no character ends the place
  and no colon is taken for the one before a port.
* `Host.isWritten_of_ofText`: the host that is read from a text is written.
-/

namespace MapServices.Url

/-- The characters of a written host. None of them is a blank, and none ends the host or what stands
before it. -/
@[mk_iff]
structure IsHostChar (c : Char) : Prop where
  visible : IsVisible c
  slash : c ≠ '/'
  backslash : c ≠ '\\'
  question : c ≠ '?'
  hash : c ≠ '#'
  sign : c ≠ '@'
  bar : c ≠ '|'

instance (c : Char) : Decidable (IsHostChar c) := decidable_of_iff' _ (isHostChar_iff c)

/-- The host is read from its written form. -/
structure Host.IsWritten (special : Bool) (h : Host) : Prop where
  read : Host.ofText special h.print = .ok h
  chars : ∀ c ∈ h.print, IsHostChar c
  colon : ∀ s, splitPort false (h.print ++ s) =
    (h.print ++ (splitPort false s).1, (splitPort false s).2)
  ne_nil : h.print ≠ []

/-! ### Colons -/

theorem splitPort_append_of_name {name : List Char} (h : ∀ c ∈ name, c ≠ ':' ∧ c ≠ '[')
    (s : List Char) :
    splitPort false (name ++ s) = (name ++ (splitPort false s).1, (splitPort false s).2) := by
  induction name with
  | nil => rfl
  | cons c name ih =>
    obtain ⟨hcolon, hbracket⟩ := h c List.mem_cons_self
    have hinside : (if c = '[' then true else if c = ']' then false else false) = false := by
      rw [if_neg hbracket, ite_self]
    rw [List.cons_append, splitPort, if_neg (by simp [hcolon]), hinside]
    simp only [ih fun d hd => h d (List.mem_cons_of_mem _ hd), List.cons_append]

theorem splitPort_append_of_inside {digits : List Char} (h : ∀ c ∈ digits, c ≠ ']')
    (s : List Char) :
    splitPort true (digits ++ ']' :: s) =
      (digits ++ ']' :: (splitPort false s).1, (splitPort false s).2) := by
  induction digits with
  | nil => simp [splitPort]
  | cons c digits ih =>
    have hc := h c List.mem_cons_self
    have hinside : (if c = '[' then true else if c = ']' then false else true) = true := by
      rw [if_neg hc, ite_self]
    rw [List.cons_append, splitPort, if_neg (by simp), hinside]
    simp only [ih fun d hd => h d (List.mem_cons_of_mem _ hd), List.cons_append]

/-! ### Addresses in brackets -/

theorem isHostChar_of_isHexDigit {c : Char} (h : Ipv6.isHexDigit c) : IsHostChar c ∧ c ≠ ']' := by
  have hascii : c.toNat < 128 := by
    simp only [Ipv6.isHexDigit, Bool.or_eq_true, Bool.and_eq_true, decide_eq_true_eq] at h
    rcases h with h | ⟨-, h⟩
    · have hle : c.toNat ≤ 57 := (Char.isDigit_iff_toNat.1 h).2
      omega
    · have hle : c.toNat ≤ 'f'.toNat := UInt32.le_iff_toNat_le.1 h
      exact Nat.lt_of_le_of_lt hle (by decide)
  exact Text.forall_ascii (p := fun c => Ipv6.isHexDigit c → IsHostChar c ∧ c ≠ ']')
    (by decide +kernel) hascii h

theorem Host.isWritten_ipv6 {pieces : List Nat} (h : Ipv6.WellFormed pieces) (special : Bool) :
    (Host.ipv6 pieces).IsWritten special := by
  have hchars : ∀ c ∈ Ipv6.print pieces, IsHostChar c ∧ c ≠ ']' := by
    intro c hc
    rcases Ipv6.mem_print hc with hc | rfl
    · exact isHostChar_of_isHexDigit hc
    · decide
  have hprint : (Host.ipv6 pieces).print = '[' :: (Ipv6.print pieces ++ [']']) := rfl
  have hlast : ('[' :: (Ipv6.print pieces ++ [']'])).getLast? = some ']' := by
    rw [← List.cons_append, List.getLast?_concat]
  refine ⟨?_, ?_, ?_, ?_⟩
  · rw [hprint, ofText, ofBrackets, hlast]
    simp [Ipv6.read?_print h]
  · intro c hc
    rw [hprint] at hc
    simp only [List.mem_cons, List.mem_append, List.not_mem_nil, or_false] at hc
    rcases hc with rfl | hc | rfl
    · decide
    · exact (hchars c hc).1
    · decide
  · intro s
    rw [hprint, List.cons_append, List.append_assoc, splitPort]
    simp [splitPort_append_of_inside fun c hc => (hchars c hc).2]
  · rw [hprint]
    exact List.cons_ne_nil _ _

/-! ### Domain names -/

theorem Host.ofText_special {s : List Char} (h : '[' ∉ s) : ofText true s = ofDomain s := by
  unfold ofText
  split
  · exact absurd List.mem_cons_self h
  · rfl

theorem Host.ofDomain_eq {s domain : List Char} (hne : domain ≠ [])
    (h : (Utf8.decode? (percentDecode (Utf8.encode s))).bind Domain.toAscii? = some domain) :
    ofDomain s = if Ipv4.endsInNumber domain then
      match Ipv4.read? domain with
      | some address => .ok (.ipv4 address)
      | none => .error .badIpv4
    else .ok (.name domain) := by
  rw [ofDomain, h]
  split
  · contradiction
  · rename_i heq
    exact absurd (Option.some.inj heq) hne
  · rename_i heq
    cases heq
    rfl

theorem isHostChar_of_isWrittenChar {c : Char} (h : Domain.IsWrittenChar c) :
    IsHostChar c ∧ c ≠ ':' ∧ c ≠ '[' ∧ c ≠ '%' :=
  Text.forall_ascii (p := fun c => Domain.isForbidden c = false →
    IsHostChar c ∧ c ≠ ':' ∧ c ≠ '[' ∧ c ≠ '%') (by decide +kernel) h.ascii h.allowed

theorem Host.ofText_of_isWrittenChar {domain : List Char} (hne : domain ≠ [])
    (hchars : ∀ c ∈ domain, Domain.IsWrittenChar c) (h : Domain.toAscii? domain = some domain) :
    ofText true domain = if Ipv4.endsInNumber domain then
      match Ipv4.read? domain with
      | some address => .ok (.ipv4 address)
      | none => .error .badIpv4
    else .ok (.name domain) := by
  rw [ofText_special fun hmem => (isHostChar_of_isWrittenChar (hchars _ hmem)).2.2.1 rfl]
  apply ofDomain_eq hne
  rw [decode?_percentDecode_encode fun c hc => (hchars c hc).ascii]
  · exact h
  · exact fun hmem => (isHostChar_of_isWrittenChar (hchars _ hmem)).2.2.2 rfl

/-- What reads a name of the characters of domain names as a host shows that the host is written. -/
theorem Host.isWritten_of_isWrittenChar {h : Host} (hchars : ∀ c ∈ h.print, Domain.IsWrittenChar c)
    (hne : h.print ≠ []) (hread : ofText true h.print = .ok h) : h.IsWritten true := by
  have hname : ∀ c ∈ h.print, c ≠ ':' ∧ c ≠ '[' := by
    intro c hc
    obtain ⟨-, hcolon, hbracket, -⟩ := isHostChar_of_isWrittenChar (hchars c hc)
    exact ⟨hcolon, hbracket⟩
  refine ⟨hread, fun c hc => ?_, splitPort_append_of_name hname, hne⟩
  exact (isHostChar_of_isWrittenChar (hchars c hc)).1

/-! ### Addresses of 32 bits -/

theorem isWrittenChar_of_isDigit {c : Char} (h : c.isDigit) : Domain.IsWrittenChar c := by
  have hle : c.toNat ≤ 57 := (Char.isDigit_iff_toNat.1 h).2
  have hall := Text.forall_ascii (p := fun c => c.isDigit → c.toLower = c ∧
    Domain.isForbidden c = false) (by decide +kernel) (by omega) h
  exact ⟨by omega, hall.1, hall.2⟩

theorem isLabelChar_of_isDigit {c : Char} (h : c.isDigit) : Domain.IsLabelChar c := by
  obtain ⟨hascii, hlower, -⟩ := isWrittenChar_of_isDigit h
  refine ⟨hascii, hlower, ?_⟩
  rintro rfl
  exact absurd h (by decide)

/-- A label of digits does not claim to be in Punycode. -/
theorem not_isPrefixOf_of_isDigit {label : List Char} (h : ∀ c ∈ label, c.isDigit) :
    ¬ Domain.asciiMark.isPrefixOf label := by
  rw [List.isPrefixOf_iff_prefix]
  rintro ⟨digits, rfl⟩
  exact absurd (h 'x' (by simp [Domain.asciiMark])) (by decide)

theorem Host.isWritten_ipv4 {address : Nat} (h : address < 2 ^ 32) :
    (Host.ipv4 address).IsWritten true := by
  have hchars : ∀ c ∈ Ipv4.print address, Domain.IsWrittenChar c := by
    intro c hc
    rcases Ipv4.mem_print hc with hc | rfl
    · exact isWrittenChar_of_isDigit hc
    · exact ⟨by decide, by decide, by decide⟩
  have hne : Ipv4.print address ≠ [] := by
    rw [Ipv4.print]
    exact List.append_ne_nil_of_right_ne_nil _ (List.cons_ne_nil _ _)
  have htoAscii : Domain.toAscii? (Ipv4.print address) = some (Ipv4.print address) := by
    have hdigits : ∀ label ∈ (Ipv4.print address).splitOn '.', ∀ c ∈ label, c.isDigit := by
      intro label hlabel
      rw [Ipv4.splitOn_print] at hlabel
      obtain ⟨b, -, rfl⟩ := List.mem_map.1 hlabel
      exact Ipv4.isDigit_of_mem_toDigits
    have hself := Domain.toAscii?_of_ascii (List.splitOn_ne_nil '.' _)
      (fun label hlabel c hc => isLabelChar_of_isDigit (hdigits label hlabel c hc))
      (fun label hlabel => not_isPrefixOf_of_isDigit (hdigits label hlabel))
    rw [List.intercalate_splitOn] at hself
    exact hself (List.any_eq_false.2 fun c hc => by simp [(hchars c hc).allowed])
  refine isWritten_of_isWrittenChar hchars hne ?_
  apply (ofText_of_isWrittenChar hne hchars htoAscii).trans
  rw [if_pos (Ipv4.endsInNumber_print address), Ipv4.read?_print h]

/-! ### Names of other schemes -/

theorem isHostChar_of_allowed {c : Char} (hencoded : isControlOrForeign c = false)
    (hallowed : isForbiddenInHost c = false) : IsHostChar c ∧ c ≠ ':' ∧ c ≠ '[' := by
  have hascii : c.toNat < 128 := by
    rw [isControlOrForeign, Bool.or_eq_false_iff, decide_eq_false_iff_not,
      decide_eq_false_iff_not] at hencoded
    omega
  exact Text.forall_ascii (p := fun c => isControlOrForeign c = false →
    isForbiddenInHost c = false → IsHostChar c ∧ c ≠ ':' ∧ c ≠ '[') (by decide +kernel) hascii
    hencoded hallowed

theorem Host.isWritten_name {s : List Char} (hallowed : s.any isForbiddenInHost = false)
    (hne : percentEncode isControlOrForeign s ≠ []) :
    (Host.name (percentEncode isControlOrForeign s)).IsWritten false := by
  have hdigits : ∀ n ∈ List.range 16, isForbiddenInHost (upperHexDigit n) = false := by decide
  have hkept : ∀ c ∈ percentEncode isControlOrForeign s, isForbiddenInHost c = false := by
    intro c hc
    rcases mem_percentEncode hc with ⟨hmem, -⟩ | rfl | ⟨n, hn, rfl⟩
    · simpa using List.any_eq_false.1 hallowed c hmem
    · decide
    · exact hdigits n (List.mem_range.2 hn)
  have hchars : ∀ c ∈ percentEncode isControlOrForeign s, IsHostChar c ∧ c ≠ ':' ∧ c ≠ '[' :=
    fun c hc => isHostChar_of_allowed (not_encoded_of_mem sparesDigits_control c hc) (hkept c hc)
  have hany : (percentEncode isControlOrForeign s).any isForbiddenInHost = false :=
    List.any_eq_false.2 fun c hc => by simp [hkept c hc]
  refine ⟨?_, fun c hc => (hchars c hc).1, ?_, hne⟩
  · rw [Host.print, ofText]
    · rw [if_neg (by decide), if_neg (by simp [hany]),
        percentEncode_eq_self (not_encoded_of_mem sparesDigits_control)]
    · intro t ht
      exact (hchars '[' (ht ▸ List.mem_cons_self)).2.2 rfl
  · exact splitPort_append_of_name fun c hc => (hchars c hc).2

/-! ### Hosts -/

theorem Host.isWritten_of_ofDomain {s : List Char} {h : Host} (hread : ofDomain s = .ok h) :
    h.IsWritten true := by
  unfold ofDomain at hread
  split at hread
  · cases hread
  · cases hread
  · rename_i domain hne hdomain
    obtain ⟨name, -, hname⟩ := Option.bind_eq_some_iff.1 hdomain
    obtain ⟨hchars, hself⟩ := Domain.toAscii?_of_toAscii? hname
    have hne' : domain ≠ [] := hne
    split at hread
    · split at hread
      · rename_i address haddress
        cases hread
        exact isWritten_ipv4 (Ipv4.lt_of_read? haddress)
      · cases hread
    · rename_i hnumber
      cases hread
      refine isWritten_of_isWrittenChar hchars hne' ?_
      exact (ofText_of_isWrittenChar hne' hchars hself).trans (if_neg hnumber)

/-- The host that is read from a text is written. -/
theorem Host.isWritten_of_ofText {special : Bool} {s : List Char} {h : Host}
    (hread : ofText special s = .ok h) (hne : h ≠ .name []) : h.IsWritten special := by
  unfold ofText at hread
  split at hread
  · unfold ofBrackets at hread
    split at hread
    · split at hread
      · rename_i pieces hpieces
        cases hread
        exact isWritten_ipv6 (Ipv6.wellFormed_of_read? hpieces) special
      · cases hread
    · cases hread
  · split at hread
    · rename_i hspecial
      rw [hspecial]
      exact isWritten_of_ofDomain hread
    · rename_i hspecial
      rw [Bool.not_eq_true] at hspecial
      split at hread
      · cases hread
      · rename_i hallowed
        cases hread
        rw [hspecial]
        exact isWritten_name (by simpa using hallowed) fun hnil => hne (by rw [hnil])

end MapServices.Url
