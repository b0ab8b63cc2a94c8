import Mathlib.Data.List.TakeWhile
import MapServices.Proofs.Text.Ascii
import MapServices.Url.Parser

/-!
# The parts of an address

* `splitScheme?_append` and `splitTail_append`: an address is split where it was put together.
* `isScheme_of_splitScheme?`: the scheme that is split off is written in lower case.
* `clean_eq_self`: nothing of a text without white space and controls is passed over.
-/

namespace MapServices

namespace Text

theorem cutAt?_eq_none {c : Char} {s : List Char} (h : c ∉ s) : cutAt? c s = none := by
  induction s with
  | nil => rfl
  | cons d s ih =>
    obtain ⟨hne, hmem⟩ := not_or.1 fun hor => h (List.mem_cons.2 hor)
    have hstart : [c].isPrefixOf (d :: s) = false := by
      simpa [List.isPrefixOf] using hne
    rw [cutAt?, cut?, if_neg (by simp [hstart])]
    exact congrArg (Option.map _) (ih hmem)

theorem cutAt?_append {c : Char} {s : List Char} (h : c ∉ s) (t : List Char) :
    cutAt? c (s ++ c :: t) = some (s, t) := by
  induction s with
  | nil => simp [cutAt?, cut?, List.isPrefixOf]
  | cons d s ih =>
    obtain ⟨hne, hmem⟩ := not_or.1 fun hor => h (List.mem_cons.2 hor)
    have hstart : [c].isPrefixOf (d :: (s ++ c :: t)) = false := by
      simpa [List.isPrefixOf] using hne
    rw [List.cons_append, cutAt?, cut?, if_neg (by simp [hstart])]
    exact congrArg (Option.map _) (ih hmem)

end Text

namespace Url

/-! ### White space -/

theorem clean_eq_self {s : List Char} (h : ∀ c ∈ s, 0x20 < c.toNat) : clean s = s := by
  have hdrop : ∀ {t : List Char}, (∀ c ∈ t, c ∈ s) → t.dropWhile isControlOrSpace = t := by
    intro t ht
    apply List.dropWhile_eq_self_iff.2
    intro hlength
    have hlt := h _ (ht _ (List.getElem_mem hlength))
    simpa [isControlOrSpace] using hlt
  have hfilter : (s.filter fun c => !(c = '\t' || c = '\n' || c = '\r')) = s := by
    apply List.filter_eq_self.2
    intro c hc
    have hlt := h c hc
    have hne : c ≠ '\t' ∧ c ≠ '\n' ∧ c ≠ '\r' := by
      refine ⟨?_, ?_, ?_⟩
      all_goals
        rintro rfl
        exact absurd hlt (by decide)
    simp [hne]
  simp only [clean, hdrop fun c hc => hc, hdrop fun c hc => List.mem_reverse.1 hc,
    List.reverse_reverse, hfilter]

/-! ### Schemes -/

/-- A scheme as it is written. -/
structure IsScheme (scheme : List Char) : Prop where
  first : ∃ c ∈ scheme.head?, c.isAlpha
  chars : ∀ c ∈ scheme, isSchemeChar c ∧ c.toLower = c

theorem splitScheme?_append {scheme : List Char} (h : IsScheme scheme) (rest : List Char) :
    splitScheme? (scheme ++ ':' :: rest) = some (scheme, rest) := by
  have hchars : ∀ c ∈ scheme, isSchemeChar c = true := fun c hc => (h.chars c hc).1
  have hlower : Text.lower scheme = scheme := by
    refine (List.map_congr_left fun c hc => ?_).trans (List.map_id scheme)
    exact (h.chars c hc).2
  have htake : (scheme ++ ':' :: rest).takeWhile isSchemeChar = scheme := by
    rw [List.takeWhile_append_of_pos hchars, List.takeWhile_cons_of_neg (by decide),
      List.append_nil]
  have hdrop : (scheme ++ ':' :: rest).dropWhile isSchemeChar = ':' :: rest := by
    rw [List.dropWhile_append_of_pos hchars, List.dropWhile_cons_of_neg (by decide)]
  obtain ⟨c, hc, halpha⟩ := h.first
  obtain ⟨tail, rfl⟩ := List.head?_eq_some_iff.1 hc
  rw [List.cons_append] at htake hdrop ⊢
  rw [splitScheme?, if_pos halpha, hdrop, htake]
  simp only [hlower]

theorem isSchemeChar_toLower {c : Char} (h : isSchemeChar c) : isSchemeChar c.toLower := by
  by_cases hascii : c.toNat < 128
  · exact Text.forall_ascii (p := fun c => isSchemeChar c → isSchemeChar c.toLower)
      (by decide +kernel) hascii h
  · rwa [Text.toLower_of_foreign (by omega)]

theorem isAlpha_toLower {c : Char} (h : c.isAlpha) : c.toLower.isAlpha := by
  by_cases hascii : c.toNat < 128
  · exact Text.forall_ascii (p := fun c => c.isAlpha → c.toLower.isAlpha)
      (by decide +kernel) hascii h
  · rwa [Text.toLower_of_foreign (by omega)]

theorem isScheme_of_splitScheme? {s scheme rest : List Char}
    (h : splitScheme? s = some (scheme, rest)) : IsScheme scheme := by
  unfold splitScheme? at h
  split at h
  · rename_i first tail
    split at h
    · rename_i halpha
      split at h
      · cases h
        have hfirst : isSchemeChar first := by
          simp [isSchemeChar, Char.isAlphanum, halpha]
        rw [List.takeWhile_cons_of_pos hfirst]
        refine ⟨⟨first.toLower, rfl, isAlpha_toLower halpha⟩, fun c hc => ?_⟩
        rw [← List.takeWhile_cons_of_pos hfirst] at hc
        obtain ⟨d, hd, rfl⟩ := List.mem_map.1 hc
        exact ⟨isSchemeChar_toLower (List.mem_takeWhile_imp hd), Text.toLower_toLower d⟩
      · cases h
    · cases h
  · cases h

/-! ### Queries -/

/-- A query, with the mark before it. -/
def queryText (query? : Option (List Char)) : List Char :=
  match query? with
  | some query => '?' :: query
  | none => []

theorem splitTail_append {front : List Char} (hfront : ∀ c ∈ front, c ≠ '?' ∧ c ≠ '#')
    {query? : Option (List Char)} (hquery : ∀ query, query? = some query → '#' ∉ query) :
    splitTail (front ++ queryText query?) = (front, query?, none) := by
  have hmark : '?' ∉ front := fun hmem => (hfront '?' hmem).1 rfl
  have hhash : '#' ∉ front := fun hmem => (hfront '#' hmem).2 rfl
  cases query? with
  | none => simp [queryText, splitTail, Text.cutAt?_eq_none hhash, Text.cutAt?_eq_none hmark]
  | some query =>
    have hhash' : '#' ∉ front ++ '?' :: query := by
      simp [hhash, hquery query rfl]
    simp [queryText, splitTail, Text.cutAt?_eq_none hhash', Text.cutAt?_append hmark]

end Url

end MapServices
