import MapServices.Proofs.Xml.Pieces

/-!
# What an event is read off

The reader looks at the markup or the character data that comes next and at nothing behind it, and
counts positions for its faults only. So a document may be changed behind the place that the reader
has come to, and the reader still comes to that place in the same way.

* `Reader.next_local`: an event is read off a piece of the text.
* `Reader.Reads.local`: so are several.
* `Reader.readAll_moved`: from other positions on, the same events are read.
-/

namespace MapServices.Xml

variable {s content rest : List Char} {e : Event} {es : List Event}

theorem splitAtClose_local {ends : List Char → Bool} {before : List Char}
    (h : splitAtClose ends before s = some (content, rest)) :
    ∃ piece, piece ≠ [] ∧ s = piece ++ rest ∧
      ∀ tail, splitAtClose ends before (piece ++ tail) = some (content, tail) := by
  induction s generalizing before with
  | nil => cases h
  | cons c s ih =>
    rw [splitAtClose] at h
    split at h
    · rename_i hc
      cases h
      exact ⟨[c], List.cons_ne_nil _ _, rfl, fun tail => by
        rw [List.singleton_append, splitAtClose, if_pos hc]⟩
    · rename_i hc
      obtain ⟨piece, -, rfl, hpiece⟩ := ih h
      exact ⟨c :: piece, List.cons_ne_nil _ _, rfl, fun tail => by
        rw [List.cons_append, splitAtClose, if_neg hc, hpiece]⟩

theorem splitTag_local {quote? : Option Char} (h : splitTag quote? s = some (content, rest)) :
    ∃ piece, piece ≠ [] ∧ s = piece ++ rest ∧
      ∀ tail, splitTag quote? (piece ++ tail) = some (content, tail) := by
  induction s generalizing quote? content with
  | nil => cases h
  | cons c s ih =>
    cases quote? with
    | none =>
      rw [splitTag] at h
      split at h
      · rename_i hc
        cases h
        exact ⟨[c], List.cons_ne_nil _ _, rfl, fun tail => by
          rw [List.singleton_append, splitTag, if_pos hc]⟩
      · rename_i hc
        obtain ⟨⟨content, rest⟩, hsplit, heq⟩ := Option.map_eq_some_iff.1 h
        cases heq
        obtain ⟨piece, -, rfl, hpiece⟩ := ih hsplit
        exact ⟨c :: piece, List.cons_ne_nil _ _, rfl, fun tail => by
          rw [List.cons_append, splitTag, if_neg hc, hpiece]; rfl⟩
    | some quote =>
      rw [splitTag] at h
      obtain ⟨⟨content, rest⟩, hsplit, heq⟩ := Option.map_eq_some_iff.1 h
      cases heq
      obtain ⟨piece, -, rfl, hpiece⟩ := ih hsplit
      exact ⟨c :: piece, List.cons_ne_nil _ _, rfl, fun tail => by
        rw [List.cons_append, splitTag, hpiece]; rfl⟩

namespace Reader

variable {r r' : Reader}

/-- The event is read off a piece of the text. Neither where the piece stands matters to that, nor
what follows it, unless nothing does. -/
def ReadsPiece (read : Nat → List Char → Except Failure (Event × Reader)) (s : List Char)
    (e : Event) (r' : Reader) : Prop :=
  ∃ piece, piece ≠ [] ∧ s = piece ++ r'.rest ∧ ∀ offset tail, (r'.rest = [] → tail = []) →
    ∃ offset', read offset (piece ++ tail) = .ok (e, { r' with rest := tail, offset := offset' })

theorem nextBang_local (h : r.nextBang s = .ok (e, r')) :
    ReadsPiece (fun offset => nextBang { r with offset }) s e r' := by
  cases s with
  | nil => cases h
  | cons c s =>
    have hclose : ∀ {ends content rest}, splitAtClose ends ['!'] (c :: s) = some (content, rest) →
        (∀ offset piece tail, splitAtClose ends ['!'] (c :: (piece ++ tail)) =
          some (content, tail) → nextBang { r with offset } (c :: (piece ++ tail)) =
            .ok (e, { r with
              rest := tail, offset := offset + Text.byteCount content + 1, inMarkup := false })) →
        ReadsPiece (fun offset => nextBang { r with offset }) (c :: s) e { r with
          rest, offset := r.offset + Text.byteCount content + 1, inMarkup := false } := by
      intro ends content rest hsplit hread
      obtain ⟨_ | ⟨d, piece⟩, hne, hs, hpiece⟩ := splitAtClose_local hsplit
      · exact absurd rfl hne
      · cases (List.cons.inj hs).1
        exact ⟨c :: piece, hne, hs, fun offset tail _ => ⟨_, hread offset piece tail (hpiece tail)⟩⟩
    simp only [nextBang] at h
    -- a comment, a section of character data or a document type declaration
    repeat' split at h
    all_goals cases h
    · rename_i hdash _ content rest hsplit _ hevent
      refine hclose hsplit fun offset piece tail hpiece => ?_
      simp only [nextBang, if_pos hdash, hpiece, hevent]
    · rename_i hdash hbracket _ content rest hsplit _ hevent
      refine hclose hsplit fun offset piece tail hpiece => ?_
      simp only [nextBang, if_neg hdash, if_pos hbracket, hpiece, hevent]
    · rename_i hdash hbracket hletter _ content rest hsplit _ hevent
      refine hclose hsplit fun offset piece tail hpiece => ?_
      simp only [nextBang, if_neg hdash, if_neg hbracket, if_pos hletter, hpiece, hevent]

theorem untilClose_local (s : List Char) (hs : s ≠ []) :
    ∃ piece, piece ≠ [] ∧ s = piece ++ (untilClose s).2.1 ∧
      ∀ tail, ((untilClose s).2.1 = [] → tail = []) →
        untilClose (piece ++ tail) = ((untilClose s).1, tail, (untilClose s).2.2) := by
  have hfree : '>' ∉ s.takeWhile (· ≠ '>') := fun h => by simpa using List.mem_takeWhile_imp h
  have hsplit := (List.takeWhile_append_dropWhile (p := (· ≠ '>')) (l := s)).symm
  cases hdrop : s.dropWhile (· ≠ '>') with
  | nil =>
    rw [hdrop, List.append_nil] at hsplit
    have heq : untilClose s = (s, [], Text.byteCount s) := by
      rw [untilClose, hdrop, ← hsplit]
    rw [heq]
    refine ⟨s, hs, (List.append_nil s).symm, fun tail htail => ?_⟩
    rw [htail rfl, List.append_nil, heq]
  | cons c rest =>
    obtain rfl : c = '>' := by
      have hhead := List.head?_dropWhile_not (· ≠ '>') s
      rw [hdrop] at hhead
      simpa using hhead
    rw [hdrop] at hsplit
    have heq := untilClose_append hfree rest
    rw [← hsplit] at heq
    rw [heq]
    refine ⟨s.takeWhile (· ≠ '>') ++ ['>'], by simp, by simpa using hsplit, fun tail _ => ?_⟩
    simpa using untilClose_append hfree tail

theorem nextEnd_local (hs : s ≠ []) (h : r.nextEnd s = .ok (e, r')) :
    ReadsPiece (fun offset => nextEnd { r with offset }) s e r' := by
  obtain ⟨piece, hne, hsplit, hpiece⟩ := untilClose_local s hs
  rw [nextEnd] at h
  simp only at h
  split at h
  · cases h
  · rename_i innermost outer hopened
    split at h
    · rename_i hname
      cases h
      refine ⟨piece, hne, hsplit, fun offset tail htail => ⟨offset + (untilClose s).2.2, ?_⟩⟩
      simp only [nextEnd, hpiece tail htail, hopened, hname]
      rfl
    · cases h

theorem nextQuestion_local (hs : s ≠ []) (h : r.nextQuestion s = .ok (e, r')) :
    ReadsPiece (fun offset => nextQuestion { r with offset }) s e r' := by
  obtain ⟨piece, hne, hsplit, hpiece⟩ := untilClose_local s hs
  rw [nextQuestion] at h
  simp only at h
  split at h
  · rename_i hends
    split at h
    all_goals
      rename_i hbody
      cases h
      refine ⟨piece, hne, hsplit, fun offset tail htail => ⟨offset + (untilClose s).2.2, ?_⟩⟩
      simp only [nextQuestion, hpiece tail htail, hends, hbody]
      rfl
  · cases h

theorem nextTag_local (h : r.nextTag s = .ok (e, r')) :
    ReadsPiece (fun offset => nextTag { r with offset }) s e r' := by
  rw [nextTag] at h
  split at h
  · cases h
  · rename_i content rest hsplit
    obtain ⟨piece, hne, hs, hpiece⟩ := splitTag_local hsplit
    simp only at h
    split at h
    all_goals
      rename_i hlast
      cases h
      refine ⟨piece, hne, hs, fun offset tail _ => ⟨offset + Text.byteCount content + 1, ?_⟩⟩
      simp only [nextTag, hpiece tail, hlast]
      rfl

theorem map_some_eq_ok {x : Except Failure (Event × Reader)}
    (h : some <$> x = .ok (some (e, r'))) : x = .ok (e, r') := by
  cases x <;> cases h
  rfl

/-- The event is read off a piece of what is left to read. -/
def ReadsNext (next : Reader → Except Failure (Option (Event × Reader))) (r : Reader) (e : Event)
    (r' : Reader) : Prop :=
  ∃ piece, piece ≠ [] ∧ r.rest = piece ++ r'.rest ∧ ∀ offset tail, (r'.rest = [] → tail = []) →
    ∃ offset', next { r with rest := piece ++ tail, offset } =
      .ok (some (e, { r' with rest := tail, offset := offset' }))

/-- Markup is read off as its kind is, which its first character tells. -/
theorem ReadsPiece.nextMarkup {read : Nat → List Char → Except Failure (Event × Reader)} {c : Char}
    (h : ReadsPiece read (c :: s) e r') (hrest : r.rest = c :: s)
    (hread : ∀ offset t, Reader.nextMarkup { r with rest := c :: t, offset } =
      some <$> read offset (c :: t)) : ReadsNext Reader.nextMarkup r e r' := by
  obtain ⟨piece, hne, hs, hpiece⟩ := h
  refine ⟨piece, hne, hrest.trans hs, fun offset tail htail => ?_⟩
  obtain ⟨offset', hevent⟩ := hpiece offset tail htail
  cases piece with
  | nil => exact absurd rfl hne
  | cons d piece =>
    cases (List.cons.inj hs).1
    rw [List.cons_append] at hevent ⊢
    exact ⟨offset', by rw [hread, hevent]; rfl⟩

theorem nextMarkup_local (h : r.nextMarkup = .ok (some (e, r'))) :
    ReadsNext nextMarkup r e r' := by
  cases hrest : r.rest with
  | nil =>
    rw [nextMarkup, hrest] at h
    cases h
  | cons c s =>
    by_cases hbang : c = '!'
    · subst hbang
      rw [nextMarkup, hrest] at h
      -- the kind is told by what follows the exclamation mark
      obtain ⟨piece, -, hs, hpiece⟩ := nextBang_local (map_some_eq_ok h)
      refine ⟨'!' :: piece, List.cons_ne_nil _ _, by rw [hrest, hs]; rfl,
        fun offset tail htail => ?_⟩
      obtain ⟨offset', hread⟩ := hpiece offset tail htail
      exact ⟨offset', congrArg (some <$> ·) hread⟩
    by_cases hslash : c = '/'
    · subst hslash
      rw [nextMarkup, hrest] at h
      exact (nextEnd_local (List.cons_ne_nil _ _) (map_some_eq_ok h)).nextMarkup hrest
        fun _ _ => rfl
    by_cases hquestion : c = '?'
    · subst hquestion
      rw [nextMarkup, hrest] at h
      exact (nextQuestion_local (List.cons_ne_nil _ _) (map_some_eq_ok h)).nextMarkup hrest
        fun _ _ => rfl
    · have hc := And.intro hbang (And.intro hslash hquestion)
      rw [nextMarkup_tag hc hrest] at h
      exact (nextTag_local (map_some_eq_ok h)).nextMarkup hrest fun _ _ => nextMarkup_tag hc rfl

/-- What comes next outside of markup: nothing but white space, markup behind white space, or
character data up to a bracket or to the end. -/
theorem cases_of_rest (s : List Char) :
    (∀ c ∈ s, isSpace c) ∨ (∃ d t, (∀ c ∈ d, isSpace c) ∧ s = d ++ '<' :: t) ∨
      ∃ d after, '<' ∉ d ∧ strip d ≠ [] ∧ s = d ++ after ∧ ∀ c ∈ after.head?, c = '<' := by
  obtain ⟨d, hd⟩ : ∃ d, d = s.takeWhile (· ≠ '<') := ⟨_, rfl⟩
  obtain ⟨after, hafter⟩ : ∃ after, after = s.dropWhile (· ≠ '<') := ⟨_, rfl⟩
  have hs : s = d ++ after := by rw [hd, hafter, List.takeWhile_append_dropWhile]
  have hfree : '<' ∉ d := by
    rw [hd]
    exact fun h => by simpa using List.mem_takeWhile_imp h
  have hbracket : ∀ c ∈ after.head?, c = '<' := by
    intro c hc
    have hhead := List.head?_dropWhile_not (· ≠ '<') s
    rw [← hafter, Option.mem_def.1 hc] at hhead
    simpa using hhead
  by_cases hblank : strip d = []
  · have hspace := strip_eq_nil_iff.1 hblank
    cases after with
    | nil => exact .inl (by rwa [hs, List.append_nil])
    | cons c t =>
      cases hbracket c rfl
      exact .inr (.inl ⟨d, t, hspace, hs⟩)
  · exact .inr (.inr ⟨d, after, hfree, hblank, hs, hbracket⟩)

/-- An event is read off a piece of the text. -/
theorem next_local (h : r.next = .ok (some (e, r'))) : ReadsNext next r e r' := by
  rcases Bool.eq_false_or_eq_true r.inMarkup with hmarkup | hmarkup
  · rw [next, if_pos hmarkup] at h
    obtain ⟨piece, hne, hs, hpiece⟩ := nextMarkup_local h
    refine ⟨piece, hne, hs, fun offset tail htail => ?_⟩
    rw [next, if_pos hmarkup]
    exact hpiece offset tail htail
  rcases cases_of_rest r.rest with
    hspace | ⟨d, s, hspace, hrest⟩ | ⟨d, after, hd, hne, hrest, hafter⟩
  · rw [next_eq_none hmarkup hspace] at h
    cases h
  · obtain ⟨t, offset, ht, hnext⟩ := atMarkup_of_blank hmarkup hspace hrest
    obtain rfl : s = t := (List.cons.inj ht).2
    obtain ⟨piece, -, hs, hpiece⟩ := nextMarkup_local (hnext.symm.trans h)
    refine ⟨d ++ '<' :: piece, by simp, by rw [hrest]; simp [show s = _ from hs],
      fun offset tail htail => ?_⟩
    obtain ⟨t, offset₁, ht, hnext⟩ := atMarkup_of_blank
      (r := { r with rest := d ++ '<' :: piece ++ tail, offset }) (s := piece ++ tail) hmarkup
      hspace (by simp)
    obtain rfl : piece ++ tail = t := (List.cons.inj ht).2
    obtain ⟨offset', hread⟩ := hpiece offset₁ tail htail
    exact ⟨offset', hnext.trans hread⟩
  · obtain ⟨offset, hnext⟩ := exists_next_text hmarkup hd hne hrest hafter
    obtain ⟨rfl, rfl⟩ := Prod.mk.inj (Option.some.inj (Except.ok.inj (h.symm.trans hnext)))
    cases after with
    | nil =>
      refine ⟨d, fun h => hne (by rw [h]; rfl), hrest, fun offset tail htail => ?_⟩
      obtain rfl := htail rfl
      exact exists_next_text (r := { r with rest := d ++ [], offset }) hmarkup hd hne rfl (by simp)
    | cons c s =>
      cases hafter c rfl
      refine ⟨d ++ ['<'], by simp, by simpa using hrest, fun offset tail _ => ?_⟩
      exact exists_next_text (r := { r with rest := d ++ ['<'] ++ tail, offset }) hmarkup hd hne
        (List.append_assoc _ _ _) (by simp)

/-- Events are read off a piece of the text, which anything but its end may follow. -/
theorem Reads.local (h : r.Reads es r') (hne : r'.rest ≠ []) :
    ∃ piece, r.rest = piece ++ r'.rest ∧ ∀ offset tail, ∃ offset',
      Reads { r with rest := piece ++ tail, offset } es
        { r' with rest := tail, offset := offset' } := by
  induction h with
  | nil r => exact ⟨[], rfl, fun offset tail => ⟨offset, .nil _⟩⟩
  | @cons r r₁ r' e es hnext _ ih =>
    obtain ⟨behind, hbehind, hreads⟩ := ih hne
    obtain ⟨piece, -, hpiece, hread⟩ := next_local hnext
    refine ⟨piece ++ behind, by rw [hpiece, hbehind, List.append_assoc], fun offset tail => ?_⟩
    have hrest : r₁.rest ≠ [] := by
      rw [hbehind]
      exact fun h => hne (List.append_eq_nil_iff.1 h).2
    obtain ⟨offset₁, hnext⟩ := hread offset (behind ++ tail) (absurd · hrest)
    obtain ⟨offset', hreads⟩ := hreads offset₁ tail
    rw [List.append_assoc]
    exact ⟨offset', .cons hnext hreads⟩

/-! ### Other positions -/

theorem rest_of_nextMarkup (h : r.nextMarkup = .ok none) : r.rest = [] := by
  have hmap : ∀ {x : Except Failure (Event × Reader)}, some <$> x ≠ .ok none := by
    intro x hx
    cases x <;> cases hx
  rw [nextMarkup] at h
  split at h
  · rename_i hrest
    exact hrest
  all_goals exact absurd h hmap

theorem next_eq_none_moved (h : r.next = .ok none) (offset : Nat) :
    next { r with offset } = .ok none := by
  rcases Bool.eq_false_or_eq_true r.inMarkup with hmarkup | hmarkup
  · rw [next, if_pos hmarkup] at h
    rw [next, if_pos hmarkup, nextMarkup, rest_of_nextMarkup h]
  rcases cases_of_rest r.rest with
    hspace | ⟨d, s, hspace, hrest⟩ | ⟨d, after, hd, hne, hrest, hafter⟩
  · exact next_eq_none hmarkup hspace
  · obtain ⟨t, _, ht, hnext⟩ := atMarkup_of_blank hmarkup hspace hrest
    obtain rfl : s = t := (List.cons.inj ht).2
    obtain rfl : s = [] := rest_of_nextMarkup (hnext.symm.trans h)
    obtain ⟨t, _, ht, hnext⟩ := atMarkup_of_blank (r := { r with offset }) hmarkup hspace hrest
    obtain rfl : [] = t := (List.cons.inj ht).2
    exact hnext
  · obtain ⟨_, hnext⟩ := exists_next_text hmarkup hd hne hrest hafter
    rw [h] at hnext
    cases hnext

/-- What is read without fault is read from every other position on. -/
theorem readAll_moved (h : r.readAll.failure? = none) (offset : Nat) :
    readAll { r with offset } = r.readAll := by
  induction r using Reader.readAll.induct generalizing offset with
  | case1 r f hnext =>
    rw [readAll, hnext] at h
    cases h
  | case2 r hnext =>
    rw [readAll, next_eq_none_moved hnext, readAll, hnext]
  | case3 r e r' hnext ih =>
    obtain ⟨piece, -, hrest, hread⟩ := next_local hnext
    obtain ⟨offset', hmoved⟩ := hread offset r'.rest id
    rw [← hrest] at hmoved
    rw [readAll, hnext] at h
    rw [readAll, hmoved, readAll, hnext]
    simp only [ih h offset']

end Reader

end MapServices.Xml
