import Mathlib.Data.List.TakeWhile
import MapServices.Xml.Event

/-!
# The XML declaration of a document

The reader finds a declaration behind nothing but white space of markup. The declaration ends at
the first closing angle bracket, or with the document, and a question mark must stand before its
end.

* `declarationOf?_of_opens`: such a declaration is found.
* `exists_of_declarationOf?`: no other one is.
-/

namespace MapServices.Xml

variable {s rest close : List Char} {tag : Tag}

/-- The declaration that the reader finds at the start of a document. -/
def declarationOf? (s : List Char) : Option Tag :=
  match (Reader.ofChars s).next with
  | .ok (some (.declaration tag, _)) => some tag
  | _ => none

/-- What stands between the name of a declaration and its end: white space comes first, and no
closing angle bracket is part of it. -/
structure IsDeclaration (rest : List Char) : Prop where
  space : rest.head?.any isSpace = true
  noClose : '>' ∉ rest

theorem ofChars_eq (h : ∀ c ∈ s.head?, c ≠ Reader.byteOrderMark) :
    Reader.ofChars s = { rest := s } := by
  cases s with
  | nil => rfl
  | cons c s => rw [Reader.ofChars, if_neg (h c rfl)]

/-- What holds of four characters holds of all white space of markup. -/
theorem forall_isSpace {p : Char → Prop} (hblank : p ' ') (htab : p '\t') (hreturn : p '\r')
    (hfeed : p '\n') {c : Char} (hc : isSpace c) : p c := by
  simp only [isSpace, Bool.or_eq_true, decide_eq_true_eq] at hc
  obtain ((rfl | rfl) | rfl) | rfl := hc
  · exact hblank
  · exact htab
  · exact hreturn
  · exact hfeed

/-! ## Values of attributes -/

namespace Attribute

/-- The part of a value that has been read. -/
def ScanState.value : ScanState → List Char
  | .inValue _ _ value => value
  | _ => []

/-- A value is made of the characters that are scanned. -/
theorem mem_of_mem_value {seen : Option (List (List Char × Nat))} {position : Nat}
    {state : ScanState} {s : List Char} {a : Attribute}
    (ha : a ∈ (scanFrom seen position state s).attributes) {c : Char} (hc : c ∈ a.value) :
    c ∈ state.value ∨ c ∈ s := by
  fun_induction scanFrom seen position state s with
  | case6 seen position d s ih =>
    have hvalue : (if isSpace d then ScanState.between else .inKey position [d]).value = [] := by
      split <;> rfl
    rw [hvalue] at ih
    exact .inr (List.mem_cons_of_mem _ ((ih ha).resolve_left List.not_mem_nil))
  | case9 seen position start key d s hd ih =>
    have hvalue : (if isSpace d then ScanState.afterKey start key
        else .inKey start (d :: key)).value = [] := by
      split <;> rfl
    rw [hvalue] at ih
    exact .inr (List.mem_cons_of_mem _ ((ih ha).resolve_left List.not_mem_nil))
  | case17 seen position key value d s ih =>
    -- the value ends with the quote it started with
    rcases List.mem_cons.1 ha with rfl | ha
    · exact .inl (List.mem_reverse.1 hc)
    · exact .inr (List.mem_cons_of_mem _ ((ih ha).resolve_left List.not_mem_nil))
  | case18 seen position key quote value d s hd ih =>
    rcases ih ha with hvalue | hs
    · rcases List.mem_cons.1 hvalue with rfl | hvalue
      · exact .inr List.mem_cons_self
      · exact .inl hvalue
    · exact .inr (List.mem_cons_of_mem _ hs)
  | _ => simp_all [ScanState.value]
end Attribute

/-! ## What the reader finds -/

namespace Reader

variable {r r' : Reader}

theorem untilClose_append (h : '>' ∉ s) (after : List Char) :
    untilClose (s ++ '>' :: after) = (s, after, Text.byteCount s + 1) := by
  have hall : ∀ c ∈ s, decide (c ≠ '>') = true := by
    intro c hc
    rw [decide_eq_true_eq]
    rintro rfl
    exact h hc
  have htake : (s ++ '>' :: after).takeWhile (· ≠ '>') = s := by
    rw [List.takeWhile_append_of_pos hall, List.takeWhile_cons_of_neg (by simp), List.append_nil]
  have hdrop : (s ++ '>' :: after).dropWhile (· ≠ '>') = '>' :: after := by
    rw [List.dropWhile_append_of_pos hall, List.dropWhile_cons_of_neg (by simp)]
  rw [untilClose, hdrop, htake]

theorem fst_untilClose (h : '>' ∉ s) (hclose : ∀ c ∈ close.head?, c = '>') :
    (untilClose (s ++ close)).1 = s := by
  cases close with
  | nil =>
    have hall : ∀ c ∈ s, decide (c ≠ '>') = true := by
      intro c hc
      rw [decide_eq_true_eq]
      rintro rfl
      exact h hc
    have htake : s.takeWhile (· ≠ '>') = s := List.takeWhile_eq_self_iff.2 hall
    simp only [untilClose, List.append_nil, htake]
    split <;> rfl
  | cons c after =>
    obtain rfl := hclose c rfl
    rw [untilClose_append h]

theorem nextQuestion_declaration (h : IsDeclaration rest) (hend : ∀ c ∈ close.head?, c = '>')
    (r : Reader) :
    ∃ r', r.nextQuestion ("?xml".toList ++ rest ++ '?' :: close) =
      .ok (.declaration ⟨"xml".toList, rest⟩, r') := by
  obtain ⟨hspace, hclose⟩ := h
  obtain ⟨content, hcontent⟩ : ∃ content, content = "?xml".toList ++ rest ++ ['?'] := ⟨_, rfl⟩
  have hsplit : (untilClose ("?xml".toList ++ rest ++ '?' :: close)).1 = content := by
    have hfree : '>' ∉ content := by simp [hcontent, hclose]
    rw [← fst_untilClose hfree hend, hcontent]
    simp
  have hlast : content.getLast? = some '?' := by rw [hcontent, List.getLast?_concat]
  have hbody : (content.drop 1).dropLast = "xml".toList ++ rest := by
    have hdrop : content.drop 1 = "xml".toList ++ rest ++ ['?'] := by
      rw [hcontent]
      rfl
    rw [hdrop, List.dropLast_concat]
  rcases hfound : untilClose ("?xml".toList ++ rest ++ '?' :: close) with ⟨found, after, size⟩
  rw [hfound] at hsplit
  obtain rfl : found = content := hsplit
  cases rest with
  | nil => cases hspace
  | cons c rest =>
    have hc : isSpace c := hspace
    have hlength : 5 < found.length := by simp [hcontent]
    rw [nextQuestion, hfound]
    simp only [hlast, hbody]
    rw [if_pos (by simp; omega), if_pos (by simp [hlength, hc])]
    exact ⟨_, rfl⟩

theorem exists_of_nextQuestion {s : List Char}
    (h : r.nextQuestion ('?' :: s) = .ok (.declaration tag, r')) :
    ∃ close, tag.name = "xml".toList ∧ IsDeclaration tag.rest ∧ (∀ c ∈ close.head?, c = '>') ∧
      s = "xml".toList ++ tag.rest ++ '?' :: close := by
  obtain ⟨content, hcontent⟩ : ∃ content, content = s.takeWhile (· ≠ '>') := ⟨_, rfl⟩
  have hall : '>' ∉ content := by
    rw [hcontent]
    intro hmem
    simpa using List.mem_takeWhile_imp hmem
  obtain ⟨close, hclose, hs⟩ : ∃ close, (∀ c ∈ close.head?, c = '>') ∧ s = content ++ close := by
    refine ⟨s.dropWhile (· ≠ '>'), fun c hc => ?_, ?_⟩
    · have hhead := List.head?_dropWhile_not (· ≠ '>') s
      rw [Option.mem_def] at hc
      rw [hc] at hhead
      simpa using hhead
    · rw [hcontent, List.takeWhile_append_dropWhile]
  have hsplit : (untilClose ('?' :: s)).1 = '?' :: content := by
    have htake : ('?' :: s).takeWhile (· ≠ '>') = '?' :: content := by
      rw [hcontent, List.takeWhile_cons_of_pos (by decide)]
    simp only [untilClose, htake]
    split <;> rfl
  rcases hfound : untilClose ('?' :: s) with ⟨found, rest, size⟩
  rw [hfound] at hsplit
  obtain rfl : found = '?' :: content := hsplit
  rw [nextQuestion, hfound] at h
  simp only at h
  rcases List.eq_nil_or_concat content with rfl | ⟨body, d, hbody⟩
  · cases h
  have hlast : ('?' :: content).getLast? = some d := by
    rw [hbody, List.concat_eq_append, ← List.cons_append, List.getLast?_concat]
  have hdrop : (('?' :: content).drop 1).dropLast = body := by
    rw [hbody, List.concat_eq_append, List.drop_one, List.tail_cons, List.dropLast_concat]
  rw [hlast, hdrop] at h
  split at h
  · rename_i hquestion
    split at h
    · rename_i hdeclaration
      simp only [Bool.and_eq_true, decide_eq_true_eq, Option.some.injEq,
        List.isPrefixOf_iff_prefix] at hquestion hdeclaration
      obtain ⟨-, rfl⟩ := hquestion
      obtain ⟨⟨-, t, rfl⟩, hspace⟩ := hdeclaration
      cases h
      refine ⟨close, rfl, ⟨?_, fun hmem => hall ?_⟩, hclose, ?_⟩
      · have hthird : ("xml".toList ++ t)[3]? = t.head? := List.head?_eq_getElem?.symm
        rwa [hthird] at hspace
      · rw [hbody, List.concat_eq_append]
        exact List.mem_append_left _ (List.mem_append_right _ hmem)
      · rw [hs, hbody, List.concat_eq_append, List.append_assoc]
        rfl
    · cases h
  · cases h

theorem nextBang_ne_declaration {s : List Char} :
    r.nextBang s ≠ .ok (.declaration tag, r') := by
  intro h
  unfold nextBang at h
  split at h
  · cases h
  · simp only at h
    -- a comment, a section of character data or a document type declaration
    repeat' split at h
    all_goals cases h
    all_goals
      rename_i hevent
      repeat' split at hevent
      all_goals cases hevent

theorem nextEnd_ne_declaration {s : List Char} : r.nextEnd s ≠ .ok (.declaration tag, r') := by
  intro h
  unfold nextEnd at h
  simp only at h
  repeat' split at h
  all_goals cases h

theorem nextTag_ne_declaration {s : List Char} : r.nextTag s ≠ .ok (.declaration tag, r') := by
  intro h
  unfold nextTag at h
  split at h
  · cases h
  · simp only at h
    split at h <;> cases h

theorem exists_of_nextMarkup (h : r.nextMarkup = .ok (some (.declaration tag, r'))) :
    ∃ s, r.rest = '?' :: s ∧ r.nextQuestion ('?' :: s) = .ok (.declaration tag, r') := by
  have hmap : ∀ {x : Except Failure (Event × Reader)},
      some <$> x = Except.ok (some (.declaration tag, r')) → x = .ok (.declaration tag, r') := by
    intro x hx
    cases x with
    | error f => cases hx
    | ok z =>
      cases hx
      rfl
  unfold nextMarkup at h
  split at h
  · cases h
  · exact absurd (hmap h) nextBang_ne_declaration
  · exact absurd (hmap h) nextEnd_ne_declaration
  · rename_i s hs
    exact ⟨s, hs, hmap h⟩
  · exact absurd (hmap h) nextTag_ne_declaration

theorem exists_of_next (hr : r.inMarkup = false)
    (h : r.next = .ok (some (.declaration tag, r'))) :
    ∃ spaces s r₀, (∀ c ∈ spaces, isSpace c) ∧ r.rest = spaces ++ '<' :: '?' :: s ∧
      nextQuestion r₀ ('?' :: s) = .ok (.declaration tag, r') := by
  have hsplit : r.rest = r.rest.takeWhile isSpace ++ r.rest.dropWhile isSpace :=
    List.takeWhile_append_dropWhile.symm
  rw [next, if_neg (by simp [hr])] at h
  simp only at h
  split at h
  · cases h
  · rename_i rest hrest
    obtain ⟨s, rfl, hread⟩ := exists_of_nextMarkup h
    exact ⟨r.rest.takeWhile isSpace, s, _, fun c hc => List.mem_takeWhile_imp hc, hrest ▸ hsplit,
      hread⟩
  · split at h <;> cases h

end Reader

/-! ## Documents -/

/-- A declaration behind white space of markup is found. -/
theorem declarationOf?_of_opens {spaces : List Char} (hspaces : ∀ c ∈ spaces, isSpace c)
    (h : IsDeclaration rest) (hclose : ∀ c ∈ close.head?, c = '>') :
    declarationOf? (spaces ++ '<' :: ("?xml".toList ++ rest ++ '?' :: close)) =
      some ⟨"xml".toList, rest⟩ := by
  obtain ⟨markup, hmarkup⟩ : ∃ markup, markup = "?xml".toList ++ rest ++ '?' :: close := ⟨_, rfl⟩
  have hmark : ∀ c ∈ (spaces ++ '<' :: markup).head?, c ≠ Reader.byteOrderMark := by
    cases spaces with
    | nil =>
      rintro c ⟨⟩
      decide
    | cons d spaces =>
      rintro c ⟨⟩ rfl
      exact absurd (hspaces _ List.mem_cons_self) (by decide)
  have hdrop : (spaces ++ '<' :: markup).dropWhile isSpace = '<' :: markup := by
    rw [List.dropWhile_append_of_pos hspaces, List.dropWhile_cons_of_neg (by decide)]
  rw [← hmarkup, declarationOf?, ofChars_eq hmark, Reader.next, if_neg (by simp)]
  simp only [hdrop]
  have hquestion : ∀ r : Reader, r.rest = markup →
      r.nextMarkup = some <$> r.nextQuestion markup := by
    intro r hr
    rw [Reader.nextMarkup, hr, hmarkup]
    rfl
  rw [hquestion _ rfl, hmarkup]
  obtain ⟨r', hread⟩ := Reader.nextQuestion_declaration h hclose
    { rest := "?xml".toList ++ rest ++ '?' :: close, offset := _, inMarkup := true }
  rw [hread]
  rfl

/-- Every declaration that is found stands behind white space of markup. -/
theorem exists_of_declarationOf? (hmark : ∀ c ∈ s.head?, c ≠ Reader.byteOrderMark)
    (h : declarationOf? s = some tag) :
    ∃ spaces close, (∀ c ∈ spaces, isSpace c) ∧ tag.name = "xml".toList ∧
      IsDeclaration tag.rest ∧ (∀ c ∈ close.head?, c = '>') ∧
      s = spaces ++ '<' :: ("?xml".toList ++ tag.rest ++ '?' :: close) := by
  rw [declarationOf?, ofChars_eq hmark] at h
  split at h
  · rename_i found r' hnext
    cases h
    obtain ⟨spaces, s, r, hspaces, hrest, hread⟩ := Reader.exists_of_next rfl hnext
    obtain ⟨close, hname, hdeclaration, hclose, rfl⟩ := Reader.exists_of_nextQuestion hread
    exact ⟨spaces, close, hspaces, hname, hdeclaration, hclose, hrest⟩
  · cases h

end MapServices.Xml
