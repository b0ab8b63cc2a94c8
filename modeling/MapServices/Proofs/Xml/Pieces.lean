import Mathlib.Data.List.DropRight
import MapServices.Proofs.Xml.Declaration
import MapServices.Proofs.Xml.Tree

/-!
# What the reader makes of each piece of a document

A piece of markup gives one event, wherever it stands. Character data between two pieces of markup
gives one event or none: the reader cuts white space off both ends and passes over what is empty
then.

* `Reader.exists_reads_data`: character data.
* `Reader.AtMarkup.comment`, `.cdata`, `.start`, `.empty`, `.close`: markup.
-/

namespace MapServices.Xml

variable {s t rest c m d name content : List Char} {opened outer : List (List Char)}

/-! ### White space at the ends -/

/-- A text without the white space of markup at its ends. -/
def strip (s : List Char) : List Char := (s.dropWhile isSpace).rdropWhile isSpace

theorem strip_eq_nil_iff : strip s = [] ↔ ∀ c ∈ s, isSpace c := by
  rw [strip, List.rdropWhile_eq_nil_iff]
  constructor
  · intro h c hc
    rw [← List.takeWhile_append_dropWhile (p := isSpace) (l := s)] at hc
    rcases List.mem_append.1 hc with hc | hc
    · exact List.mem_takeWhile_imp hc
    · exact h c hc
  · intro h c hc
    exact h c ((List.dropWhile_sublist _).mem hc)

theorem strip_eq_self (hstart : ∀ c ∈ s.head?, isSpace c = false)
    (hend : ∀ c ∈ s.getLast?, isSpace c = false) : strip s = s := by
  have hdrop : s.dropWhile isSpace = s := by
    cases s with
    | nil => rfl
    | cons c s => exact List.dropWhile_cons_of_neg (by simp [hstart c rfl])
  rw [strip, hdrop, List.rdropWhile_eq_self_iff]
  intro hne
  simp [hend _ (List.getLast?_eq_some_getLast hne)]

/-- Only white space is cut off. -/
theorem exists_strip (s : List Char) : ∃ lead trail, (∀ c ∈ lead, isSpace c) ∧
    (∀ c ∈ trail, isSpace c) ∧ s = lead ++ strip s ++ trail := by
  refine ⟨s.takeWhile isSpace, (s.dropWhile isSpace).rtakeWhile isSpace,
    fun c hc => List.mem_takeWhile_imp hc, fun c hc => List.mem_rtakeWhile_imp hc, ?_⟩
  rw [strip, List.append_assoc, List.rdropWhile_append_rtakeWhile, List.takeWhile_append_dropWhile]

/-- The events of character data between two pieces of markup. -/
def dataEvents (d : List Char) : List Event := if strip d = [] then [] else [.text (strip d)]

namespace Reader

variable {r : Reader}

/-- What the reader comes to next is the markup at the start of the text, of which it may have read
the bracket. -/
def AtMarkup (r : Reader) (s : List Char) : Prop :=
  ∃ t offset, s = '<' :: t ∧
    r.next = nextMarkup { rest := t, offset, inMarkup := true, opened := r.opened }

/-- The event comes next, and the reader is then behind a piece of markup. -/
def Yields (r : Reader) (e : Event) (rest : List Char) (opened : List (List Char)) : Prop :=
  ∃ offset, r.next = .ok (some (e, { rest, offset, opened }))

/-! ### Character data -/

theorem atMarkup_of_inMarkup (h : r.inMarkup = true) : r.AtMarkup ('<' :: r.rest) := by
  obtain ⟨rest, offset, inMarkup, opened⟩ := r
  cases h
  exact ⟨rest, offset, rfl, by rw [next, if_pos rfl]⟩

/-- White space before markup is passed over. -/
theorem atMarkup_of_blank (h : r.inMarkup = false) (hd : ∀ c ∈ d, isSpace c)
    (hrest : r.rest = d ++ '<' :: s) : r.AtMarkup ('<' :: s) := by
  have hdrop : r.rest.dropWhile isSpace = '<' :: s := by
    rw [hrest, List.dropWhile_append_of_pos hd, List.dropWhile_cons_of_neg (by decide)]
  refine ⟨s, r.offset + Text.byteCount (r.rest.takeWhile isSpace) + 1, rfl, ?_⟩
  rw [next, if_neg (by simp [h])]
  simp only [hdrop]

/-- Nothing is left in a document when only white space is. -/
theorem next_eq_none (h : r.inMarkup = false) (hd : ∀ c ∈ r.rest, isSpace c) :
    r.next = .ok none := by
  have hdrop : r.rest.dropWhile isSpace = [] := List.dropWhile_eq_nil_iff.2 hd
  rw [next, if_neg (by simp [h])]
  simp only [hdrop]

/-- Other character data, up to markup or to the end, is given without the white space around it.
-/
theorem exists_next_text {after : List Char} (h : r.inMarkup = false) (hd : '<' ∉ d)
    (hne : strip d ≠ []) (hrest : r.rest = d ++ after) (hafter : ∀ c ∈ after.head?, c = '<') :
    ∃ offset, r.next = .ok (some (.text (strip d),
      { rest := after.tail, offset, inMarkup := true, opened := r.opened })) := by
  obtain ⟨blank, hblank⟩ : ∃ blank, blank = d.takeWhile isSpace := ⟨_, rfl⟩
  rcases hcore : d.dropWhile isSpace with _ | ⟨c, t⟩
  · exact absurd (by rw [strip, hcore]; rfl) hne
  have hsplit : d = blank ++ c :: t := by
    rw [hblank, ← hcore, List.takeWhile_append_dropWhile]
  have hc : ¬ isSpace c := by
    have hhead := List.head?_dropWhile_not isSpace d
    rw [hcore] at hhead
    simpa using hhead
  have hfree : ∀ x ∈ c :: t, decide (x ≠ '<') = true := by
    intro x hx
    rw [decide_eq_true_eq]
    rintro rfl
    exact hd (hsplit ▸ List.mem_append_right _ hx)
  have hdrop : r.rest.dropWhile isSpace = c :: (t ++ after) := by
    rw [hrest, hsplit, List.append_assoc, List.dropWhile_append_of_pos, List.cons_append,
      List.dropWhile_cons_of_neg hc]
    rw [hblank]
    exact fun x hx => List.mem_takeWhile_imp hx
  have hends : after.takeWhile (fun x => decide (x ≠ '<')) = [] ∧
      after.dropWhile (fun x => decide (x ≠ '<')) = after := by
    cases after with
    | nil => exact ⟨rfl, rfl⟩
    | cons x after =>
      cases hafter x rfl
      exact ⟨List.takeWhile_cons_of_neg (by decide), List.dropWhile_cons_of_neg (by decide)⟩
  have htake : (c :: (t ++ after)).takeWhile (fun x => decide (x ≠ '<')) = c :: t := by
    rw [← List.cons_append, List.takeWhile_append_of_pos hfree, hends.1, List.append_nil]
  have hleft : (c :: (t ++ after)).dropWhile (fun x => decide (x ≠ '<')) = after := by
    rw [← List.cons_append, List.dropWhile_append_of_pos hfree, hends.2]
  rw [next, if_neg (by simp [h])]
  simp only [hdrop]
  split
  · rename_i heq
    cases heq
  · rename_i heq
    cases heq
    exact absurd (hfree _ List.mem_cons_self) (by simp)
  · rename_i heq
    cases heq
    simp only [htake, hleft]
    rw [strip, hcore]
    cases after <;> exact ⟨_, rfl⟩

/-- Character data up to the next markup. -/
theorem exists_reads_data (h : r.inMarkup = false) (hd : '<' ∉ d)
    (hrest : r.rest = d ++ '<' :: s) :
    ∃ r', r.Reads (dataEvents d) r' ∧ r'.AtMarkup ('<' :: s) ∧ r'.opened = r.opened := by
  unfold dataEvents
  split
  · rename_i hblank
    exact ⟨r, .nil r, atMarkup_of_blank h (strip_eq_nil_iff.1 hblank) hrest, rfl⟩
  · rename_i hne
    obtain ⟨offset, hnext⟩ := exists_next_text h hd hne hrest (by simp)
    exact ⟨_, .cons hnext (.nil _), atMarkup_of_inMarkup rfl, rfl⟩

/-! ### Comments and sections of character data -/

theorem splitAtClose_append {ends : List Char → Bool} {before : List Char}
    (hfree : ∀ a b, content = a ++ '>' :: b → ends (a.reverse ++ before) = false)
    (hends : ends (content.reverse ++ before) = true) (rest : List Char) :
    splitAtClose ends before (content ++ '>' :: rest) = some (before.reverse ++ content, rest) := by
  induction content generalizing before with
  | nil =>
    rw [List.nil_append, splitAtClose, if_pos (by simpa using hends), List.append_nil]
  | cons x content ih =>
    have hx : ¬ (x = '>' && ends before) = true := by
      rw [Bool.and_eq_true, decide_eq_true_eq]
      rintro ⟨rfl, hx⟩
      rw [show ends before = false from hfree [] content rfl] at hx
      cases hx
    rw [List.cons_append, splitAtClose, if_neg hx, ih]
    · simp
    · rintro a b rfl
      simpa using hfree (x :: a) b rfl
    · simpa using hends

/-- Where two equal characters end a piece of markup, they do so behind its text only. -/
theorem not_isSuffix_of_append {x : Char} {a b : List Char} (hx : x ≠ '>')
    (hs : ¬ [x, x, '>'] <:+: s) (h : s ++ [x, x] = a ++ '>' :: b) : ¬ [x, x] <:+ a := by
  rintro ⟨first, rfl⟩
  rcases List.append_eq_append_iff.1 h with ⟨k, -, hk⟩ | ⟨k, rfl, hk⟩
  · have hmem : '>' ∈ [x, x] := by
      rw [hk]
      simp
    simp [Ne.symm hx] at hmem
  · rcases List.cons_eq_append_iff.1 hk with ⟨-, hk⟩ | ⟨k', rfl, -⟩
    · exact absurd (List.cons.inj hk).1 hx
    · exact hs ⟨first, k', by simp⟩

theorem isSuffix_of_isPrefixOf_reverse {mark before : List Char}
    (h : mark.reverse.isPrefixOf before.reverse) : mark <:+ before := by
  rw [List.isPrefixOf_iff_prefix] at h
  exact List.reverse_prefix.1 h

theorem nextMarkup_comment {r : Reader} (hrest : r.rest = '!' :: '-' :: s)
    (hsplit : splitAtClose endsComment ['!'] ('-' :: s) = some (content, rest))
    (hmark : "!--".toList.isPrefixOf content) : r.nextMarkup = .ok (some (.comment,
      { r with rest, offset := r.offset + Text.byteCount content + 1, inMarkup := false })) := by
  simp only [nextMarkup, hrest, nextBang, hsplit, hmark]
  rfl

/-- A comment ends at the first mark that ends comments. -/
theorem AtMarkup.comment (h : r.AtMarkup (['<', '!', '-', '-'] ++ c ++ ['-', '-', '>'] ++ rest))
    (hc : ¬ ['-', '-', '>'] <:+: c) : r.Yields .comment rest r.opened := by
  obtain ⟨t, offset, ht, hnext⟩ := h
  have hsplit : splitAtClose endsComment ['!'] ('-' :: '-' :: (c ++ ['-', '-']) ++ '>' :: rest) =
      some ('!' :: '-' :: '-' :: (c ++ ['-', '-']), rest) := by
    refine splitAtClose_append ?_ (by simp [endsComment]) rest
    intro a b hab
    rw [endsComment, Bool.and_eq_false_imp]
    intro hlength
    -- the two hyphens that the comment starts with do not end it
    obtain ⟨a, rfl⟩ : ∃ a', a = '-' :: '-' :: a' := by
      rcases a with _ | ⟨x, _ | ⟨y, a⟩⟩
      · simp at hlength
      · simp at hlength
      · obtain ⟨rfl, rfl, -⟩ : '-' = x ∧ '-' = y ∧ _ := by simpa using hab
        exact ⟨a, rfl⟩
    rw [Bool.eq_false_iff]
    intro hends
    have hends : ['-', '-'] <:+ '!' :: '-' :: '-' :: a :=
      isSuffix_of_isPrefixOf_reverse (by simpa using hends)
    have hlast : ['-', '-'] <:+ a := by
      refine List.suffix_of_suffix_length_le hends ⟨['!', '-', '-'], rfl⟩ ?_
      simp only [List.length_append, List.length_reverse, List.length_cons, List.length_nil,
        decide_eq_true_eq] at hlength ⊢
      omega
    exact not_isSuffix_of_append (by decide) hc (by simpa using hab) hlast
  obtain rfl : t = '!' :: ('-' :: '-' :: (c ++ ['-', '-']) ++ '>' :: rest) := by
    simpa using (List.cons.inj ht).2.symm
  exact ⟨_, hnext.trans (nextMarkup_comment rfl hsplit rfl)⟩

theorem nextMarkup_cdata {r : Reader} (hrest : r.rest = '!' :: '[' :: s)
    (hsplit : splitAtClose endsCdata ['!'] ('[' :: s) =
      some ("![CDATA[".toList ++ m ++ [']', ']'], rest)) :
    r.nextMarkup = .ok (some (.cdata m, { r with
      rest
      offset := r.offset + Text.byteCount ("![CDATA[".toList ++ m ++ [']', ']']) + 1
      inMarkup := false })) := by
  have htake : ("![CDATA[".toList ++ m ++ [']', ']']).take
      (("![CDATA[".toList ++ m ++ [']', ']']).length - 2) = "![CDATA[".toList ++ m :=
    List.take_left' (by simp only [List.length_append, List.length_cons, List.length_nil]; omega)
  simp only [nextMarkup, hrest, nextBang, hsplit, htake]
  rfl

/-- A section of character data ends at the first mark that ends such sections. -/
theorem AtMarkup.cdata
    (h : r.AtMarkup ('<' :: "![CDATA[".toList ++ m ++ [']', ']', '>'] ++ rest))
    (hm : ¬ [']', ']', '>'] <:+: m) : r.Yields (.cdata m) rest r.opened := by
  obtain ⟨t, offset, ht, hnext⟩ := h
  obtain ⟨start, hstart⟩ : ∃ start, start = ['C', 'D', 'A', 'T', 'A', '['] := ⟨_, rfl⟩
  have hmark : "![CDATA[".toList = '!' :: '[' :: start := by
    rw [hstart]
    rfl
  have hfree : ¬ [']', ']', '>'] <:+: '!' :: '[' :: start ++ m := by
    rw [hstart]
    simpa [List.infix_cons_iff] using hm
  have hsplit : splitAtClose endsCdata ['!'] ('[' :: (start ++ m ++ [']', ']']) ++ '>' :: rest) =
      some ("![CDATA[".toList ++ m ++ [']', ']'], rest) := by
    rw [hmark]
    refine splitAtClose_append ?_ (by simp [endsCdata]) rest
    intro a b hab
    rw [endsCdata, Bool.eq_false_iff]
    intro hends
    have hlast : [']', ']'] <:+ '!' :: a :=
      isSuffix_of_isPrefixOf_reverse (by simpa using hends)
    exact not_isSuffix_of_append (by decide) hfree (by simpa using hab) hlast
  obtain rfl : t = '!' :: ('[' :: (start ++ m ++ [']', ']']) ++ '>' :: rest) := by
    rw [hmark] at ht
    simpa using (List.cons.inj ht).2.symm
  exact ⟨_, hnext.trans (nextMarkup_cdata rfl hsplit)⟩

/-! ### Tags -/

/-- The quotes of the text are closed, and outside of them nothing closes a tag. -/
def Balanced (s : List Char) : Prop :=
  ∀ rest, splitTag none (s ++ rest) = (splitTag none rest).map fun r => (s ++ r.1, r.2)

theorem Balanced.append (hs : Balanced s) (ht : Balanced t) : Balanced (s ++ t) := by
  intro rest
  rw [List.append_assoc, hs, ht, Option.map_map]
  congr 1
  funext r
  simp

theorem balanced_nil : Balanced [] := by
  intro rest
  cases h : splitTag none rest <;> simp [h]

/-- Text without quotes and brackets is balanced. -/
theorem balanced_of_plain (h : ∀ c ∈ s, c ≠ '>' ∧ c ≠ '"' ∧ c ≠ '\'') : Balanced s := by
  induction s with
  | nil => exact balanced_nil
  | cons c s ih =>
    obtain ⟨⟨hclose, hquot, hapos⟩, hs⟩ := List.forall_mem_cons.1 h
    intro rest
    rw [List.cons_append, splitTag, if_neg hclose, if_neg (by simp [hquot, hapos]), ih hs,
      Option.map_map]
    rfl

theorem splitTag_quoted (h : '"' ∉ s) (rest : List Char) :
    splitTag (some '"') (s ++ '"' :: rest) =
      (splitTag none rest).map fun r => (s ++ '"' :: r.1, r.2) := by
  induction s with
  | nil => rw [List.nil_append, splitTag, if_pos rfl]; rfl
  | cons c s ih =>
    obtain ⟨hc, hs⟩ := not_or.1 fun h' => h (List.mem_cons.2 h')
    rw [List.cons_append, splitTag, if_neg (Ne.symm hc), ih hs, Option.map_map]
    rfl

/-- A quoted text is balanced. -/
theorem balanced_quoted (h : '"' ∉ s) : Balanced ('"' :: (s ++ ['"'])) := by
  intro rest
  rw [List.cons_append, List.append_assoc, splitTag, if_neg (by decide), if_pos (by decide),
    List.singleton_append, splitTag_quoted h, Option.map_map]
  congr 1
  funext r
  simp

theorem Balanced.splitTag_eq (h : Balanced s) (rest : List Char) :
    splitTag none (s ++ '>' :: rest) = some (s, rest) := by
  rw [h, splitTag, if_pos rfl]
  simp

/-- What a tag that starts an element holds between its brackets. -/
structure IsTagText (content : List Char) : Prop where
  balanced : Balanced content
  starts : ∃ c ∈ content.head?, c ≠ '!' ∧ c ≠ '/' ∧ c ≠ '?'

theorem nextMarkup_tag {c : Char} (hc : c ≠ '!' ∧ c ≠ '/' ∧ c ≠ '?') (hrest : r.rest = c :: s) :
    r.nextMarkup = some <$> r.nextTag (c :: s) := by
  obtain ⟨hbang, hslash, hquestion⟩ := hc
  rw [nextMarkup, hrest]
  split
  · rename_i heq
    cases heq
  · rename_i heq
    exact absurd (List.cons.inj heq).1 hbang
  · rename_i heq
    exact absurd (List.cons.inj heq).1 hslash
  · rename_i heq
    exact absurd (List.cons.inj heq).1 hquestion
  · rfl

theorem AtMarkup.nextTag (h : r.AtMarkup ('<' :: content ++ '>' :: rest))
    (hcontent : IsTagText content) : ∃ offset, r.next = some <$> Reader.nextTag
      { rest := content ++ '>' :: rest, offset, inMarkup := true, opened := r.opened }
      (content ++ '>' :: rest) := by
  obtain ⟨t, offset, ht, hnext⟩ := h
  obtain rfl : t = content ++ '>' :: rest := (List.cons.inj ht).2.symm
  obtain ⟨-, c, hc, hne⟩ := hcontent
  cases content with
  | nil => cases hc
  | cons d content =>
    cases hc
    exact ⟨offset, hnext.trans (nextMarkup_tag hne rfl)⟩

theorem AtMarkup.start (h : r.AtMarkup ('<' :: content ++ '>' :: rest))
    (hcontent : IsTagText content) (hlast : content.getLast? ≠ some '/') :
    r.Yields (.start (Tag.ofContent content)) rest ((Tag.ofContent content).name :: r.opened) := by
  obtain ⟨offset, hnext⟩ := h.nextTag hcontent
  rw [Reader.nextTag, hcontent.balanced.splitTag_eq] at hnext
  simp only [if_neg hlast] at hnext
  exact ⟨_, hnext⟩

theorem AtMarkup.empty (h : r.AtMarkup ('<' :: content ++ '/' :: '>' :: rest))
    (hcontent : IsTagText content) : r.Yields (.empty (Tag.ofContent content)) rest r.opened := by
  have hslash : IsTagText (content ++ ['/']) := by
    refine ⟨hcontent.balanced.append (balanced_of_plain (by simp)), ?_⟩
    obtain ⟨c, hc, hne⟩ := hcontent.starts
    exact ⟨c, by rw [List.head?_append, Option.mem_def.1 hc]; rfl, hne⟩
  obtain ⟨offset, hnext⟩ := AtMarkup.nextTag (by simpa using h) hslash
  rw [Reader.nextTag, hslash.balanced.splitTag_eq] at hnext
  simp only [List.getLast?_concat, List.dropLast_concat] at hnext
  exact ⟨_, hnext⟩

theorem AtMarkup.close (h : r.AtMarkup ('<' :: '/' :: name ++ '>' :: rest))
    (hopened : r.opened = name :: outer) (hname : '>' ∉ name)
    (hend : ∀ c ∈ name.getLast?, isSpace c = false) : r.Yields (.close name) rest outer := by
  obtain ⟨t, offset, ht, hnext⟩ := h
  obtain rfl : t = '/' :: (name ++ '>' :: rest) := (List.cons.inj ht).2.symm
  have hsplit : untilClose ('/' :: (name ++ '>' :: rest)) =
      ('/' :: name, rest, Text.byteCount ('/' :: name) + 1) :=
    untilClose_append (s := '/' :: name) (by simp [hname]) rest
  have hstrip : (name.reverse.dropWhile isSpace).reverse = name := by
    refine List.rdropWhile_eq_self_iff.2 fun hne => ?_
    simp [hend _ (List.getLast?_eq_some_getLast hne)]
  have hname : endName name = name := by
    rw [endName, hstrip]
    exact ite_self name
  rw [nextMarkup, hopened] at hnext
  simp only [nextEnd, hsplit, List.drop_one, List.tail_cons, hname] at hnext
  exact ⟨_, hnext⟩

end Reader

/-! ### What the tree gets of character data -/

theorem Element.appendText_nil (e : Element) : e.appendText [] = e := by
  cases e
  simp [appendText]

theorem Element.appendText_append (e : Element) (s t : List Char) :
    (e.appendText s).appendText t = e.appendText (s ++ t) := by
  simp [appendText, String.append_assoc]

namespace TreeBuilder

variable {b b' : TreeBuilder} {top : Element} {inner : List Element}

/-- Character data goes into the element that was opened last. -/
theorem addAll_dataEvents (hopened : b.opened = top :: inner)
    (h : unescape (strip d) = .ok content) :
    b.addAll (dataEvents d) = .ok { b with opened := top.appendText content :: inner } := by
  unfold dataEvents
  split
  · rename_i hempty
    rw [hempty] at h
    cases h
    rw [Element.appendText_nil, ← hopened]
    rfl
  · rw [addAll_singleton, add, addText, hopened, h]

end TreeBuilder

end MapServices.Xml
