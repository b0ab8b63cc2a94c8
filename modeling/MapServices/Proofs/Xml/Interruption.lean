import MapServices.Proofs.Xml.Differs
import MapServices.Proofs.Xml.Entity
import MapServices.Proofs.Xml.Local
import MapServices.Proofs.Xml.RoundTrip

/-!
# Comments and sections inside of character data

A comment in the middle of character data, or a part of it that is written as a section, makes two
runs of character data out of one. The reader cuts white space off the ends of each run, so white
space next to the interruption is lost, and white space at the ends of a section is kept. Nothing
else changes.

* `StartsData.exchange`: what the reader does up to the character data does not depend on it.
* `Element.exists_interrupted`: the tree of a document with an interruption.
-/

namespace MapServices.Xml

variable {s t u v m mark before after rest : List Char} {opened : List (List Char)}
  {es : List Event}

/-! ### Positions in a document -/

/-- Character data of an element begins in the document where `rest` does. -/
def StartsData (before rest : List Char) : Prop :=
  ∃ es r, (Reader.ofChars (before ++ rest)).Reads es r ∧ r.inMarkup = false ∧ r.opened ≠ [] ∧
    r.rest = rest

namespace Reader

variable {r r' : Reader}

theorem Reads.length_le (h : r.Reads es r') : r'.rest.length + es.length ≤ r.rest.length := by
  induction h with
  | nil => exact Nat.le_refl _
  | cons hnext _ ih =>
    have hlt := next_length_lt hnext
    simp only [List.length_cons]
    omega

theorem length_ofChars_le (s : List Char) : (ofChars s).rest.length ≤ s.length := by
  cases s with
  | nil => exact Nat.le_refl _
  | cons c s =>
    rw [ofChars]
    split
    · exact Nat.le_succ _
    · exact Nat.le_refl _

/-- A byte order mark is not left to read, whatever follows in the document. -/
theorem ofChars_append {piece : List Char} (hpiece : piece ≠ [])
    (h : (ofChars (s ++ rest)).rest = piece ++ rest) (tail : List Char) :
    ofChars (s ++ tail) = { rest := piece ++ tail } := by
  cases s with
  | nil =>
    have hle := length_ofChars_le ([] ++ rest)
    rw [h, List.length_append, List.nil_append] at hle
    exact absurd (List.length_eq_zero_iff.1 (by omega)) hpiece
  | cons c s =>
    rw [List.cons_append, ofChars] at h ⊢
    split at h
    · rename_i hc
      rw [if_pos hc, List.append_cancel_right h]
    · rename_i hc
      have hpiece : c :: s = piece := List.append_cancel_right h
      rw [if_neg hc, ← hpiece, List.cons_append]

end Reader

/-- What the reader does up to the character data does not depend on what is there. -/
theorem StartsData.exchange (h : StartsData before rest) (hrest : rest ≠ []) :
    ∃ es opened, opened ≠ [] ∧ ∀ tail, ∃ r, (Reader.ofChars (before ++ tail)).Reads es r ∧
      r.inMarkup = false ∧ r.opened = opened ∧ r.rest = tail := by
  obtain ⟨es, r, hreads, hmarkup, hopened, hr⟩ := h
  obtain ⟨piece, hpiece, hlocal⟩ := hreads.local (hr ▸ hrest)
  have hne : piece ≠ [] := by
    rintro rfl
    have hlength := hreads.length_le
    rw [hpiece, List.nil_append] at hlength
    obtain rfl : es = [] := List.length_eq_zero_iff.1 (by omega)
    cases hreads
    refine hopened ?_
    cases before ++ rest <;> rfl
  rw [hr] at hpiece
  have hstart := Reader.ofChars_append hne hpiece
  refine ⟨es, r.opened, hopened, fun tail => ?_⟩
  obtain ⟨offset, hreads⟩ := hlocal 0 tail
  refine ⟨{ r with rest := tail, offset }, ?_, hmarkup, rfl, rfl⟩
  rw [hstart rest] at hreads
  rw [hstart tail]
  exact hreads

/-! ### Interruptions -/

/-- A run of character data, maybe empty, and what may stand in its place: a comment for nothing, or
a section for plain characters. -/
inductive Interrupts : List Char → List Char → Prop where
  | comment {c : List Char} (hc : ¬ ['-', '-', '>'] <:+: c) :
    Interrupts [] (['<', '!', '-', '-'] ++ c ++ ['-', '-', '>'])
  | cdata {m : List Char} (hamp : '&' ∉ m) (hm : ¬ [']', ']', '>'] <:+: m) :
    Interrupts m ('<' :: "![CDATA[".toList ++ m ++ [']', ']', '>'])

theorem Interrupts.not_mem (h : Interrupts m mark) : '&' ∉ m := by
  cases h with
  | comment => exact List.not_mem_nil
  | cdata hamp _ => exact hamp

/-- An interruption is one event, and puts the plain characters into the innermost open element. -/
theorem Interrupts.exists_event (h : Interrupts m mark) : ∃ e s, mark = '<' :: s ∧
    (∀ {r : Reader} {rest}, r.AtMarkup (mark ++ rest) → r.Yields e rest r.opened) ∧
    ∀ {b : TreeBuilder} {top outer}, b.opened = top :: outer →
      b.add e = .ok { b with opened := top.appendText m :: outer } := by
  cases h with
  | comment hc =>
    refine ⟨.comment, _, rfl, fun hr => hr.comment hc, fun {b top outer} hopened => ?_⟩
    rw [Element.appendText_nil, ← hopened]
    rfl
  | cdata hamp hm =>
    refine ⟨.cdata m, _, rfl, fun hr => hr.cdata hm, fun {b top outer} hopened => ?_⟩
    rw [TreeBuilder.add, TreeBuilder.addText, hopened]

/-! ### White space around character data -/

/-- The characters of a text but for white space of markup. -/
def inked (s : List Char) : List Char := s.filter (!isSpace ·)

theorem inked_append (s t : List Char) : inked (s ++ t) = inked s ++ inked t :=
  List.filter_append ..

theorem inked_eq_nil (h : ∀ c ∈ s, isSpace c) : inked s = [] :=
  List.filter_eq_nil_iff.2 fun c hc => by simp [h c hc]

theorem not_mem_of_isSpace (h : ∀ c ∈ s, isSpace c) : '&' ∉ s ∧ ';' ∉ s :=
  ⟨fun hmem => absurd (h _ hmem) (by decide), fun hmem => absurd (h _ hmem) (by decide)⟩

/-- White space around character data says nothing but itself. -/
theorem exists_unescape_strip {r : List Char} (h : unescape s = .ok r) :
    ∃ r', unescape (strip s) = .ok r' ∧ inked r' = inked r := by
  obtain ⟨lead, trail, hlead, htrail, hs⟩ := exists_strip s
  have hclosed := (unescape_eq_ok.1 h).not_endsOpen
  rw [hs, List.append_assoc] at h
  obtain ⟨lead', rest, hlead', hrest, rfl⟩ :=
    exists_of_unescape_append h (not_endsOpen_of_not_mem (not_mem_of_isSpace hlead).1)
  have hopen : ¬ EndsOpen (strip s) := fun hopen => hclosed (by
    rw [hs]
    exact (hopen.append_left lead).append_right (not_mem_of_isSpace htrail).2)
  obtain ⟨r', trail', hr', htrail', rfl⟩ := exists_of_unescape_append hrest hopen
  obtain rfl := Except.ok.inj (hlead'.symm.trans (unescape_eq_self (not_mem_of_isSpace hlead).1))
  obtain rfl := Except.ok.inj (htrail'.symm.trans (unescape_eq_self (not_mem_of_isSpace htrail).1))
  refine ⟨r', hr', ?_⟩
  rw [inked_append, inked_append, inked_eq_nil hlead, inked_eq_nil htrail, List.append_nil,
    List.nil_append]

theorem exists_unescape_of_strip {r' : List Char} (h : unescape (strip s) = .ok r') :
    ∃ r, unescape s = .ok r ∧ inked r = inked r' := by
  obtain ⟨lead, trail, hlead, htrail, hs⟩ := exists_strip s
  refine ⟨lead ++ r' ++ trail, ?_, ?_⟩
  · rw [hs]
    exact unescape_append (unescape_append (unescape_eq_self (not_mem_of_isSpace hlead).1) h)
      (unescape_eq_self (not_mem_of_isSpace htrail).1)
  · rw [inked_append, inked_append, inked_eq_nil hlead, inked_eq_nil htrail, List.append_nil,
      List.nil_append]

/-- What two runs of character data with plain characters between them say, if all of it together
says something and is cut behind a closed reference. -/
theorem exists_unescape_parts {whole : List Char} (h : unescape (strip (u ++ m ++ v)) = .ok whole)
    (hu : ¬ EndsOpen u) (hm : '&' ∉ m) : ∃ first last, unescape (strip u) = .ok first ∧
      unescape (strip v) = .ok last ∧ inked whole = inked (first ++ m ++ last) := by
  obtain ⟨r, hr, hinked⟩ := exists_unescape_of_strip h
  rw [List.append_assoc] at hr
  obtain ⟨ru, rest, hru, hrest, rfl⟩ := exists_of_unescape_append hr hu
  obtain ⟨rm, rv, hrm, hrv, rfl⟩ := exists_of_unescape_append hrest (not_endsOpen_of_not_mem hm)
  obtain rfl := Except.ok.inj (hrm.symm.trans (unescape_eq_self hm))
  obtain ⟨first, hfirst, hinkedFirst⟩ := exists_unescape_strip hru
  obtain ⟨last, hlast, hinkedLast⟩ := exists_unescape_strip hrv
  refine ⟨first, last, hfirst, hlast, ?_⟩
  rw [← hinked, inked_append, inked_append, inked_append, inked_append, hinkedFirst, hinkedLast,
    List.append_assoc]

/-- White space stands neither next to an interruption nor at the end of one that nothing else is
next to. -/
structure CleanSeams (u m v : List Char) : Prop where
  before : ∀ c ∈ u.getLast?, isSpace c = false
  after : ∀ c ∈ v.head?, isSpace c = false
  start : u = [] → ∀ c ∈ m.head?, isSpace c = false
  stop : v = [] → ∀ c ∈ m.getLast?, isSpace c = false

theorem dropWhile_append_clean {p : Char → Bool} (hs : ∀ c ∈ s.getLast?, p c = false)
    (ht : s = [] → ∀ c ∈ t.head?, p c = false) :
    (s ++ t).dropWhile p = s.dropWhile p ++ t := by
  rw [List.dropWhile_append]
  split
  · rename_i hempty
    rw [List.isEmpty_iff] at hempty
    have hnil : s = [] := by
      rcases List.eq_nil_or_concat s with hnil | ⟨s, c, rfl⟩
      · exact hnil
      · rw [List.concat_eq_append, List.dropWhile_eq_nil_iff] at hempty
        rw [List.concat_eq_append] at hs
        have hc := hs c (List.getLast?_concat ..)
        rw [hempty c (by simp)] at hc
        cases hc
    rw [hempty, List.nil_append]
    cases t with
    | nil => rfl
    | cons c t => exact List.dropWhile_cons_of_neg (by simp [ht hnil c rfl])
  · rfl

theorem rdropWhile_append_clean {p : Char → Bool} (ht : ∀ c ∈ t.head?, p c = false)
    (hs : t = [] → ∀ c ∈ s.getLast?, p c = false) :
    (s ++ t).rdropWhile p = s ++ t.rdropWhile p := by
  rw [List.rdropWhile, List.reverse_append, dropWhile_append_clean, List.reverse_append,
    List.reverse_reverse]
  · rfl
  · rwa [List.getLast?_reverse]
  · intro h
    rw [List.head?_reverse]
    exact hs (List.reverse_eq_nil_iff.1 h)

/-- Where the seams are clean, the parts are cut off as the whole is. -/
theorem CleanSeams.strip_eq (h : CleanSeams u m v) :
    strip (u ++ m ++ v) = strip u ++ m ++ strip v := by
  have hlast : ∀ c ∈ (u.dropWhile isSpace).getLast?, isSpace c = false := by
    intro c hc
    obtain ⟨t, ht⟩ := List.dropWhile_suffix (l := u) isSpace
    refine h.before c ?_
    rw [← ht, List.getLast?_append, hc]
    rfl
  have hu : strip u = u.dropWhile isSpace := by
    simpa [strip] using rdropWhile_append_clean (t := []) (by simp) fun _ => hlast
  have hv : strip v = v.rdropWhile isSpace := by
    have hdrop : v.dropWhile isSpace = v := by
      simpa using dropWhile_append_clean (s := []) (by simp) fun _ => h.after
    rw [strip, hdrop]
  have hstart : u = [] → ∀ c ∈ (m ++ v).head?, isSpace c = false := by
    intro hnil c hc
    cases m with
    | nil => exact h.after c hc
    | cons d m => exact h.start hnil c hc
  have hstop : v = [] → ∀ c ∈ (u.dropWhile isSpace ++ m).getLast?, isSpace c = false := by
    intro hnil c hc
    rcases List.eq_nil_or_concat m with rfl | ⟨m, d, rfl⟩
    · exact hlast c (by simpa using hc)
    · rw [List.concat_eq_append, ← List.append_assoc, List.getLast?_concat] at hc
      exact h.stop hnil c (by rw [List.concat_eq_append, List.getLast?_concat]; exact hc)
  rw [hu, hv, strip, List.append_assoc, dropWhile_append_clean h.before hstart, ← List.append_assoc,
    rdropWhile_append_clean h.after hstop]

/-! ### The tree -/

namespace TreeBuilder

variable {b b' : TreeBuilder} {e : Event}

theorem length_attach {child : Element} (h : b.attach child = .ok b') :
    b'.opened.length = b.opened.length := by
  unfold attach at h
  split at h <;> cases h
  all_goals simp [*]

theorem length_addText (content : Except EntityError (List Char))
    (h : b.addText content = .ok b') : b'.opened.length = b.opened.length := by
  unfold addText at h
  split at h
  · cases h
    rfl
  · split at h <;> cases h
    simp [*]

/-- As many elements are open in the tree as the reader has open. -/
theorem length_add {opened' : List (List Char)} (h : b.add e = .ok b')
    (hopened : e.openedAfter? opened = some opened') (hlength : b.opened.length = opened.length) :
    b'.opened.length = opened'.length := by
  cases e with
  | start tag =>
    obtain ⟨top, -, h⟩ := Failure.bind_eq_ok.1 h
    cases h
    cases hopened
    exact congrArg Nat.succ hlength
  | empty tag =>
    obtain ⟨child, -, h⟩ := Failure.bind_eq_ok.1 h
    cases hopened
    exact (length_attach h).trans hlength
  | close name =>
    cases opened with
    | nil => cases hopened
    | cons innermost outer =>
      obtain ⟨_ | ⟨top, inner⟩, root?⟩ := b
      · cases h
      · rw [Event.openedAfter?] at hopened
        split at hopened
        · cases hopened
          exact (length_attach h).trans (Nat.succ.inj hlength)
        · cases hopened
  | text raw =>
    cases hopened
    exact (length_addText (unescape raw) h).trans hlength
  | cdata content =>
    cases hopened
    exact (length_addText (.ok content) h).trans hlength
  | comment | declaration _ | instruction | doctype =>
    cases h
    cases hopened
    exact hlength

theorem length_addAll {r r' : Reader} (hreads : r.Reads es r') (h : b.addAll es = .ok b')
    (hlength : b.opened.length = r.opened.length) : b'.opened.length = r'.opened.length := by
  induction hreads generalizing b with
  | nil =>
    cases h
    exact hlength
  | cons hnext _ ih =>
    rw [addAll, List.foldlM_cons] at h
    obtain ⟨b₁, hadd, h⟩ := Failure.bind_eq_ok.1 h
    exact ih h (length_add hadd (Reader.advances_next hnext).opened hlength)

/-- What character data says has been put into the innermost open element. -/
theorem exists_of_addAll_dataEvents {d : List Char} {top : Element} {outer : List Element}
    (hopened : b.opened = top :: outer) (h : b.addAll (dataEvents d) = .ok b') :
    ∃ content, unescape (strip d) = .ok content ∧
      b' = { b with opened := top.appendText content :: outer } := by
  unfold dataEvents at h
  split at h
  · rename_i hempty
    cases h
    refine ⟨[], by rw [hempty]; rfl, ?_⟩
    rw [Element.appendText_nil, ← hopened]
  · simp only [addAll_singleton, add, addText, hopened] at h
    split at h
    · rename_i hcontent
      cases h
      exact ⟨_, hcontent, rfl⟩
    · cases h

/-- What follows character data is put into the same elements, which differ by their texts only. -/
theorem replaces_appendText (b : TreeBuilder) (top : Element) (outer : List Element)
    (w z : List Char) : Replaces w z { b with opened := top.appendText w :: outer }
      { b with opened := top.appendText z :: outer } := by
  refine .opened [] outer b.root? ⟨top.text.toList, [], ?_⟩
  obtain ⟨name, attributes, text, children⟩ := top
  have hhere := DiffersAt.here (x := text.toList ++ w ++ []) (y := text.toList ++ z ++ []) name
    attributes children
  simpa [Element.appendText] using hhere

end TreeBuilder

namespace Reader

variable {r : Reader}

/-- From markup on, it does not matter how the reader came to it. -/
theorem AtMarkup.readAll_eq (h : r.AtMarkup ('<' :: s)) : ∃ offset, r.readAll =
    readAll { rest := s, offset, inMarkup := true, opened := r.opened } := by
  obtain ⟨t, offset, ht, hnext⟩ := h
  obtain rfl : s = t := (List.cons.inj ht).2
  refine ⟨offset, ?_⟩
  rw [readAll, readAll, hnext, next, if_pos rfl]

end Reader

namespace Element

/-- What stands behind the markup that the reader has come to is put into the tree that it has got
so far. -/
theorem exists_ofChars_eq_ok_iff {r : Reader} (hreads : (Reader.ofChars s).Reads es r)
    (hat : r.AtMarkup ('<' :: after)) : ∃ offset left,
      left = Reader.readAll { rest := after, offset, inMarkup := true, opened := r.opened } ∧
      ∀ e, ofChars s = .ok e ↔ ∃ b c, TreeBuilder.addAll {} es = .ok b ∧
        b.addAll left.events = .ok c ∧ left.failure? = none ∧ c.finish = .ok e := by
  obtain ⟨offset, hreadAll⟩ := hat.readAll_eq
  refine ⟨offset, _, rfl, fun e => ?_⟩
  rw [ofChars, Reading.ofChars, hreads.readAll_eq, hreadAll, ofReading]
  generalize Reader.readAll { rest := after, offset, inMarkup := true, opened := r.opened } = left
  constructor
  · intro h
    obtain ⟨c, hc, h⟩ := Failure.bind_eq_ok.1 h
    obtain ⟨b, hb, hc⟩ := TreeBuilder.exists_of_addAll_append hc
    split at h
    · cases h
    · rename_i hfailure
      exact ⟨b, c, hb, hc, hfailure, h⟩
  · rintro ⟨b, c, hb, hc, hfailure, h⟩
    refine Failure.bind_eq_ok.2 ⟨c, (TreeBuilder.addAll_append_of_eq hb _).trans hc, ?_⟩
    simp only [hfailure, h]

/-- The events of character data with an interruption. -/
theorem exists_reads_interrupted {r : Reader} (hmark : Interrupts m mark) (hu : '<' ∉ u)
    (hv : '<' ∉ v) (hmarkup : r.inMarkup = false)
    (hrest : r.rest = u ++ mark ++ v ++ '<' :: after) :
    ∃ es r', r.Reads es r' ∧ r'.AtMarkup ('<' :: after) ∧ r'.opened = r.opened ∧
      ∀ {b : TreeBuilder} {top outer first last}, b.opened = top :: outer →
        unescape (strip u) = .ok first → unescape (strip v) = .ok last →
        b.addAll es = .ok { b with opened := top.appendText (first ++ m ++ last) :: outer } := by
  obtain ⟨event, s, rfl, hyields, hadd⟩ := hmark.exists_event
  obtain ⟨r₁, hreads₁, hat, hopened₁⟩ := Reader.exists_reads_data (s := s ++ (v ++ '<' :: after))
    hmarkup hu (by rw [hrest]; simp)
  obtain ⟨offset, hnext⟩ := hyields hat
  obtain ⟨r₂, hreads₂, hat₂, hopened₂⟩ := Reader.exists_reads_data
    (r := { rest := v ++ '<' :: after, offset, opened := r₁.opened }) rfl hv rfl
  refine ⟨dataEvents u ++ event :: dataEvents v, r₂, hreads₁.append (.cons hnext hreads₂), hat₂,
    hopened₂.trans hopened₁, fun {b top outer first last} hopened hfirst hlast => ?_⟩
  rw [TreeBuilder.addAll_append_of_eq (TreeBuilder.addAll_dataEvents hopened hfirst),
    TreeBuilder.addAll_cons_of_eq (hadd rfl), TreeBuilder.addAll_dataEvents rfl hlast,
    appendText_append, appendText_append, List.append_assoc]

/-- The tree of a document with an interruption in its character data, and that of the document
without it. -/
structure Interrupted (u m v : List Char) (e e' : Element) : Prop where
  /-- The run of character data is cut off as a whole, or in parts. That decides on one text, and
  on white space in it only. -/
  differs : ∃ front whole first last back, unescape (strip (u ++ m ++ v)) = .ok whole ∧
    unescape (strip u) = .ok first ∧ unescape (strip v) = .ok last ∧
    inked whole = inked (first ++ m ++ last) ∧
    DiffersAt (front ++ whole ++ back) (front ++ (first ++ m ++ last) ++ back) e e' ∧
    (e.trimmed = e'.trimmed ↔
      Text.trim (front ++ whole ++ back) = Text.trim (front ++ (first ++ m ++ last) ++ back))
  /-- The trees are the same if there is no white space at the seams. -/
  same : CleanSeams u m v → e' = e

/-- A document with a comment inside of character data, or with a section in place of a part of it,
is accepted as the document without it is. Of the tree, nothing but white space of one text can
change. -/
theorem exists_interrupted {e : Element} (hstart : StartsData before (u ++ m ++ v ++ '<' :: after))
    (hdata : '<' ∉ u ++ m ++ v) (hcut : ¬ EndsOpen u) (hmark : Interrupts m mark)
    (hok : ofChars (before ++ (u ++ m ++ v ++ '<' :: after)) = .ok e) :
    ∃ e', ofChars (before ++ (u ++ mark ++ v ++ '<' :: after)) = .ok e' ∧
      Interrupted u m v e e' := by
  obtain ⟨es, opened, hne, hstart⟩ := hstart.exchange (by simp)
  -- the document without the interruption
  obtain ⟨r, hreads, hmarkup, hr, hrest⟩ := hstart (u ++ m ++ v ++ '<' :: after)
  obtain ⟨r', hreads', hat, hr'⟩ := Reader.exists_reads_data hmarkup hdata hrest
  obtain ⟨offset, left, hleft, hiff⟩ := exists_ofChars_eq_ok_iff (hreads.append hreads') hat
  obtain ⟨b₁, c, hb₁, hc, hfailure, hfinish⟩ := (hiff e).1 hok
  obtain ⟨b, hb, hb₁⟩ := TreeBuilder.exists_of_addAll_append hb₁
  obtain ⟨top, outer, htop⟩ : ∃ top outer, b.opened = top :: outer := by
    have hlength := TreeBuilder.length_addAll hreads hb (by cases before ++ _ <;> rfl)
    refine List.exists_cons_of_ne_nil fun hnil => hne (List.length_eq_zero_iff.1 ?_)
    rw [← hr, ← hlength, hnil]
    rfl
  obtain ⟨whole, hwhole, rfl⟩ := TreeBuilder.exists_of_addAll_dataEvents htop hb₁
  obtain ⟨first, last, hfirst, hlast, hinked⟩ := exists_unescape_parts hwhole hcut hmark.not_mem
  -- the document with it, which goes on in the same way
  obtain ⟨q, hreads, hmarkup, hq, hrest⟩ := hstart (u ++ mark ++ v ++ '<' :: after)
  simp only [List.mem_append, not_or] at hdata
  obtain ⟨es', q', hreads', hat, hq', hadd⟩ :=
    exists_reads_interrupted hmark hdata.1.1 hdata.2 hmarkup hrest
  obtain ⟨offset', left', hleft', hiff'⟩ := exists_ofChars_eq_ok_iff (hreads.append hreads') hat
  obtain rfl : left' = left := by
    rw [hleft', hq', hq, ← hr, ← hr', hleft]
    exact Reader.readAll_moved (hleft ▸ hfailure) offset'
  obtain ⟨c', hc', hreplaces⟩ :=
    (TreeBuilder.replaces_appendText b top outer whole (first ++ m ++ last)).addAll hc
  obtain ⟨e', hfinish', front, back, hdiffers⟩ := hreplaces.finish hfinish
  have hbefore := (TreeBuilder.addAll_append_of_eq hb es').trans (hadd htop hfirst hlast)
  refine ⟨e', (hiff' e').2 ⟨_, c', hbefore, hc', hfailure, hfinish'⟩,
    ⟨front, whole, first, last, back, hwhole, hfirst, hlast, hinked, hdiffers,
      hdiffers.trimmed_eq_iff⟩, fun hclean => ?_⟩
  have hparts := unescape_append (unescape_append hfirst (unescape_eq_self hmark.not_mem)) hlast
  rw [← hclean.strip_eq, hwhole] at hparts
  rw [Except.ok.inj hparts] at hdiffers
  exact hdiffers.eq.symm

/-- The white space between two words is lost where a comment stands behind it. -/
theorem exists_interrupted_words :
    ofString "<CRS>EPSG:4326 EPSG:3857</CRS>" =
      .ok { name := "CRS", text := "EPSG:4326 EPSG:3857" } ∧
    ofString "<CRS>EPSG:4326 <!-- web -->EPSG:3857</CRS>" =
      .ok { name := "CRS", text := "EPSG:4326EPSG:3857" } := by
  have hplain : IsPlain { name := "CRS", text := "EPSG:4326 EPSG:3857" } :=
    .leaf (by decide +kernel) (by decide +kernel) (by decide +kernel)
  have hspells : Spells { name := "CRS", text := "EPSG:4326 EPSG:3857" } _ :=
    .content .bare .nil .nil
  have hok := ofChars_of_spells hplain hspells
  have hstart : StartsData "<CRS>".toList
      ("EPSG:4326 ".toList ++ [] ++ "EPSG:3857".toList ++ '<' :: "/CRS>".toList) :=
    ⟨[.start ⟨"CRS".toList, []⟩], { rest := _, offset := 5, opened := ["CRS".toList] },
      .cons (by rfl) (.nil _), rfl, List.cons_ne_nil _ _, rfl⟩
  obtain ⟨e', hok', ⟨front, whole, first, last, back, hwhole, hfirst, hlast, -, hdiffers, -⟩, -⟩ :=
    exists_interrupted hstart (by decide +kernel) (not_endsOpen_of_not_mem (by decide +kernel))
      (.comment (c := " web ".toList) (by decide +kernel)) hok
  obtain rfl : whole = "EPSG:4326 EPSG:3857".toList := Except.ok.inj hwhole.symm
  obtain rfl : first = "EPSG:4326".toList := Except.ok.inj hfirst.symm
  obtain rfl : last = "EPSG:3857".toList := Except.ok.inj hlast.symm
  -- the text of the first tree leaves no place for anything around the run
  obtain ⟨hfront, rfl⟩ := DiffersAt.of_leaf (z := "EPSG:4326 EPSG:3857".toList) hdiffers
  have hlength := congrArg List.length hfront
  simp only [List.length_append] at hlength
  obtain rfl : front = [] := List.length_eq_zero_iff.1 (by omega)
  obtain rfl : back = [] := List.length_eq_zero_iff.1 (by omega)
  exact ⟨hok, hok'⟩

end Element

end MapServices.Xml
