import MapServices.Xml.Event

/-!
# How a document is read

The reader goes forward, keeps count of the elements that are open, and reports a fault at a place
where it has been already or that it has just reached.

* `Reader.advances_next`: what one event does to the reader.
* `Reader.Reads` says that events lead from one state of the reader to another one.
* `Reader.exists_atRoot`: the first tag of a document is read when no element is open.
* `Reader.isInfix_close_of_tag`: an instruction before the first tag has an end.
-/

namespace MapServices.Xml

namespace Event

/-- The elements that are open after an event, innermost first. An end tag must name the innermost
one. -/
def openedAfter? (opened : List (List Char)) : Event → Option (List (List Char))
  | .start tag => some (tag.name :: opened)
  | .close name =>
    match opened with
    | [] => none
    | innermost :: outer => if name = innermost then some outer else none
  | _ => some opened

/-- The tag of an event that starts an element. -/
def tag? : Event → Option Tag
  | .start tag => some tag
  | .empty tag => some tag
  | _ => none

end Event

namespace Reader

variable {r r' : Reader} {e : Event} {f : Failure} {s : List Char}

/-- The reader has not gone back, and has the right elements open. -/
structure Advances (r : Reader) (e : Event) (r' : Reader) : Prop where
  offset_le : r.offset ≤ r'.offset
  opened : e.openedAfter? r.opened = some r'.opened

theorem advances_nextBang (h : r.nextBang s = .ok (e, r')) : r.Advances e r' := by
  unfold nextBang at h
  split at h
  · cases h
  · simp only at h
    -- a comment, a section of character data or a document type declaration
    repeat' split at h
    all_goals cases h
    all_goals
      rename_i hevent
      refine ⟨by simp only; omega, ?_⟩
      repeat' split at hevent
      all_goals cases hevent <;> rfl

theorem advances_nextEnd (h : r.nextEnd s = .ok (e, r')) : r.Advances e r' := by
  unfold nextEnd at h
  simp only at h
  split at h
  · cases h
  · rename_i innermost outer hopened
    split at h
    · rename_i hname
      cases h
      refine ⟨Nat.le_add_right _ _, ?_⟩
      rw [hopened, Event.openedAfter?]
      exact if_pos hname
    · cases h

theorem advances_nextQuestion (h : r.nextQuestion s = .ok (e, r')) : r.Advances e r' := by
  unfold nextQuestion at h
  simp only at h
  repeat' split at h
  all_goals
    cases h
    try exact ⟨Nat.le_add_right _ _, rfl⟩

theorem advances_nextTag (h : r.nextTag s = .ok (e, r')) : r.Advances e r' := by
  unfold nextTag at h
  split at h
  · cases h
  · simp only at h
    split at h
    all_goals
      cases h
      exact ⟨by simp only; omega, rfl⟩

theorem advances_nextMarkup (h : r.nextMarkup = .ok (some (e, r'))) : r.Advances e r' := by
  have hmap : ∀ {x : Except Failure (Event × Reader)}, some <$> x = .ok (some (e, r')) →
      x = .ok (e, r') := by
    intro x hx
    cases x <;> cases hx
    rfl
  unfold nextMarkup at h
  split at h
  · cases h
  · exact advances_nextBang (hmap h)
  · exact advances_nextEnd (hmap h)
  · exact advances_nextQuestion (hmap h)
  · exact advances_nextTag (hmap h)

theorem advances_next (h : r.next = .ok (some (e, r'))) : r.Advances e r' := by
  unfold next at h
  split at h
  · exact advances_nextMarkup h
  · simp only at h
    split at h
    · cases h
    · have hmarkup := advances_nextMarkup h
      exact ⟨by have := hmarkup.offset_le; simp only at this; omega, hmarkup.opened⟩
    · split at h
      all_goals
        cases h
        exact ⟨by simp only; omega, rfl⟩

/-! ### Faults -/

theorem offset_le_of_nextBang (h : r.nextBang s = .error f) : r.offset ≤ f.position := by
  unfold nextBang at h
  split at h
  · cases h
    exact Nat.le_refl _
  · simp only at h
    repeat' split at h
    all_goals cases h
    all_goals simp only
    all_goals omega

theorem byteCount_le_untilClose (s : List Char) :
    Text.byteCount (untilClose s).1 ≤ (untilClose s).2.2 := by
  unfold untilClose
  dsimp only
  split
  · exact Nat.le_refl _
  · exact Nat.le_add_right _ _

theorem offset_le_of_nextEnd (h : r.nextEnd s = .error f) : r.offset ≤ f.position := by
  have hsize := byteCount_le_untilClose s
  unfold nextEnd at h
  simp only at h
  repeat' split at h
  all_goals cases h
  all_goals exact Nat.le_sub_of_add_le (Nat.add_le_add_left hsize _)

theorem offset_le_of_nextQuestion (h : r.nextQuestion s = .error f) : r.offset ≤ f.position := by
  have hsize := byteCount_le_untilClose s
  unfold nextQuestion at h
  simp only at h
  repeat' split at h
  all_goals cases h
  exact Nat.le_sub_of_add_le (Nat.add_le_add_left hsize _)

theorem offset_le_of_nextTag (h : r.nextTag s = .error f) : r.offset ≤ f.position := by
  unfold nextTag at h
  split at h
  · cases h
    exact Nat.le_refl _
  · simp only at h
    split at h <;> cases h

theorem offset_le_of_nextMarkup (h : r.nextMarkup = .error f) : r.offset ≤ f.position := by
  have hmap : ∀ {x : Except Failure (Event × Reader)}, some <$> x = .error f → x = .error f := by
    intro x hx
    cases x <;> cases hx
    rfl
  unfold nextMarkup at h
  split at h
  · cases h
  · exact offset_le_of_nextBang (hmap h)
  · exact offset_le_of_nextEnd (hmap h)
  · exact offset_le_of_nextQuestion (hmap h)
  · exact offset_le_of_nextTag (hmap h)

/-- No fault is reported before the place that the reader has reached. -/
theorem offset_le_of_next (h : r.next = .error f) : r.offset ≤ f.position := by
  unfold next at h
  split at h
  · exact offset_le_of_nextMarkup h
  · simp only at h
    split at h
    · cases h
    · have hmarkup := offset_le_of_nextMarkup h
      simp only at hmarkup
      omega
    · split at h <;> cases h

theorem offset_le_of_readAll (h : r.readAll.failure? = some f) : r.offset ≤ f.position := by
  induction r using Reader.readAll.induct with
  | case1 r f' hnext =>
    rw [readAll, hnext] at h
    cases h
    exact offset_le_of_next hnext
  | case2 r hnext =>
    rw [readAll, hnext] at h
    cases h
  | case3 r e r' hnext ih =>
    rw [readAll, hnext] at h
    exact Nat.le_trans (advances_next hnext).offset_le (ih h)

/-! ### Up to the root -/

/-- The reader gives the events and is then in the other state. -/
inductive Reads : Reader → List Event → Reader → Prop where
  | nil (r : Reader) : Reads r [] r
  | cons {r r' r'' : Reader} {e : Event} {es : List Event} (hnext : r.next = .ok (some (e, r')))
      (hrest : Reads r' es r'') : Reads r (e :: es) r''

theorem Reads.readAll_eq {es : List Event} (h : Reads r es r') :
    r.readAll = ⟨es ++ r'.readAll.events, r'.readAll.failure?⟩ := by
  induction h with
  | nil r => rfl
  | cons hnext _ ih =>
    rw [readAll, hnext]
    simp only [ih, List.cons_append]

theorem Reads.append {r'' : Reader} {es es' : List Event} (h : r.Reads es r')
    (h' : r'.Reads es' r'') : r.Reads (es ++ es') r'' := by
  induction h with
  | nil => exact h'
  | cons hnext _ ih => exact .cons hnext (ih h')

/-- The first tag that the reader comes to: no element is open before it, and no event before it
starts an element or ends one. -/
structure AtRoot (r start : Reader) (e : Event) (tag : Tag) (inside : Reader) : Prop where
  reads : ∃ before, Reads r before start ∧ ∀ e ∈ before, e.openedAfter? [] = some [] ∧ e.tag? = none
  opened : start.opened = []
  next : start.next = .ok (some (e, inside))
  tag : e.tag? = some tag

theorem AtRoot.readAll_eq {start inside : Reader} {tag : Tag} (h : AtRoot r start e tag inside) :
    start.readAll = ⟨e :: inside.readAll.events, inside.readAll.failure?⟩ := by
  rw [readAll, h.next]

/-- The events of a document come to its first tag. -/
theorem exists_atRoot {tag : Tag} (hopened : r.opened = [])
    (h : r.readAll.events.findSome? Event.tag? = some tag) :
    ∃ start e inside, AtRoot r start e tag inside := by
  induction r using Reader.readAll.induct with
  | case1 r f hnext =>
    rw [readAll, hnext] at h
    cases h
  | case2 r hnext =>
    rw [readAll, hnext] at h
    cases h
  | case3 r e r' hnext ih =>
    rw [readAll, hnext, List.findSome?_cons] at h
    cases htag : e.tag? with
    | some first =>
      rw [htag] at h
      cases h
      exact ⟨r, e, r', ⟨[], .nil r, nofun⟩, hopened, hnext, htag⟩
    | none =>
      rw [htag] at h
      have hafter := (advances_next hnext).opened
      rw [hopened] at hafter
      have hstill : e.openedAfter? [] = some [] := by
        cases e with
        | start tag => cases htag
        | close name => cases hafter
        | _ => rfl
      have hopened' : r'.opened = [] := (Option.some.inj (hstill.symm.trans hafter)).symm
      obtain ⟨start, root, inside, ⟨before, hreads, hbefore⟩, hstart, hroot, hrootTag⟩ :=
        ih hopened' h
      refine ⟨start, root, inside, ⟨e :: before, .cons hnext hreads, ?_⟩, hstart, hroot, hrootTag⟩
      exact List.forall_mem_cons.2 ⟨⟨hstill, htag⟩, hbefore⟩

/-! ### Instructions -/

/-- An instruction starts no element. It ends with a question mark before a closing bracket, unless
the document ends first. -/
theorem closes_of_nextQuestion (h : r.nextQuestion s = .ok (e, r')) :
    e.tag? = none ∧ r'.inMarkup = false ∧ ("?>".toList <:+: s ∨ r'.rest = []) := by
  rcases hclose : untilClose s with ⟨content, rest, size⟩
  have hrest : content.getLast? = some '?' → "?>".toList <:+: s ∨ rest = [] := by
    intro hlast
    have hsplit := (List.takeWhile_append_dropWhile (p := (· ≠ '>')) (l := s)).symm
    have hhead := List.head?_dropWhile_not (· ≠ '>') s
    unfold untilClose at hclose
    cases hdrop : s.dropWhile (· ≠ '>') with
    | nil =>
      rw [hdrop] at hclose
      cases hclose
      exact .inr rfl
    | cons c after =>
      rw [hdrop] at hclose hsplit hhead
      obtain rfl : c = '>' := by simpa using hhead
      cases hclose
      obtain ⟨front, hfront⟩ := List.getLast?_eq_some_iff.1 hlast
      refine .inl ⟨front, rest, ?_⟩
      rw [hsplit, hfront]
      simp
  rw [nextQuestion, hclose] at h
  simp only at h
  split at h
  · rename_i hends
    rw [Bool.and_eq_true, decide_eq_true_eq, decide_eq_true_eq] at hends
    split at h <;> cases h <;> exact ⟨rfl, rfl, hrest hends.2⟩
  · cases h

/-- A document that starts with an instruction has the end of one, if it has a tag. -/
theorem isInfix_close_of_tag {tag : Tag} (hs : "<?".toList <+: s)
    (h : (Reading.ofChars s).events.findSome? Event.tag? = some tag) : "?>".toList <:+: s := by
  obtain ⟨t, rfl⟩ := hs
  obtain ⟨r, hr⟩ : ∃ r : Reader, (ofChars ("<?".toList ++ t)).next =
      some <$> r.nextQuestion ('?' :: t) := ⟨_, rfl⟩
  rw [Reading.ofChars, readAll, hr] at h
  cases hquestion : r.nextQuestion ('?' :: t) with
  | error f =>
    rw [hquestion] at h
    cases h
  | ok result =>
    obtain ⟨e, r'⟩ := result
    obtain ⟨htag, hmarkup, hclose | hrest⟩ := closes_of_nextQuestion hquestion
    · exact hclose.trans (List.suffix_cons '<' _).isInfix
    · -- nothing is left to be read
      have hend : r'.readAll = ⟨[], none⟩ := by
        rw [readAll, next, hmarkup, hrest]
        rfl
      rw [hquestion] at h
      simp only [Functor.map, Except.map, hend, List.findSome?_cons, htag] at h
      cases h

end Reader

end MapServices.Xml
