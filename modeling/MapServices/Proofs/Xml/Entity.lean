import MapServices.Proofs.Failure
import MapServices.Xml.Entity

/-!
# What a text with references says

The reader of references counts positions, and keeps what it has read of a reference. None of that
matters to what a text says: its characters stand for themselves, and its references for what they
name. So a text may be cut wherever no reference is open.

* `unescape_eq_ok`: the replaced text is what the text says.
* `unescape_append`, `exists_of_unescape_append`: the pieces of a text say by themselves what they
  say.
* `unescape_escape`: what is escaped is unescaped again.
-/

namespace MapServices.Xml

variable {s t s' r : List Char} {total offset start stop : Nat}

/-! ### Characters and references -/

/-- Characters stand for themselves, and references for what they name. -/
inductive Unescapes : List Char → List Char → Prop where
  | nil : Unescapes [] []
  | char {c : Char} {s r : List Char} (hc : c ≠ '&') (h : Unescapes s r) :
    Unescapes (c :: s) (c :: r)
  | reference {name s r : List Char} {d : Char} (hamp : '&' ∉ name) (hend : ';' ∉ name)
    (hd : ∀ start stop, resolveReference start stop name = .ok d) (h : Unescapes s r) :
    Unescapes ('&' :: (name ++ ';' :: s)) (d :: r)

theorem numericReference_congr {c : Char} {digits : List Char}
    (h : numericReference start stop digits = .ok c) (start' stop' : Nat) :
    numericReference start' stop' digits = .ok c := by
  unfold numericReference at h ⊢
  split at h
  all_goals
    obtain ⟨code, hcode, h⟩ := Failure.bind_eq_ok.1 h
    refine Failure.bind_eq_ok.2 ⟨code, hcode, ?_⟩
    dsimp only at h ⊢
    split at h
    · cases h
    · rename_i hzero
      rw [if_neg hzero]
      exact h

/-- Positions matter to faults only. -/
theorem resolveReference_congr {c : Char} {name : List Char}
    (h : resolveReference start stop name = .ok c) (start' stop' : Nat) :
    resolveReference start' stop' name = .ok c := by
  unfold resolveReference at h ⊢
  split at h
  · exact numericReference_congr h start' stop'
  · split at h
    · exact h
    · cases h

/-- What is left to read of a text whose reader is inside a reference, or not. -/
def pendingText : Option (Nat × List Char) → List Char
  | none => []
  | some (_, name) => '&' :: name.reverse

theorem unescapes_of_unescapeFrom {pending : Option (Nat × List Char)}
    (hpending : ∀ p ∈ pending, '&' ∉ p.2 ∧ ';' ∉ p.2)
    (h : unescapeFrom total offset pending s = .ok r) : Unescapes (pendingText pending ++ s) r := by
  induction s generalizing offset pending r with
  | nil =>
    cases pending with
    | some p => cases h
    | none =>
      cases h
      exact .nil
  | cons c s ih =>
    cases pending with
    | none =>
      rw [unescapeFrom] at h
      split at h
      · rename_i hc
        subst hc
        exact ih (by simp) h
      · rename_i hc
        obtain ⟨rest, hrest, h⟩ := Failure.bind_eq_ok.1 h
        cases h
        exact .char hc (ih (by simp) hrest)
    | some p =>
      obtain ⟨start, name⟩ := p
      obtain ⟨hamp, hend⟩ := hpending _ rfl
      rw [unescapeFrom] at h
      split at h
      · cases h
      · rename_i hc
        split at h
        · rename_i hc
          subst hc
          obtain ⟨d, hd, h⟩ := Failure.bind_eq_ok.1 h
          obtain ⟨rest, hrest, h⟩ := Failure.bind_eq_ok.1 h
          cases h
          exact .reference (by simpa using hamp) (by simpa using hend)
            (resolveReference_congr hd) (ih (by simp) hrest)
        · rename_i hc'
          have hlonger := ih (by simp [hamp, hend, Ne.symm hc, Ne.symm hc']) h
          simpa [pendingText] using hlonger

/-- The reader goes through a reference to its semicolon. -/
theorem exists_unescapeFrom_name {name : List Char} (hamp : '&' ∉ name) (hend : ';' ∉ name)
    (total offset start : Nat) (read s : List Char) :
    ∃ stop offset', unescapeFrom total offset (some (start, read)) (name ++ ';' :: s) = do
      let d ← resolveReference start stop (read.reverse ++ name)
      let rest ← unescapeFrom total offset' none s
      return d :: rest := by
  induction name generalizing offset read with
  | nil => exact ⟨offset, offset + ';'.utf8Size, by simp [unescapeFrom]⟩
  | cons c name ih =>
    obtain ⟨hc, hamp⟩ := not_or.1 fun h => hamp (List.mem_cons.2 h)
    obtain ⟨hc', hend⟩ := not_or.1 fun h => hend (List.mem_cons.2 h)
    obtain ⟨stop, offset', h⟩ := ih hamp hend (offset + c.utf8Size) (c :: read)
    refine ⟨stop, offset', ?_⟩
    rw [List.cons_append, unescapeFrom, if_neg (Ne.symm hc), if_neg (Ne.symm hc'), h]
    simp

theorem Unescapes.unescapeFrom (h : Unescapes s r) (total offset : Nat) :
    unescapeFrom total offset none s = .ok r := by
  induction h generalizing offset with
  | nil => rfl
  | char hc h ih =>
    rw [Xml.unescapeFrom, if_neg hc]
    exact Failure.bind_eq_ok.2 ⟨_, ih _, rfl⟩
  | @reference name s r d hamp hend hd h ih =>
    obtain ⟨stop, offset', hname⟩ :=
      exists_unescapeFrom_name hamp hend total (offset + '&'.utf8Size) offset [] s
    rw [Xml.unescapeFrom, if_pos rfl, hname]
    exact Failure.bind_eq_ok.2 ⟨d, hd _ _, Failure.bind_eq_ok.2 ⟨r, ih _, rfl⟩⟩

/-- The replaced text is what the text says. -/
theorem unescape_eq_ok : unescape s = .ok r ↔ Unescapes s r :=
  ⟨unescapes_of_unescapeFrom nofun, fun h => h.unescapeFrom _ _⟩

/-! ### Pieces -/

/-- A reference is open at the end of the text: an ampersand that no semicolon follows. -/
def EndsOpen (s : List Char) : Prop := ∃ before name, s = before ++ '&' :: name ∧ ';' ∉ name

theorem not_endsOpen_of_not_mem (h : '&' ∉ s) : ¬ EndsOpen s := by
  rintro ⟨before, name, rfl, -⟩
  exact h (by simp)

theorem EndsOpen.append_left (h : EndsOpen s) (before : List Char) : EndsOpen (before ++ s) := by
  obtain ⟨first, name, rfl, hname⟩ := h
  exact ⟨before ++ first, name, by simp, hname⟩

/-- Only a semicolon closes a reference. -/
theorem EndsOpen.append_right (h : EndsOpen s) (ht : ';' ∉ t) : EndsOpen (s ++ t) := by
  obtain ⟨first, name, rfl, hname⟩ := h
  exact ⟨first, name ++ t, by simp, by simp [hname, ht]⟩

/-- Every reference of a text that says something is closed. -/
theorem Unescapes.not_endsOpen (h : Unescapes s r) : ¬ EndsOpen s := by
  induction h with
  | nil => exact not_endsOpen_of_not_mem List.not_mem_nil
  | char hc _ ih =>
    rintro ⟨before, name, heq, hname⟩
    rcases List.cons_eq_append_iff.1 heq with ⟨-, hamp⟩ | ⟨before, -, rfl⟩
    · exact hc (List.cons.inj hamp).1.symm
    · exact ih ⟨before, name, rfl, hname⟩
  | reference hamp hend _ _ ih =>
    rintro ⟨before, name, heq, hname⟩
    rcases List.cons_eq_append_iff.1 heq with ⟨-, hname'⟩ | ⟨before, -, hrest⟩
    · exact hname (by rw [(List.cons.inj hname').2]; simp)
    rcases List.append_eq_append_iff.1 hrest with ⟨k, rfl, hk⟩ | ⟨k, rfl, hk⟩
    · rcases List.cons_eq_append_iff.1 hk with ⟨-, hclose⟩ | ⟨k, -, rfl⟩
      · exact absurd (List.cons.inj hclose).1 (by decide)
      · exact ih ⟨k, name, rfl, hname⟩
    · rcases List.cons_eq_append_iff.1 hk with ⟨-, hclose⟩ | ⟨k, rfl, -⟩
      · exact absurd (List.cons.inj hclose).1 (by decide)
      · exact hamp (by simp)

theorem Unescapes.append {t' : List Char} (hs : Unescapes s s') (ht : Unescapes t t') :
    Unescapes (s ++ t) (s' ++ t') := by
  induction hs with
  | nil => exact ht
  | char hc _ ih => exact .char hc ih
  | reference hamp hend hd _ ih =>
    rw [List.cons_append, List.append_assoc, List.cons_append]
    exact .reference hamp hend hd ih

/-- A text that is cut where no reference is open says what its pieces say. -/
theorem Unescapes.exists_of_append (h : Unescapes (s ++ t) r) (hs : ¬ EndsOpen s) :
    ∃ s' t', Unescapes s s' ∧ Unescapes t t' ∧ r = s' ++ t' := by
  generalize hwhole : s ++ t = whole at h
  induction h generalizing s with
  | nil =>
    obtain ⟨rfl, rfl⟩ := List.append_eq_nil_iff.1 hwhole
    exact ⟨[], [], .nil, .nil, rfl⟩
  | @char c rest r hc h ih =>
    rcases List.append_eq_cons_iff.1 hwhole with ⟨rfl, rfl⟩ | ⟨s, rfl, rfl⟩
    · exact ⟨[], _, .nil, .char hc h, rfl⟩
    · have hs' : ¬ EndsOpen s := fun hopen => hs (hopen.append_left [c])
      obtain ⟨s', t', hs, ht, rfl⟩ := ih hs' rfl
      exact ⟨c :: s', t', .char hc hs, ht, rfl⟩
  | @reference name rest r d hamp hend hd h ih =>
    rcases List.append_eq_cons_iff.1 hwhole with ⟨rfl, rfl⟩ | ⟨s, rfl, hname⟩
    · exact ⟨[], _, .nil, .reference hamp hend hd h, rfl⟩
    -- the cut is behind the reference, since inside of it the reference would be open
    rcases List.append_eq_append_iff.1 hname with ⟨rest', rfl, hrest⟩ | ⟨rest', rfl, -⟩
    · rcases List.cons_eq_append_iff.1 hrest with ⟨rfl, -⟩ | ⟨s, rfl, rfl⟩
      · exact absurd ⟨[], name, by simp, hend⟩ hs
      · have hs' : ¬ EndsOpen s := fun hopen =>
          hs (by simpa using hopen.append_left ('&' :: (name ++ [';'])))
        obtain ⟨s', t', hs, ht, rfl⟩ := ih hs' rfl
        exact ⟨d :: s', t', .reference hamp hend hd hs, ht, rfl⟩
    · exact absurd ⟨[], s, rfl, fun h => hend (List.mem_append_left _ h)⟩ hs

/-- Two texts may be unescaped together. -/
theorem unescape_append (hs : unescape s = .ok s') (ht : unescape t = .ok r) :
    unescape (s ++ t) = .ok (s' ++ r) :=
  unescape_eq_ok.2 ((unescape_eq_ok.1 hs).append (unescape_eq_ok.1 ht))

/-- A text that is cut where no reference is open is unescaped piece by piece. -/
theorem exists_of_unescape_append (h : unescape (s ++ t) = .ok r) (hs : ¬ EndsOpen s) :
    ∃ s' t', unescape s = .ok s' ∧ unescape t = .ok t' ∧ r = s' ++ t' := by
  obtain ⟨s', t', hs, ht, rfl⟩ := (unescape_eq_ok.1 h).exists_of_append hs
  exact ⟨s', t', unescape_eq_ok.2 hs, unescape_eq_ok.2 ht, rfl⟩

/-- A text without ampersands says itself. -/
theorem unescape_eq_self (h : '&' ∉ s) : unescape s = .ok s := by
  rw [unescape_eq_ok]
  induction s with
  | nil => exact .nil
  | cons c s ih =>
    obtain ⟨hc, hs⟩ := not_or.1 fun h' => h (List.mem_cons.2 h')
    exact .char (Ne.symm hc) (ih hs)

/-! ### Escaped texts -/

theorem unescape_escapeChar (c : Char) : unescape (escapeChar c) = .ok [c] := by
  unfold escapeChar
  split
  any_goals rfl
  rename_i hamp _ _
  exact unescape_eq_self fun h => hamp (List.mem_singleton.1 h).symm

/-- What is escaped is unescaped again. -/
theorem unescape_escape (s : List Char) : unescape (escape s) = .ok s := by
  induction s with
  | nil => rfl
  | cons c s ih => exact unescape_append (unescape_escapeChar c) ih

/-- An escaped text holds neither angle brackets nor quotes. -/
theorem not_mem_escape (s : List Char) :
    '<' ∉ escape s ∧ '>' ∉ escape s ∧ '"' ∉ escape s ∧ '\'' ∉ escape s := by
  have hchar : ∀ c, '<' ∉ escapeChar c ∧ '>' ∉ escapeChar c ∧ '"' ∉ escapeChar c ∧
      '\'' ∉ escapeChar c := by
    intro c
    unfold escapeChar
    split
    any_goals decide
    rename_i hlt hgt _ hapos hquot
    simp only [List.mem_singleton]
    exact ⟨Ne.symm hlt, Ne.symm hgt, Ne.symm hquot, Ne.symm hapos⟩
  simp only [escape, List.mem_flatMap, not_exists, not_and]
  exact ⟨fun c _ => (hchar c).1, fun c _ => (hchar c).2.1, fun c _ => (hchar c).2.2.1,
    fun c _ => (hchar c).2.2.2⟩

end MapServices.Xml
