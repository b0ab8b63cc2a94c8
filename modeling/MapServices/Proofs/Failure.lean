import Mathlib.Data.List.Forall2

/-!
# Computations that may fail

* `bind_eq_ok`: what is left of a computation that succeeded after its first step.
* `throwIf_eq_ok`: a computation that succeeded has passed its checks.
* `mapError_eq_ok`: to name an error differently changes no success.
* `bind_eq_error`: a computation fails in its first step or in what is left of it.
* `exists_of_mapM_eq_error`: a computation for each element of a list fails at an element.
* `mapM_append_cons_eq_ok`: it succeeds if it does for one element, those before and those after.
* `Agree`: two computations fail alike, or succeed with related results.
* `mapM_eq_ok_iff`: a list of results is one result for each element.
* `OnlyFailsAs`: all errors of a computation are of one sort, since those of its steps are.
* `Reports`: of all faults, a computation reports the first, and it succeeds if there are none.
-/

namespace MapServices.Failure

variable {ε ε' α β γ : Type}

theorem bind_eq_ok {x : Except ε α} {f : α → Except ε β} {b : β} :
    (x >>= f) = .ok b ↔ ∃ a, x = .ok a ∧ f a = .ok b := by
  cases x with
  | error e =>
    constructor
    · intro h
      cases h
    · rintro ⟨a, h, -⟩
      cases h
  | ok a =>
    constructor
    · intro h
      exact ⟨a, rfl, h⟩
    · rintro ⟨a, h, hf⟩
      cases h
      exact hf

theorem throwIf_eq_ok {p : Prop} [Decidable p] {e : ε} {f : α → Except ε β} {x : Except ε β}
    {b : β} :
    (if p then (throw e : Except ε α) >>= f else x) = .ok b ↔ ¬ p ∧ x = .ok b := by
  by_cases hp : p
  · rw [if_pos hp]
    constructor
    · intro h
      cases h
    · rintro ⟨h, -⟩
      exact absurd hp h
  · rw [if_neg hp]
    exact ⟨fun h => ⟨hp, h⟩, fun h => h.2⟩

theorem mapError_ok (f : ε → ε') (a : α) : (.ok a : Except ε α).mapError f = .ok a := rfl

theorem mapError_error (f : ε → ε') (e : ε) :
    (.error e : Except ε α).mapError f = .error (f e) := rfl

theorem mapError_eq_ok {f : ε → ε'} {x : Except ε α} {a : α} :
    x.mapError f = .ok a ↔ x = .ok a := by
  cases x <;> simp [mapError_ok, mapError_error]

/-- The error of a computation that failed. -/
def error? : Except ε α → Option ε
  | .ok _ => none
  | .error e => some e

theorem error?_eq_some {x : Except ε α} {e : ε} : error? x = some e ↔ x = .error e := by
  cases x <;> simp [error?]

theorem toOption_eq_some {x : Except ε α} {a : α} : x.toOption = some a ↔ x = .ok a := by
  cases x <;> simp [Except.toOption]

theorem bind_eq_error {x : Except ε α} {f : α → Except ε β} {e : ε} :
    (x >>= f) = .error e ↔ x = .error e ∨ ∃ a, x = .ok a ∧ f a = .error e := by
  cases x with
  | error e' =>
    constructor
    · intro h
      cases h
      exact .inl rfl
    · rintro (h | ⟨a, h, -⟩) <;> cases h
      rfl
  | ok a =>
    constructor
    · intro h
      exact .inr ⟨a, rfl, h⟩
    · rintro (h | ⟨a', h, hf⟩) <;> cases h
      exact hf

theorem exists_of_mapM_eq_error {f : α → Except ε β} {l : List α} {e : ε}
    (h : l.mapM f = .error e) : ∃ a ∈ l, f a = .error e := by
  induction l with
  | nil => cases h
  | cons a l ih =>
    rw [List.mapM_cons] at h
    rcases bind_eq_error.1 h with h | ⟨b, -, h⟩
    · exact ⟨a, List.mem_cons_self, h⟩
    · rcases bind_eq_error.1 h with h | ⟨bs, -, h⟩
      · obtain ⟨a', ha', h⟩ := ih h
        exact ⟨a', List.mem_cons_of_mem _ ha', h⟩
      · cases h

theorem mapM_append_cons_eq_ok {f : α → Except ε β} {front back : List α} {a : α} {l : List β} :
    (front ++ a :: back).mapM f = .ok l ↔ ∃ bs b cs, front.mapM f = .ok bs ∧ f a = .ok b ∧
      back.mapM f = .ok cs ∧ l = bs ++ b :: cs := by
  simp only [List.mapM_append, List.mapM_cons, bind_eq_ok]
  constructor
  · rintro ⟨bs, hbs, _, ⟨b, hb, cs, hcs, h⟩, h'⟩
    cases h
    cases h'
    exact ⟨bs, b, cs, hbs, hb, hcs, rfl⟩
  · rintro ⟨bs, b, cs, hbs, hb, hcs, rfl⟩
    exact ⟨bs, hbs, b :: cs, ⟨b, hb, cs, hcs, rfl⟩, rfl⟩

theorem exists_of_mapM_eq_ok {f : α → Except ε β} {l : List α} {l' : List β} {a : α}
    (h : l.mapM f = .ok l') (ha : a ∈ l) : ∃ b ∈ l', f a = .ok b := by
  obtain ⟨front, back, rfl⟩ := List.append_of_mem ha
  obtain ⟨bs, b, cs, -, hb, -, rfl⟩ := mapM_append_cons_eq_ok.1 h
  exact ⟨b, List.mem_append_right _ List.mem_cons_self, hb⟩

theorem mapM_eq_ok_iff {f : α → Except ε β} {l : List α} {l' : List β} :
    l.mapM f = .ok l' ↔ List.Forall₂ (fun a b => f a = .ok b) l l' := by
  induction l generalizing l' with
  | nil =>
    rw [List.mapM_nil, List.forall₂_nil_left_iff]
    constructor
    · rintro ⟨⟩
      rfl
    · rintro rfl
      rfl
  | cons a l ih =>
    rw [List.mapM_cons, List.forall₂_cons_left_iff]
    simp only [bind_eq_ok, ih]
    constructor
    · rintro ⟨b, hb, bs, hbs, h⟩
      cases h
      exact ⟨b, bs, hb, hbs, rfl⟩
    · rintro ⟨b, bs, hb, hbs, rfl⟩
      exact ⟨b, hb, bs, hbs, rfl⟩

theorem map_eq_ok {f : α → β} {x : Except ε α} {b : β} :
    f <$> x = .ok b ↔ ∃ a, x = .ok a ∧ b = f a := by
  cases x <;> simp [Functor.map, Except.map, eq_comm]

theorem map_eq_error {f : α → β} {x : Except ε α} {e : ε} : f <$> x = .error e ↔ x = .error e := by
  cases x <;> simp [Functor.map, Except.map]

theorem mapError_eq_error {f : ε → ε'} {x : Except ε α} {e : ε'} :
    x.mapError f = .error e ↔ ∃ e', x = .error e' ∧ e = f e' := by
  cases x <;> simp [mapError_ok, mapError_error, eq_comm]

/-! ### Related results -/

/-- Both computations fail with the same error, or both succeed with related results. -/
inductive Agree (R : α → β → Prop) : Except ε α → Except ε β → Prop where
  | error (e : ε) : Agree R (.error e) (.error e)
  | ok {a : α} {b : β} (h : R a b) : Agree R (.ok a) (.ok b)

/-! ### Errors of one sort -/

/-- If the computation fails, then with an error of the sort `P`. -/
def OnlyFailsAs (P : ε → Prop) (x : Except ε α) : Prop := ∀ e, x = .error e → P e

namespace OnlyFailsAs

variable {P : ε → Prop}

theorem ok (a : α) : OnlyFailsAs P (.ok a) := nofun

theorem error {e : ε} (h : P e) : OnlyFailsAs P (.error e : Except ε α) := by
  rintro _ ⟨⟩
  exact h

theorem bind {x : Except ε α} {f : α → Except ε β} (hx : OnlyFailsAs P x)
    (hf : ∀ a, OnlyFailsAs P (f a)) : OnlyFailsAs P (x >>= f) := by
  intro e h
  rcases bind_eq_error.1 h with h | ⟨a, -, h⟩
  · exact hx e h
  · exact hf a e h

theorem map {x : Except ε α} (f : α → β) (hx : OnlyFailsAs P x) : OnlyFailsAs P (f <$> x) :=
  fun e h => hx e (map_eq_error.1 h)

theorem mapM {f : α → Except ε β} (hf : ∀ a, OnlyFailsAs P (f a)) (l : List α) :
    OnlyFailsAs P (l.mapM f) := by
  intro e h
  obtain ⟨a, -, h⟩ := exists_of_mapM_eq_error h
  exact hf a e h

end OnlyFailsAs

/-! ### The first fault -/

/-- The computation succeeds if there are no faults, and otherwise fails with the first of them. -/
def Reports (faults : List ε) (x : Except ε α) : Prop := error? x = faults.head?

namespace Reports

variable {faults more : List ε} {x : Except ε α} {e : ε}

theorem ok (a : α) : Reports [] (.ok a : Except ε α) := rfl

theorem error (e : ε) (more : List ε) : Reports (e :: more) (.error e : Except ε α) := rfl

theorem eq_error_iff (h : Reports faults x) : x = .error e ↔ faults.head? = some e := by
  rw [← error?_eq_some, h]

theorem exists_ok_iff (h : Reports faults x) : (∃ a, x = .ok a) ↔ faults = [] := by
  rw [← List.head?_eq_none_iff, ← h]
  cases x <;> simp [error?]

/-- What comes after a step that failed is of no account. -/
theorem bind {f : α → Except ε β} (hx : Reports faults x)
    (hf : ∀ a, x = .ok a → Reports more (f a)) : Reports (faults ++ more) (x >>= f) := by
  cases x with
  | error e =>
    have hfirst : faults.head? = some e := hx.symm
    rw [Reports, List.head?_append, hfirst]
    rfl
  | ok a =>
    rw [hx.exists_ok_iff.1 ⟨a, rfl⟩]
    exact hf a rfl

theorem map (f : α → β) (hx : Reports faults x) : Reports faults (f <$> x) := by
  cases x with
  | error e => exact hx
  | ok a => exact hx

theorem mapError (f : ε → ε') (hx : Reports faults x) : Reports (faults.map f) (x.mapError f) := by
  rw [Reports, List.head?_map, ← hx]
  cases x <;> rfl

theorem mapM {f : α → Except ε β} {faults : α → List ε} (hf : ∀ a, Reports (faults a) (f a))
    (l : List α) : Reports (l.flatMap faults) (l.mapM f) := by
  induction l with
  | nil => exact .ok _
  | cons a l ih =>
    rw [List.mapM_cons, List.flatMap_cons]
    exact (hf a).bind fun b _ => ih.map (b :: ·)

end Reports

/-- The faults of a value that must be there: if it is, those that are found in it. -/
def required (value? : Option α) (fault : ε) (within : α → List ε) : List ε :=
  match value? with
  | none => [fault]
  | some value => within value

theorem required_eq_nil_iff {value? : Option α} {fault : ε} {within : α → List ε} :
    required value? fault within = [] ↔ ∃ value, value? = some value ∧ within value = [] := by
  cases value? <;> simp [required]

end MapServices.Failure
