import MapServices.Proofs.Lists
import MapServices.Proofs.Refresh.Step
import Mathlib.Data.List.Induction
import Mathlib.Data.List.Nodup
import Mathlib.Logic.Function.Iterate

/-!
# Overlapping calls for a refresh

Whatever the schedule, the calls of one job keep out of each other's way. A call that finds no
other one under way takes the guard and keeps it until it ends. A call that comes in between ends
at once. So the calls that were admitted have the effect of calls made one after the other.

* `RefreshCalls.Invariant` is what holds after every schedule, and `Invariant.step` keeps it. A
  step admits a call, turns a call away, does nothing or takes the admitted call further, and each
  of these is a lemma.
* `RefreshCalls.serial_eq_iterate`: when nothing changes outside, calls made one after the other
  are uninterrupted refreshes.
* `RefreshCalls.run_orderly` puts together what follows for the callers.
-/

namespace MapServices

/-! ## Calls one after the other -/

/-- The moments of calls when one of them takes a further step. -/
def furtherMoment (moments : Nat → List Moment) (e : ScheduledStep) (i : Nat) : List Moment :=
  if i = e.1 then moments i ++ [e.2] else moments i

theorem momentsOf_concat (schedule : List ScheduledStep) (e : ScheduledStep) :
    momentsOf (schedule ++ [e]) = furtherMoment (momentsOf schedule) e := by
  funext i
  by_cases h : i = e.1
  · simp [momentsOf, furtherMoment, h]
  · simp [momentsOf, furtherMoment, h, Ne.symm h]

namespace RefreshCalls

open RefreshPhase

variable (job : RefreshJob)

theorem serial_append (moments : Nat → List Moment) (calls calls' : List Nat) (w : World) :
    serial job moments (calls ++ calls') w =
      serial job moments calls' (serial job moments calls w) :=
  List.foldl_append

theorem serial_cons (moments : Nat → List Moment) (i : Nat) (calls : List Nat) (w : World) :
    serial job moments (i :: calls) w =
      serial job moments calls (stepsAt job (moments i) (.starting, w)).2 :=
  rfl

theorem serial_congr {moments moments' : Nat → List Moment} {calls : List Nat}
    (h : ∀ i ∈ calls, moments i = moments' i) (w : World) :
    serial job moments calls w = serial job moments' calls w := by
  induction calls generalizing w with
  | nil => rfl
  | cons i calls ih =>
    rw [serial_cons, serial_cons, h i List.mem_cons_self]
    exact ih (fun j hj => h j (List.mem_cons_of_mem _ hj)) _

theorem serial_alike (moments : Nat → List Moment) (calls : List Nat) {w w' : World}
    (h : w.Alike w') :
    (serial job moments calls w).Alike (serial job moments calls w') := by
  induction calls generalizing w w' with
  | nil => exact h
  | cons i calls ih => exact ih (stepsAt_alike job h .starting (moments i)).2

/-- The calls that have not taken the step do not notice it. -/
theorem serial_furtherMoment_of_not_mem (moments : Nat → List Moment) {e : ScheduledStep}
    {calls : List Nat} (h : e.1 ∉ calls) (w : World) :
    serial job (furtherMoment moments e) calls w = serial job moments calls w := by
  refine serial_congr job (fun i hi => ?_) w
  have hne : i ≠ e.1 := by
    rintro rfl
    exact h hi
  simp [furtherMoment, hne]

/-- A step of a call that has ended already changes nothing. -/
theorem serial_furtherMoment_of_finished (moments : Nat → List Moment) {e : ScheduledStep}
    {before after : List Nat} (hnodup : (before ++ e.1 :: after).Nodup) {w : World}
    {r : RefreshSummary}
    (h : (stepsAt job (moments e.1) (.starting, serial job moments before w)).1 = .finished r) :
    (serial job (furtherMoment moments e) (before ++ e.1 :: after) w).Alike
      (serial job moments (before ++ e.1 :: after) w) := by
  obtain ⟨_, hafter, hdisjoint⟩ := List.nodup_append.1 hnodup
  have hbefore : e.1 ∉ before := fun hmem => hdisjoint _ hmem _ List.mem_cons_self rfl
  rw [serial_append, serial_append, serial_cons, serial_cons,
    serial_furtherMoment_of_not_mem job moments hbefore,
    serial_furtherMoment_of_not_mem job moments (List.nodup_cons.1 hafter).1]
  apply serial_alike job moments after
  rw [furtherMoment, if_pos rfl, stepsAt_concat]
  generalize hs : stepsAt job (moments e.1) (.starting, serial job moments before w) = s
  obtain ⟨p, w'⟩ := s
  rw [hs] at h
  cases h
  exact (stepAt_finished job r w' e.2).2

/-! ## The invariant of a schedule -/

theorem step_world (s : RefreshCalls) (e : ScheduledStep) :
    (s.step job e).world = (stepAt job e.2 (s.phase e.1, s.world)).2 :=
  rfl

theorem step_phase_self (s : RefreshCalls) (e : ScheduledStep) :
    (s.step job e).phase e.1 = (stepAt job e.2 (s.phase e.1, s.world)).1 :=
  if_pos rfl

theorem step_phase_of_ne (s : RefreshCalls) {e : ScheduledStep} {i : Nat} (h : i ≠ e.1) :
    (s.step job e).phase i = s.phase i :=
  if_neg h

/-- What holds after every schedule. The calls that were admitted have done together what they do
one after the other, where only the last of them may still be under way. -/
structure Invariant (schedule : List ScheduledStep) (w : World) (s : RefreshCalls) : Prop where
  nodup : s.admitted.Nodup
  admitted : ∀ i ∈ s.admitted, (s.phase i).WasAdmitted
  others : ∀ i ∉ s.admitted, s.phase i = .starting ∧ momentsOf schedule i = [] ∨
    s.phase i = .finished { skipped := true }
  guard : s.world.refreshing = true ↔ ∃ i, (s.phase i).isUnderWay
  last : ∀ i, (s.phase i).isUnderWay → ∃ before, s.admitted = before ++ [i]
  world : s.world.Alike (serial job (momentsOf schedule) s.admitted w)
  phase : ∀ before i after, s.admitted = before ++ i :: after → s.phase i =
    (stepsAt job (momentsOf schedule i)
      (.starting, serial job (momentsOf schedule) before w)).1

namespace Invariant

variable {job} {schedule : List ScheduledStep} {w : World} {s : RefreshCalls}

theorem start (hw : w.refreshing = false) : Invariant job [] w { world := w } where
  nodup := List.nodup_nil
  admitted i hi := by cases hi
  others i _ := Or.inl ⟨rfl, rfl⟩
  guard := by
    show w.refreshing = true ↔ ∃ _, _ = true
    simp [hw, isUnderWay]
  last i hi := by cases hi
  world := .refl w
  phase before i after h := by simp at h

/-- No two calls are under way. -/
theorem eq_of_isUnderWay (h : Invariant job schedule w s) {i j : Nat}
    (hi : (s.phase i).isUnderWay) (hj : (s.phase j).isUnderWay) : i = j := by
  obtain ⟨before, hbefore⟩ := h.last i hi
  obtain ⟨before', hbefore'⟩ := h.last j hj
  have heq := List.append_inj' (hbefore.symm.trans hbefore') rfl
  exact List.singleton_inj.1 heq.2

theorem not_mem_of_starting (h : Invariant job schedule w s) {i : Nat}
    (hi : s.phase i = .starting) : i ∉ s.admitted := by
  intro hmem
  have hadmitted := h.admitted i hmem
  rw [hi] at hadmitted
  exact hadmitted

theorem not_mem_of_split (h : Invariant job schedule w s) {before after : List Nat} {i : Nat}
    (hsplit : s.admitted = before ++ i :: after) : i ∉ before := by
  intro hmem
  have hnodup := h.nodup
  rw [hsplit] at hnodup
  exact (List.nodup_append.1 hnodup).2.2 i hmem i List.mem_cons_self rfl

theorem mem_of_isUnderWay (h : Invariant job schedule w s) {i : Nat}
    (hi : (s.phase i).isUnderWay) : i ∈ s.admitted := by
  obtain ⟨before, hbefore⟩ := h.last i hi
  simp [hbefore]

theorem free_iff (h : Invariant job schedule w s) :
    s.world.refreshing = false ↔ ∀ i, ¬ (s.phase i).isUnderWay := by
  rw [← not_exists, ← h.guard, Bool.not_eq_true]

theorem momentsOf_of_starting (h : Invariant job schedule w s) {i : Nat}
    (hi : s.phase i = .starting) : momentsOf schedule i = [] := by
  rcases h.others i (h.not_mem_of_starting hi) with ⟨_, hnil⟩ | hfinished
  · exact hnil
  · rw [hi] at hfinished
    cases hfinished

/-- A step of another call does not show in what a call has done. -/
theorem phase_of_others (h : Invariant job schedule w s) {e : ScheduledStep}
    {before after : List Nat} {i : Nat} (hsplit : s.admitted = before ++ i :: after)
    (hbefore : e.1 ∉ before) (hne : i ≠ e.1) : (s.step job e).phase i =
      (stepsAt job (momentsOf (schedule ++ [e]) i)
        (.starting, serial job (momentsOf (schedule ++ [e])) before w)).1 := by
  rw [step_phase_of_ne job s hne, momentsOf_concat,
    serial_furtherMoment_of_not_mem job _ hbefore, furtherMoment, if_neg hne]
  exact h.phase before i after hsplit

/-- Of the calls that were not admitted, only the one that takes a step changes. -/
theorem others_of_ne (h : Invariant job schedule w s) {e : ScheduledStep} {i : Nat}
    (hi : i ∉ s.admitted) (hne : i ≠ e.1) :
    (s.step job e).phase i = .starting ∧ momentsOf (schedule ++ [e]) i = [] ∨
      (s.step job e).phase i = .finished { skipped := true } := by
  rw [step_phase_of_ne job s hne, momentsOf_concat, furtherMoment, if_neg hne]
  exact h.others i hi

/-- A call finds no other one under way and is admitted. -/
theorem startAdmitted (h : Invariant job schedule w s) {e : ScheduledStep}
    (hphase : s.phase e.1 = .starting) (hfree : s.world.refreshing = false) :
    Invariant job (schedule ++ [e]) w (s.step job e) := by
  have hnotin := h.not_mem_of_starting hphase
  have hstep := stepAt_starting_of_free job hfree e.2
  have hworld : (s.step job e).world = { s.world with now := e.2.now, refreshing := true } := by
    rw [step_world, hphase, hstep]
  have hself : (s.step job e).phase e.1 = .loading := by
    rw [step_phase_self, hphase, hstep]
  have hadmitted : (s.step job e).admitted = s.admitted ++ [e.1] := by
    simp [RefreshCalls.step, hphase, hfree]
  have hmoments : furtherMoment (momentsOf schedule) e e.1 = [e.2] := by
    simp [furtherMoment, h.momentsOf_of_starting hphase]
  have hblock := stepsAt_alike job h.world .starting [e.2]
  have hfirst : stepsAt job [e.2] (.starting, s.world) =
      (.loading, { s.world with now := e.2.now, refreshing := true }) := by
    rw [← hstep]
    rfl
  refine ⟨?_, ?_, ?_, ?_, ?_, ?_, ?_⟩
  · rw [hadmitted]
    refine List.nodup_append.2 ⟨h.nodup, List.nodup_singleton _, ?_⟩
    intro i hi j hj hij
    rw [List.mem_singleton] at hj
    exact hnotin (hj ▸ hij ▸ hi)
  · intro i hi
    by_cases hie : i = e.1
    · rw [hie, hself]
      trivial
    · rw [step_phase_of_ne job s hie]
      exact h.admitted i (by simpa [hadmitted, hie] using hi)
  · intro i hi
    simp only [hadmitted, List.mem_append, List.mem_singleton, not_or] at hi
    exact h.others_of_ne hi.1 hi.2
  · rw [hworld]
    exact ⟨fun _ => ⟨e.1, by rw [hself]; rfl⟩, fun _ => rfl⟩
  · intro i hi
    by_cases hie : i = e.1
    · exact ⟨s.admitted, by rw [hadmitted, hie]⟩
    · rw [step_phase_of_ne job s hie] at hi
      exact absurd hi (h.free_iff.1 hfree i)
  · rw [hadmitted, serial_append, momentsOf_concat, serial_furtherMoment_of_not_mem job _ hnotin,
      serial_cons, hmoments, hworld]
    have halike := hblock.2
    rw [hfirst] at halike
    exact halike
  · intro before i after hsplit
    rw [hadmitted] at hsplit
    rcases Lists.concat_eq_append_cons hsplit with ⟨rfl, rfl⟩ | ⟨after', hsplit⟩
    · rw [hself, momentsOf_concat, hmoments, serial_furtherMoment_of_not_mem job _ hnotin,
        ← hblock.1, hfirst]
    · apply h.phase_of_others hsplit (fun hmem => hnotin (by simp [hsplit, hmem]))
      rintro rfl
      exact hnotin (by simp [hsplit])

/-- A call is told that another one is under way. -/
theorem skip (h : Invariant job schedule w s) {e : ScheduledStep}
    (hphase : s.phase e.1 = .starting) (htaken : s.world.refreshing = true) :
    Invariant job (schedule ++ [e]) w (s.step job e) := by
  have hnotin := h.not_mem_of_starting hphase
  obtain ⟨hnew, halike⟩ := stepAt_starting_of_taken job htaken e.2
  have hworld : (s.step job e).world.Alike s.world := by
    rw [step_world, hphase]
    exact halike
  have hself : (s.step job e).phase e.1 = .finished { skipped := true } := by
    rw [step_phase_self, hphase, hnew]
  have hadmitted : (s.step job e).admitted = s.admitted := by
    simp [RefreshCalls.step, hphase, htaken]
  have hne : ∀ i ∈ s.admitted, i ≠ e.1 := by
    rintro i hi rfl
    exact hnotin hi
  have hunder : ∀ i, ((s.step job e).phase i).isUnderWay = (s.phase i).isUnderWay := by
    intro i
    by_cases hie : i = e.1
    · rw [hie, hself, hphase]
      rfl
    · rw [step_phase_of_ne job s hie]
  refine ⟨?_, ?_, ?_, ?_, ?_, ?_, ?_⟩
  · rw [hadmitted]
    exact h.nodup
  · intro i hi
    rw [hadmitted] at hi
    rw [step_phase_of_ne job s (hne i hi)]
    exact h.admitted i hi
  · intro i hi
    rw [hadmitted] at hi
    by_cases hie : i = e.1
    · exact Or.inr (hie ▸ hself)
    · exact h.others_of_ne hi hie
  · simp only [hunder, hworld.refreshing]
    exact h.guard
  · intro i hi
    rw [hunder] at hi
    rw [hadmitted]
    exact h.last i hi
  · rw [hadmitted, momentsOf_concat, serial_furtherMoment_of_not_mem job _ hnotin]
    exact hworld.trans h.world
  · intro before i after hsplit
    rw [hadmitted] at hsplit
    exact h.phase_of_others hsplit (fun hmem => hnotin (by simp [hsplit, hmem]))
      (hne i (by simp [hsplit]))

/-- A further moment for a call that has ended changes nothing of what the admitted calls up to any
of them do together. -/
theorem serial_of_finished (h : Invariant job schedule w s) {e : ScheduledStep}
    {r : RefreshSummary} (hphase : s.phase e.1 = .finished r) (before after : List Nat)
    (hsplit : s.admitted = before ++ after) :
    (serial job (furtherMoment (momentsOf schedule) e) before w).Alike
      (serial job (momentsOf schedule) before w) := by
  by_cases hmem : e.1 ∈ before
  · obtain ⟨front, back, rfl⟩ := List.append_of_mem hmem
    have hnodup : (front ++ e.1 :: back).Nodup := by
      have hall := h.nodup
      rw [hsplit] at hall
      exact (List.nodup_append.1 hall).1
    have hfinished := h.phase front e.1 (back ++ after) (by simp [hsplit])
    rw [hphase] at hfinished
    exact serial_furtherMoment_of_finished job _ hnodup hfinished.symm
  · rw [serial_furtherMoment_of_not_mem job _ hmem]
    exact .refl _

/-- A call that has ended already takes a further step. -/
theorem idle (h : Invariant job schedule w s) {e : ScheduledStep} {r : RefreshSummary}
    (hphase : s.phase e.1 = .finished r) :
    Invariant job (schedule ++ [e]) w (s.step job e) := by
  obtain ⟨hnew, halike⟩ := stepAt_finished job r s.world e.2
  have hworld : (s.step job e).world.Alike s.world := by
    rw [step_world, hphase]
    exact halike
  have hphases : (s.step job e).phase = s.phase := by
    funext i
    by_cases hie : i = e.1
    · rw [hie, step_phase_self, hphase, hnew]
    · exact step_phase_of_ne job s hie
  have hadmitted : (s.step job e).admitted = s.admitted := by
    simp [RefreshCalls.step, hphase]
  have hserial := h.serial_of_finished hphase
  refine ⟨?_, ?_, ?_, ?_, ?_, ?_, ?_⟩
  · rw [hadmitted]
    exact h.nodup
  · rw [hadmitted, hphases]
    exact h.admitted
  · intro i hi
    rw [hadmitted] at hi
    by_cases hie : i = e.1
    · subst hie
      rw [hphases]
      rcases h.others e.1 hi with ⟨hstarting, -⟩ | hfinished
      · rw [hphase] at hstarting
        cases hstarting
      · exact Or.inr hfinished
    · exact h.others_of_ne hi hie
  · rw [hphases, hworld.refreshing]
    exact h.guard
  · rw [hphases, hadmitted]
    exact h.last
  · rw [hadmitted, momentsOf_concat]
    exact hworld.trans (h.world.trans (hserial s.admitted [] (by simp)).symm)
  · intro before i after hsplit
    rw [hadmitted] at hsplit
    have hold := h.phase before i after hsplit
    rw [hphases, momentsOf_concat, (stepsAt_alike job (hserial before _ hsplit) _ _).1]
    by_cases hie : i = e.1
    · rw [hie, hphase] at hold ⊢
      rw [furtherMoment, if_pos rfl, stepsAt_concat]
      generalize stepsAt job (momentsOf schedule e.1)
        (.starting, serial job (momentsOf schedule) before w) = t at hold ⊢
      obtain ⟨p, w'⟩ := t
      cases hold
      rfl
    · rw [furtherMoment, if_neg hie]
      exact hold

/-- The call that is under way takes a step. -/
theorem advance (h : Invariant job schedule w s) {e : ScheduledStep}
    (hunder : (s.phase e.1).isUnderWay) : Invariant job (schedule ++ [e]) w (s.step job e) := by
  obtain ⟨before, hlast⟩ := h.last e.1 hunder
  have hmem := h.mem_of_isUnderWay hunder
  have hbefore := h.not_mem_of_split hlast
  obtain ⟨hwas, hguard⟩ := guard_step { job with source := e.2.source } hunder
    (h.admitted e.1 hmem) (w := { s.world with now := e.2.now }) (h.guard.2 ⟨e.1, hunder⟩)
  have hadmitted : (s.step job e).admitted = s.admitted := by
    unfold RefreshCalls.step
    cases hphase : s.phase e.1 with
    | starting => rw [hphase] at hunder; cases hunder
    | _ => rfl
  have halone : ∀ i, i ≠ e.1 → ¬ ((s.step job e).phase i).isUnderWay := by
    intro i hie hi
    rw [step_phase_of_ne job s hie] at hi
    exact hie (h.eq_of_isUnderWay hi hunder)
  have hrefreshing : (s.step job e).world.refreshing = ((s.step job e).phase e.1).isUnderWay := by
    rw [step_world, step_phase_self]
    exact hguard
  -- the call goes on from where it stands when the calls run one after the other
  have hblock : ((s.step job e).phase e.1, (s.step job e).world) =
      stepAt job e.2 (s.phase e.1, s.world) := by
    rw [step_world, step_phase_self]
  have hold := h.phase before e.1 [] hlast
  have hworld := h.world
  rw [hlast, serial_append, serial_cons] at hworld
  have hnext := stepAt_alike job hworld (s.phase e.1) e.2
  rw [← hblock, hold] at hnext
  have hserial : stepsAt job (momentsOf (schedule ++ [e]) e.1)
      (.starting, serial job (momentsOf (schedule ++ [e])) before w) =
      stepAt job e.2 (stepsAt job (momentsOf schedule e.1)
        (.starting, serial job (momentsOf schedule) before w)) := by
    rw [momentsOf_concat, serial_furtherMoment_of_not_mem job _ hbefore, furtherMoment, if_pos rfl,
      stepsAt_concat]
  refine ⟨?_, ?_, ?_, ?_, ?_, ?_, ?_⟩
  · rw [hadmitted]
    exact h.nodup
  · intro i hi
    rw [hadmitted] at hi
    by_cases hie : i = e.1
    · rw [hie, step_phase_self]
      exact hwas
    · rw [step_phase_of_ne job s hie]
      exact h.admitted i hi
  · intro i hi
    rw [hadmitted] at hi
    apply h.others_of_ne hi
    rintro rfl
    exact hi hmem
  · rw [hrefreshing]
    constructor
    · exact fun hi => ⟨e.1, hi⟩
    · rintro ⟨i, hi⟩
      by_cases hie : i = e.1
      · exact hie ▸ hi
      · exact absurd hi (halone i hie)
  · intro i hi
    by_cases hie : i = e.1
    · exact ⟨before, by rw [hadmitted, hlast, hie]⟩
    · exact absurd hi (halone i hie)
  · rw [hadmitted, hlast, serial_append, serial_cons, hserial]
    exact hnext.2
  · intro before' i after hsplit
    rw [hadmitted] at hsplit
    have hsplit' := hsplit
    rw [hlast] at hsplit'
    rcases Lists.concat_eq_append_cons hsplit' with ⟨rfl, rfl⟩ | ⟨after', hbefore'⟩
    · rw [hserial]
      exact hnext.1
    · apply h.phase_of_others hsplit (fun hmem => hbefore (by simp [hbefore', hmem]))
      rintro rfl
      exact hbefore (by simp [hbefore'])

/-- Whatever step comes next, the invariant holds after it. -/
theorem step (h : Invariant job schedule w s) (e : ScheduledStep) :
    Invariant job (schedule ++ [e]) w (s.step job e) := by
  cases hphase : s.phase e.1 with
  | starting =>
    cases hguard : s.world.refreshing with
    | false => exact h.startAdmitted hphase hguard
    | true => exact h.skip hphase hguard
  | finished r => exact h.idle hphase
  | loading | choosing | awaiting | saving | updating =>
    apply h.advance
    rw [hphase]
    rfl

end Invariant

variable {job}

theorem run_concat (w : World) (schedule : List ScheduledStep) (e : ScheduledStep) :
    run job w (schedule ++ [e]) = (run job w schedule).step job e :=
  List.foldl_append

theorem invariant_run {w : World} (hw : w.refreshing = false) (schedule : List ScheduledStep) :
    Invariant job schedule w (run job w schedule) := by
  induction schedule using List.reverseRecOn with
  | nil => exact Invariant.start hw
  | append_singleton schedule e ih =>
    rw [run_concat]
    exact ih.step e

/-! ## What follows for the callers -/

/-- When neither the time nor the source changes, calls that have ended are refreshes without
interruption. -/
theorem serial_eq_iterate {moments : Nat → List Moment} {calls : List Nat} {w : World}
    (hpresent : ∀ i ∈ calls, ∀ m ∈ moments i, m = ⟨w.now, job.source⟩)
    (hended : ∀ before i after, calls = before ++ i :: after → ∃ r,
      (stepsAt job (moments i) (.starting, serial job moments before w)).1 = .finished r) :
    serial job moments calls w = (fun w => (job.run w).2)^[calls.length] w ∧
      (serial job moments calls w).now = w.now := by
  induction calls using List.reverseRecOn with
  | nil => exact ⟨rfl, rfl⟩
  | append_singleton calls i ih =>
    obtain ⟨hiterate, hnow⟩ := ih (fun j hj => hpresent j (List.mem_append_left _ hj)) <| by
      intro before j after hsplit
      exact hended before j (after ++ [i]) (by simp [hsplit])
    obtain ⟨r, hr⟩ := hended calls i [] rfl
    have hmoments : ∀ m ∈ moments i, m = ⟨(serial job moments calls w).now, job.source⟩ := by
      rw [hnow]
      exact hpresent i (by simp)
    obtain ⟨hrun, hrunNow⟩ := run_of_stepsAt job hmoments hr
    have hserial : serial job moments (calls ++ [i]) w =
        (job.run (serial job moments calls w)).2 := by
      rw [serial_append, hrun]
      rfl
    refine ⟨?_, by rw [hserial, hrunNow, hnow]⟩
    rw [hserial, hiterate, List.length_append, List.length_singleton, Function.iterate_succ_apply']

/-- What the callers of a job can rely on, when their calls have come as far as a schedule lets
them. -/
structure Orderly (job : RefreshJob) (schedule : List ScheduledStep) (w : World)
    (s : RefreshCalls) : Prop where
  /-- At most one call is under way. -/
  exclusive : ∀ i j, (s.phase i).isUnderWay → (s.phase j).isUnderWay → i = j
  /-- A call that starts while another one is under way ends at once and has done nothing. -/
  turnedAway : ∀ i j m, (s.phase i).isUnderWay → s.phase j = .starting →
    (s.step job (j, m)).phase j = .finished
        { groups := 0, groupsFailed := 0, layersUpdated := 0, layersFailed := 0, skipped := true } ∧
      (s.step job (j, m)).world.layers = s.world.layers ∧
      (s.step job (j, m)).world.documents = s.world.documents ∧
      (s.step job (j, m)).world.requests = s.world.requests
  /-- The guard is free unless a call is under way. -/
  guard : s.world.refreshing = false ↔ ∀ i, ¬ (s.phase i).isUnderWay
  /-- The calls that were admitted are those that are not skipped in the end. -/
  returned : ∀ i r, s.phase i = .finished r →
    i ∈ s.admitted ∧ r.skipped = false ∨ i ∉ s.admitted ∧ r = { skipped := true }
  /-- The admitted calls, one after the other, leave the same layers, documents and requests. -/
  effect : s.world.layers = (serial job (momentsOf schedule) s.admitted w).layers ∧
    s.world.documents = (serial job (momentsOf schedule) s.admitted w).documents ∧
    s.world.requests = (serial job (momentsOf schedule) s.admitted w).requests
  /-- An admitted call comes as far as it does when the calls before it are all that happened. -/
  phase : ∀ before i after, s.admitted = before ++ i :: after → s.phase i =
    (stepsAt job (momentsOf schedule i)
      (.starting, serial job (momentsOf schedule) before w)).1
  /-- When neither the time nor the source changes and the admitted calls have ended, they have done
  what as many refreshes do without interruption. -/
  uninterrupted : (∀ e ∈ schedule, e.2 = ⟨w.now, job.source⟩) →
    (∀ i ∈ s.admitted, ∃ r, s.phase i = .finished r) →
      s.world.layers = ((fun w => (job.run w).2)^[s.admitted.length] w).layers ∧
      s.world.documents = ((fun w => (job.run w).2)^[s.admitted.length] w).documents ∧
      s.world.requests = ((fun w => (job.run w).2)^[s.admitted.length] w).requests ∧
      ∀ before i after, s.admitted = before ++ i :: after →
        s.phase i = .finished (job.run ((fun w => (job.run w).2)^[before.length] w)).1

theorem mem_of_mem_momentsOf {schedule : List ScheduledStep} {i : Nat} {m : Moment}
    (h : m ∈ momentsOf schedule i) : (i, m) ∈ schedule := by
  obtain ⟨e, he, rfl⟩ := List.mem_map.1 h
  obtain ⟨hmem, hi⟩ := List.mem_filter.1 he
  rw [← of_decide_eq_true hi]
  exact hmem

namespace Invariant

variable {schedule : List ScheduledStep} {w : World} {s : RefreshCalls}

theorem turnedAway (h : Invariant job schedule w s) {i j : Nat} (m : Moment)
    (hi : (s.phase i).isUnderWay) (hj : s.phase j = .starting) :
    (s.step job (j, m)).phase j = .finished { skipped := true } ∧
      (s.step job (j, m)).world.Alike s.world := by
  obtain ⟨hphase, halike⟩ := stepAt_starting_of_taken job (h.guard.2 ⟨i, hi⟩) m
  rw [step_phase_self job s (j, m), step_world, hj]
  exact ⟨hphase, halike⟩

theorem returned (h : Invariant job schedule w s) {i : Nat} {r : RefreshSummary}
    (hr : s.phase i = .finished r) :
    i ∈ s.admitted ∧ r.skipped = false ∨ i ∉ s.admitted ∧ r = { skipped := true } := by
  by_cases hi : i ∈ s.admitted
  · have hadmitted := h.admitted i hi
    rw [hr] at hadmitted
    exact Or.inl ⟨hi, hadmitted⟩
  · rcases h.others i hi with ⟨hstarting, -⟩ | hfinished
    · rw [hr] at hstarting
      cases hstarting
    · rw [hr] at hfinished
      exact Or.inr ⟨hi, RefreshPhase.finished.inj hfinished⟩

theorem uninterrupted (h : Invariant job schedule w s)
    (hpresent : ∀ e ∈ schedule, e.2 = ⟨w.now, job.source⟩)
    (hended : ∀ i ∈ s.admitted, ∃ r, s.phase i = .finished r) :
    s.world.Alike ((fun w => (job.run w).2)^[s.admitted.length] w) ∧
      ∀ before i after, s.admitted = before ++ i :: after →
        s.phase i = .finished (job.run ((fun w => (job.run w).2)^[before.length] w)).1 := by
  have hmoments : ∀ i, ∀ m ∈ momentsOf schedule i, m = ⟨w.now, job.source⟩ :=
    fun i m hm => hpresent (i, m) (mem_of_mem_momentsOf hm)
  have hphases : ∀ before i after, s.admitted = before ++ i :: after → ∃ r,
      (stepsAt job (momentsOf schedule i)
        (.starting, serial job (momentsOf schedule) before w)).1 = .finished r := by
    intro before i after hsplit
    rw [← h.phase before i after hsplit]
    exact hended i (by simp [hsplit])
  refine ⟨?_, ?_⟩
  · rw [← (serial_eq_iterate (fun i _ => hmoments i) hphases).1]
    exact h.world
  · intro before i after hsplit
    have hbefore : ∀ front j back, before = front ++ j :: back → ∃ r,
        (stepsAt job (momentsOf schedule j)
          (.starting, serial job (momentsOf schedule) front w)).1 = .finished r := by
      intro front j back hsplit'
      exact hphases front j (back ++ i :: after) (by simp [hsplit, hsplit'])
    obtain ⟨hiterate, hnow⟩ := serial_eq_iterate (fun i _ => hmoments i) hbefore
    obtain ⟨r, hr⟩ := hphases before i after hsplit
    obtain ⟨hrun, -⟩ := run_of_stepsAt job (hnow ▸ hmoments i) hr
    rw [h.phase before i after hsplit, hr, ← hiterate, hrun]

end Invariant

/-- Whatever the order in which overlapping calls of a job take their steps, at most one of them is
under way, those that start meanwhile are skipped, and the others have done what they do one after
the other. -/
theorem run_orderly {w : World} (hw : w.refreshing = false) (schedule : List ScheduledStep) :
    Orderly job schedule w (run job w schedule) := by
  have h : Invariant job schedule w (run job w schedule) := invariant_run hw schedule
  refine ⟨?_, ?_, h.free_iff, ?_, ?_, h.phase, ?_⟩
  · intro i j hi hj
    exact h.eq_of_isUnderWay hi hj
  · intro i j m hi hj
    obtain ⟨hphase, halike⟩ := h.turnedAway m hi hj
    exact ⟨hphase, halike.layers, halike.documents, halike.requests⟩
  · intro i r hr
    exact h.returned hr
  · exact ⟨h.world.layers, h.world.documents, h.world.requests⟩
  · intro hpresent hended
    obtain ⟨halike, hphase⟩ := h.uninterrupted hpresent hended
    exact ⟨halike.layers, halike.documents, halike.requests, hphase⟩

/-- Two layers, of which the first cannot be written. -/
def sharedWorld : World :=
  { layers := (LayerStore.ofList [
      { id := 1, name := "roads", url := "maps", serviceType := .wms },
      { id := 2, name := "roads", url := "tiles", serviceType := .wms }]).failUpdatesOf 1 }

def sharedJob : RefreshJob where
  savesDocuments := true
  source request :=
    { result := .ok {
        url := request.address
        encoding := "UTF-8"
        data := "<WMS_Capabilities><Capability><Layer><Name>roads</Name></Layer></Capability>" ++
          "</WMS_Capabilities>" } }

/-- The second call starts while the first is under way, the third when the first has ended. -/
def sharedSchedule : List ScheduledStep :=
  ([0, 0, 1, 0, 1] ++ List.replicate 12 0 ++ [2, 0, 2]).map (·, ⟨⟨0, 0⟩, sharedJob.source⟩)

/-- The second call is turned away, and the third one follows the first. -/
theorem run_orderly_shared :
    sharedWorld.refreshing = false ∧
      (run sharedJob sharedWorld sharedSchedule).admitted = [0, 2] ∧
      Orderly sharedJob sharedSchedule sharedWorld (run sharedJob sharedWorld sharedSchedule) :=
  ⟨rfl, by decide +kernel, run_orderly rfl sharedSchedule⟩

end RefreshCalls

end MapServices
