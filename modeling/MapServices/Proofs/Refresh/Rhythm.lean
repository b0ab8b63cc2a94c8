import Mathlib.Algebra.Order.Floor.Div
import Mathlib.Logic.Relation
import MapServices.Refresh.Scheduler

/-!
# The rhythm of a scheduler

A scheduler waits for two things at once: for the end of its interval, and for being told to stop.
A `Step` is what it does next, and where both come at the same time it may do either. It does not
look at the signal while a refresh is under way.

* `Stage` lists the states that a scheduler can be in, and `Stage.step` shows that there are no
  others.
* `acc_step`: it stops.
* `exists_startsFrom`: which refreshes are started.
* `run_keeps_rhythm` puts together when refreshes start, how many there are, and what they amount
  to.
-/

namespace MapServices.Scheduler

/-! ### One step after the other -/

/-- What a scheduler is doing. -/
inductive Phase where
  | refreshing
  | waiting
  | stopped
deriving DecidableEq, Repr

/-- Where a scheduler stands. -/
structure State where
  phase : Phase
  /-- The time since the scheduler was started. -/
  time : Nat
  /-- The times at which refreshes have started. -/
  starts : List Nat
  world : World

/-- A scheduler at the start of its first refresh. -/
def State.start (w : World) : State :=
  { phase := .refreshing, time := 0, starts := [0], world := w }

/-- What a scheduler does next. The `n`-th refresh takes `duration n` and makes `refresh n w` of a
world `w`, and the scheduler is told to stop at `stop`. -/
inductive Step (s : Scheduler) (duration : Nat → Nat) (stop : Nat)
    (refresh : Nat → World → World) : State → State → Prop where
  /-- The last refresh that was started comes to its end, whatever the time is then. -/
  | refreshed (time : Nat) (starts : List Nat) (w : World) :
    Step s duration stop refresh ⟨.refreshing, time, starts, w⟩
      ⟨.waiting, time + duration (starts.length - 1), starts, refresh (starts.length - 1) w⟩
  /-- The interval is over before the scheduler was told to stop. -/
  | woken (time : Nat) (starts : List Nat) (w : World) (h : time + s.interval ≤ max time stop) :
    Step s duration stop refresh ⟨.waiting, time, starts, w⟩
      ⟨.refreshing, time + s.interval, starts ++ [time + s.interval], w⟩
  /-- The scheduler is told to stop while it waits, or was told during the refresh before. -/
  | told (time : Nat) (starts : List Nat) (w : World) (h : max time stop ≤ time + s.interval) :
    Step s duration stop refresh ⟨.waiting, time, starts, w⟩ ⟨.stopped, max time stop, starts, w⟩

/-- When the `n`-th refresh is due, unless the scheduler has stopped by then. -/
def due (s : Scheduler) (duration : Nat → Nat) : Nat → Nat
  | 0 => 0
  | n + 1 => s.due duration n + duration n + s.interval

/-- The times at which the first refreshes are due. -/
def firstDue (s : Scheduler) (duration : Nat → Nat) (n : Nat) : List Nat :=
  (List.range n).map (s.due duration)

/-- What the first refreshes amount to. -/
def afterFirst (refresh : Nat → World → World) (w : World) (n : Nat) : World :=
  (List.range n).foldl (fun w k => refresh k w) w

variable {s : Scheduler} {duration : Nat → Nat} {stop n : Nat} {refresh : Nat → World → World}
  {w : World} {x y : State}

theorem strictMono_due (s : Scheduler) (duration : Nat → Nat) : StrictMono (s.due duration) := by
  refine strictMono_nat_of_lt_succ fun n => ?_
  have hpos := s.interval_pos
  rw [due]
  omega

theorem firstDue_succ (s : Scheduler) (duration : Nat → Nat) (n : Nat) :
    s.firstDue duration (n + 1) = s.firstDue duration n ++ [s.due duration n] := by
  simp [firstDue, List.range_succ]

theorem afterFirst_succ (refresh : Nat → World → World) (w : World) (n : Nat) :
    afterFirst refresh w (n + 1) = refresh n (afterFirst refresh w n) := by
  simp [afterFirst, List.range_succ]

/-- The `n`-th refresh is started: it is the first one, or due before the signal. -/
def IsStarted (s : Scheduler) (duration : Nat → Nat) (stop n : Nat) : Prop :=
  n = 0 ∨ s.due duration n < stop

/-- The states of a scheduler that is not told to stop just when a refresh is due. -/
inductive Stage (s : Scheduler) (duration : Nat → Nat) (stop : Nat)
    (refresh : Nat → World → World) (w : World) : State → Prop where
  | refreshing (n : Nat) (h : s.IsStarted duration stop n) :
    Stage s duration stop refresh w
      ⟨.refreshing, s.due duration n, s.firstDue duration (n + 1), afterFirst refresh w n⟩
  | waiting (n : Nat) (h : s.IsStarted duration stop n) :
    Stage s duration stop refresh w ⟨.waiting, s.due duration n + duration n,
      s.firstDue duration (n + 1), afterFirst refresh w (n + 1)⟩
  | stopped (n : Nat) (h : s.IsStarted duration stop n) (hnext : stop < s.due duration (n + 1)) :
    Stage s duration stop refresh w ⟨.stopped, max (s.due duration n + duration n) stop,
      s.firstDue duration (n + 1), afterFirst refresh w (n + 1)⟩

theorem Stage.start (s : Scheduler) (duration : Nat → Nat) (stop : Nat)
    (refresh : Nat → World → World) (w : World) :
    Stage s duration stop refresh w (.start w) :=
  .refreshing 0 (.inl rfl)

/-- Of the two ends of a wait, the one that comes first decides whether the next refresh starts. -/
theorem Stage.step (hstop : ∀ n, s.due duration (n + 1) ≠ stop)
    (hx : Stage s duration stop refresh w x) (h : Step s duration stop refresh x y) :
    Stage s duration stop refresh w y := by
  cases hx with
  | refreshing n hn =>
    cases h with
    | refreshed =>
      have hlength : (s.firstDue duration (n + 1)).length - 1 = n := by simp [firstDue]
      rw [hlength, ← afterFirst_succ refresh w n]
      exact .waiting n hn
  | waiting n hn =>
    have hpos := s.interval_pos
    have hne := hstop n
    rw [due] at hne
    cases h with
    | woken _ _ _ hle =>
      have hnext : s.IsStarted duration stop (n + 1) := .inr (by rw [due]; omega)
      have hstage : Stage s duration stop refresh w ⟨.refreshing, s.due duration (n + 1),
          s.firstDue duration (n + 1 + 1), afterFirst refresh w (n + 1)⟩ :=
        .refreshing (n + 1) hnext
      rwa [firstDue_succ] at hstage
    | told _ _ _ hle => exact .stopped n hn (by rw [due]; omega)
  | stopped n hn hnext => cases h

theorem Stage.of_reaches (hstop : ∀ n, s.due duration (n + 1) ≠ stop)
    (h : Relation.ReflTransGen (Step s duration stop refresh) (.start w) x) :
    Stage s duration stop refresh w x := by
  induction h with
  | refl => exact .start s duration stop refresh w
  | tail _ hstep ih => exact ih.step hstop hstep

/-- A scheduler that has not stopped goes on. -/
theorem exists_step (s : Scheduler) (duration : Nat → Nat) (stop : Nat)
    (refresh : Nat → World → World) (hphase : x.phase ≠ .stopped) :
    ∃ y, Step s duration stop refresh x y := by
  obtain ⟨phase, time, starts, w⟩ := x
  cases phase with
  | refreshing => exact ⟨_, .refreshed time starts w⟩
  | waiting =>
    rcases Nat.le_total (time + s.interval) (max time stop) with h | h
    · exact ⟨_, .woken time starts w h⟩
    · exact ⟨_, .told time starts w h⟩
  | stopped => exact absurd rfl hphase

/-- What a scheduler has before it: less time to the signal, or the rest of its round. -/
def State.ahead (stop : Nat) (x : State) : Nat :=
  match x.phase with
  | .refreshing => 2 * (stop + 1 - x.time) + 2
  | .waiting => 2 * (stop + 1 - x.time) + 1
  | .stopped => 0

theorem ahead_lt (h : Step s duration stop refresh x y) : y.ahead stop < x.ahead stop := by
  have hpos := s.interval_pos
  cases h with
  | refreshed =>
    simp only [State.ahead]
    omega
  | woken =>
    simp only [State.ahead]
    omega
  | told =>
    simp only [State.ahead]
    omega

/-- A scheduler stops, whatever happens. -/
theorem acc_step (s : Scheduler) (duration : Nat → Nat) (stop : Nat)
    (refresh : Nat → World → World) (x : State) :
    Acc (fun y x => Step s duration stop refresh x y) x :=
  Subrelation.accessible ahead_lt (InvImage.accessible _ (Nat.lt_wfRel.wf.apply _))

/-! ### Which refreshes are started -/

/-- From the `n`-th refresh on, those are started that are due before the signal. -/
theorem exists_startsFrom (s : Scheduler) (duration : Nat → Nat) (stop n : Nat) :
    ∃ m, s.startsFrom duration stop n (s.due duration n) =
        (List.range' n (m + 1)).map (s.due duration) ∧
      (∀ k, n < k → k ≤ n + m → s.due duration k < stop) ∧ stop ≤ s.due duration (n + m + 1) := by
  generalize htime : s.due duration n = time
  fun_induction s.startsFrom duration stop n time with
  | case1 n time next hnext ih =>
    obtain ⟨m, hlist, hlt, hle⟩ := ih (by rw [due, htime])
    refine ⟨m + 1, ?_, fun k hk hkm => ?_, ?_⟩
    · rw [hlist, List.range'_succ (s := n), List.map_cons, htime]
    · rcases Nat.lt_or_eq_of_le hk with hk | rfl
      · exact hlt k hk (by omega)
      · rw [due, htime]
        exact hnext
    · rwa [show n + (m + 1) + 1 = n + 1 + m + 1 by omega]
  | case2 n time next hnext =>
    refine ⟨0, ?_, fun k hk hkm => by omega, ?_⟩
    · rw [List.range'_one, List.map_singleton, htime]
    · rw [Nat.add_zero, due, htime]
      exact Nat.le_of_not_lt hnext

/-- How many refreshes are started. -/
def runs (s : Scheduler) (duration : Nat → Nat) (stop : Nat) : Nat :=
  (s.starts duration stop).length

/-- The refreshes that are started are the first ones. -/
theorem starts_eq (s : Scheduler) (duration : Nat → Nat) (stop : Nat) :
    s.starts duration stop = s.firstDue duration (s.runs duration stop) ∧
      ∀ n, n < s.runs duration stop ↔ s.IsStarted duration stop n := by
  obtain ⟨m, hlist, hlt, hle⟩ := s.exists_startsFrom duration stop 0
  have hstarts : s.starts duration stop = s.firstDue duration (m + 1) := by
    rw [firstDue, List.range_eq_range']
    exact hlist
  have hruns : s.runs duration stop = m + 1 := by simp [runs, hstarts, firstDue]
  refine ⟨by rw [hstarts, hruns], fun n => ?_⟩
  rw [hruns, Nat.lt_succ_iff]
  constructor
  · intro hn
    rcases Nat.eq_zero_or_pos n with hzero | hpos
    · exact .inl hzero
    · exact .inr (hlt n hpos (by omega))
  · rintro (rfl | hdue)
    · exact Nat.zero_le m
    · rw [Nat.zero_add] at hle
      have hlt := (s.strictMono_due duration).lt_iff_lt.1 (Nat.lt_of_lt_of_le hdue hle)
      exact Nat.lt_succ_iff.1 hlt

theorem runs_eq_of_isStarted (h : s.IsStarted duration stop n)
    (hnext : stop < s.due duration (n + 1)) : s.runs duration stop = n + 1 := by
  have hstarted := (s.starts_eq duration stop).2
  refine Nat.le_antisymm (Nat.le_of_not_lt fun hlt => ?_) ((hstarted n).2 h)
  rcases (hstarted (n + 1)).1 hlt with hzero | hdue <;> omega

theorem due_of_instantaneous (h : ∀ n, duration n = 0) (n : Nat) :
    s.due duration n = s.interval * n := by
  induction n with
  | zero => rfl
  | succ n ih => rw [due, ih, h n, Nat.add_zero, Nat.mul_succ]

/-- Refreshes that take no time are started once for each interval that begins before the signal. -/
theorem runs_of_instantaneous (h : ∀ n, duration n = 0) :
    s.runs duration stop = max 1 (stop ⌈/⌉ s.interval) := by
  refine eq_of_forall_lt_iff fun n => ?_
  rw [(s.starts_eq duration stop).2, IsStarted, due_of_instantaneous h, lt_max_iff,
    Nat.lt_one_iff, ← not_le, ← not_le (a := stop ⌈/⌉ s.interval),
    ceilDiv_le_iff_le_mul s.interval_pos]

/-! ### What can be relied on -/

/-- A scheduler that was started in the world has come to the state, and can do nothing more. -/
structure EndsAt (s : Scheduler) (duration : Nat → Nat) (stop : Nat)
    (refresh : Nat → World → World) (w : World) (x : State) : Prop where
  reached : Relation.ReflTransGen (Step s duration stop refresh) (.start w) x
  stuck : ∀ y, ¬ Step s duration stop refresh x y

theorem exists_endsAt (s : Scheduler) (duration : Nat → Nat) (stop : Nat)
    (refresh : Nat → World → World) (w : World) : ∃ x, EndsAt s duration stop refresh w x := by
  have hreach : ∀ x, Relation.ReflTransGen (Step s duration stop refresh) (.start w) x →
      ∃ x, EndsAt s duration stop refresh w x := by
    intro x
    induction acc_step s duration stop refresh x with
    | intro x _ ih =>
      intro hx
      by_cases hstuck : ∀ y, ¬ Step s duration stop refresh x y
      · exact ⟨x, hx, hstuck⟩
      · obtain ⟨y, hy⟩ := not_forall_not.1 hstuck
        exact ih y hy (hx.tail hy)
  exact hreach _ .refl

/-- When the last refresh that is started ends. -/
def lastEnd (s : Scheduler) (duration : Nat → Nat) (stop : Nat) : Nat :=
  s.due duration (s.runs duration stop - 1) + duration (s.runs duration stop - 1)

/-- The state in which a scheduler stops. -/
def State.final (s : Scheduler) (duration : Nat → Nat) (stop : Nat)
    (refresh : Nat → World → World) (w : World) : State where
  phase := .stopped
  time := max (s.lastEnd duration stop) stop
  starts := s.starts duration stop
  world := afterFirst refresh w (s.runs duration stop)

theorem EndsAt.stopped (h : EndsAt s duration stop refresh w x) : x.phase = .stopped := by
  by_contra hphase
  obtain ⟨y, hy⟩ := exists_step s duration stop refresh hphase
  exact h.stuck y hy

theorem EndsAt.eq_final (hstop : ∀ n, s.due duration (n + 1) ≠ stop)
    (h : EndsAt s duration stop refresh w x) : x = .final s duration stop refresh w := by
  have hphase := h.stopped
  cases Stage.of_reaches hstop h.reached with
  | refreshing => cases hphase
  | waiting => cases hphase
  | stopped n hn hnext =>
    have hruns := runs_eq_of_isStarted hn hnext
    rw [State.final, (s.starts_eq duration stop).1, lastEnd, hruns, Nat.add_sub_cancel]

/-- What can be relied on of a scheduler that is told to stop at `stop`. -/
structure KeepsRhythm (s : Scheduler) (duration : Nat → Nat) (stop : Nat)
    (refresh : Nat → World → World) (w : World) : Prop where
  /-- The first refresh starts at once, and each other one an interval after the one before it has
  ended. -/
  starts : s.starts duration stop = s.firstDue duration (s.runs duration stop)
  /-- A later refresh is started just if it is due before the signal. -/
  started : ∀ n, n < s.runs duration stop ↔ n = 0 ∨ s.due duration n < stop
  /-- The scheduler does not go on forever. -/
  halts : Acc (fun y x => Step s duration stop refresh x y) (.start w)
  /-- It has started the refreshes listed and brought them to their end, and stops at the signal or
  when the refresh that was then under way has ended. -/
  endsAt_iff : ∀ x, EndsAt s duration stop refresh w x ↔ x = .final s duration stop refresh w
  /-- Refreshes that take no time are started once for each interval that begins before the
  signal. -/
  instantaneous : (∀ n, duration n = 0) →
    s.runs duration stop = max 1 (stop ⌈/⌉ s.interval)
  /-- If they are runs of a job, they amount to what as many single calls do. -/
  calls : ∀ job : RefreshJob, (∀ n w, refresh n w = (job.run w).2) →
    (State.final s duration stop refresh w).world =
        (fun w => (s.runOnce job w).2)^[s.runs duration stop] w ∧
      s.runAll job duration stop w = (fun w => (s.runOnce job w).2)^[s.runs duration stop] w

/-- A scheduler that is not told to stop just when a refresh is due keeps its rhythm. -/
theorem run_keeps_rhythm (hstop : ∀ n, s.due duration (n + 1) ≠ stop)
    (refresh : Nat → World → World) (w : World) : KeepsRhythm s duration stop refresh w where
  starts := (s.starts_eq duration stop).1
  started := (s.starts_eq duration stop).2
  halts := acc_step s duration stop refresh (.start w)
  endsAt_iff := by
    intro x
    constructor
    · exact EndsAt.eq_final hstop
    · rintro rfl
      obtain ⟨y, hy⟩ := exists_endsAt s duration stop refresh w
      exact hy.eq_final hstop ▸ hy
  instantaneous := runs_of_instantaneous
  calls := by
    intro job hrefresh
    have honce : (fun w => (s.runOnce job w).2) = fun w => (job.run w).2 := rfl
    refine ⟨?_, ?_⟩
    · simp only [State.final, afterFirst, hrefresh]
      rw [List.foldl_const, List.length_range, honce]
    · rw [runAll, List.foldl_const, ← runs, honce]

/-- The scheduler is told to stop during its second refresh, which goes on for some time. Each of
the two asks for the capabilities of the one layer and fails. -/
theorem run_keeps_rhythm_late :
    let s : Scheduler := ⟨10, by decide⟩
    let duration n := if n = 0 then 4 else 30
    let job : RefreshJob := { source := fun _ => { result := .error (.network "refused") } }
    let w : World := {
      layers := .ofList [{ id := 1, name := "roads", url := "maps", serviceType := .wms }] }
    (∀ n, s.due duration (n + 1) ≠ 25) ∧ s.runs duration 25 = 2 ∧ s.lastEnd duration 25 = 44 ∧
      KeepsRhythm s duration 25 (fun _ w => (job.run w).2) w ∧
      ((s.runAll job duration 25 w).requests.map (·.url) = ["maps", "maps"] ∧
        (s.runAll job duration 25 w).notices.length = 2) := by
  intro s duration job w
  have hstop : ∀ n, s.due duration (n + 1) ≠ 25 := by
    intro n
    cases n with
    | zero => decide
    | succ n =>
      have hlate : s.due duration 2 ≤ s.due duration (n + 1 + 1) :=
        (s.strictMono_due duration).monotone (by omega)
      have hsecond : s.due duration 2 = 54 := rfl
      omega
  have hruns : s.runs duration 25 = 2 := runs_eq_of_isStarted (.inr (by decide)) (by decide)
  have hrhythm := run_keeps_rhythm hstop (fun _ w => (job.run w).2) w
  obtain ⟨-, hall⟩ := hrhythm.calls job fun _ _ => rfl
  rw [hruns] at hall
  refine ⟨hstop, hruns, ?_, hrhythm, ?_⟩
  · rw [lastEnd, hruns]
    rfl
  · rw [hall]
    decide +kernel

end MapServices.Scheduler
