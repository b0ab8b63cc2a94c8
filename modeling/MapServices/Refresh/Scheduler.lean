import MapServices.Refresh.Job

/-!
# Refreshing at intervals

A scheduler refreshes all layers at once when it starts, and then again one interval after each
refresh has ended. It stops at the first moment of waiting at which it was told to: a refresh that
is under way is finished, and no other is started.

* `Scheduler.starts` lists the times at which refreshes start.
-/

namespace MapServices

/-- A rhythm of refreshes. -/
structure Scheduler where
  /-- The time from the end of a refresh to the start of the next one. -/
  interval : Nat
  interval_pos : 0 < interval

namespace Scheduler

/-- The scheduler with the given interval, or the shortest one for an interval of zero. -/
def ofInterval (interval : Nat) : Scheduler := ⟨max interval 1, by omega⟩

/-- The times at which refreshes start, from one that starts at `time` on. The `n`-th refresh takes
`duration n`, and the scheduler is told to stop at `stop`. -/
def startsFrom (s : Scheduler) (duration : Nat → Nat) (stop : Nat) (n time : Nat) : List Nat :=
  let next := time + duration n + s.interval
  if next < stop then time :: s.startsFrom duration stop (n + 1) next else [time]
termination_by stop - time
decreasing_by
  have := s.interval_pos
  omega

/-- The times at which refreshes start. -/
def starts (s : Scheduler) (duration : Nat → Nat) (stop : Nat) : List Nat :=
  s.startsFrom duration stop 0 0

/-- Refreshes once. -/
def runOnce (_ : Scheduler) (job : RefreshJob) (w : World) : RefreshSummary × World := job.run w

/-- Refreshes at all times of the schedule. -/
def runAll (s : Scheduler) (job : RefreshJob) (duration : Nat → Nat) (stop : Nat) (w : World) :
    World :=
  (s.starts duration stop).foldl (fun w _ => (job.run w).2) w

end Scheduler

end MapServices
