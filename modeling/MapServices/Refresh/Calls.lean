import MapServices.Refresh.Phase
import MapServices.Schedule

/-!
# Overlapping calls for a refresh

Any number of calls of one job share a world, and take their steps in any order. The time and the
answers of the source may be different at each step.

* `RefreshCalls.run` carries out a schedule of steps.
* `RefreshCalls.serial` runs calls one after the other.
-/

namespace MapServices

namespace RefreshPhase

/-- Whether the refresh has found no other one under way and has not ended yet. -/
def isUnderWay : RefreshPhase → Bool
  | starting | finished _ => false
  | _ => true

/-- One step of a refresh at a given moment. -/
def stepAt (job : RefreshJob) (m : Moment) (s : RefreshPhase × World) : RefreshPhase × World :=
  s.1.step { job with source := m.source } { s.2 with now := m.now }

/-- Steps of one refresh at the given moments, while no other call takes a step. -/
def stepsAt (job : RefreshJob) (ms : List Moment) (s : RefreshPhase × World) :
    RefreshPhase × World :=
  ms.foldl (fun s m => stepAt job m s) s

end RefreshPhase

/-- Calls of one job, of which any number may be asked for. -/
structure RefreshCalls where
  world : World
  /-- Where each call stands. -/
  phase : Nat → RefreshPhase := fun _ => .starting
  /-- The calls that found no other refresh under way, in the order in which they did. -/
  admitted : List Nat := []

namespace RefreshCalls

/-- One call takes one step. -/
def step (job : RefreshJob) (s : RefreshCalls) (e : ScheduledStep) : RefreshCalls :=
  let (p, w) := RefreshPhase.stepAt job e.2 (s.phase e.1, s.world)
  { world := w
    phase := fun j => if j = e.1 then p else s.phase j
    admitted :=
      match s.phase e.1 with
      | .starting => if s.world.refreshing then s.admitted else s.admitted ++ [e.1]
      | _ => s.admitted }

/-- All steps of a schedule. -/
def run (job : RefreshJob) (w : World) (schedule : List ScheduledStep) : RefreshCalls :=
  schedule.foldl (step job) { world := w }

/-- Runs calls one after the other, each at its own moments. -/
def serial (job : RefreshJob) (moments : Nat → List Moment) (calls : List Nat) (w : World) :
    World :=
  calls.foldl (fun w i => (RefreshPhase.stepsAt job (moments i) (.starting, w)).2) w

end RefreshCalls

end MapServices
