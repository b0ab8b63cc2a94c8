import MapServices.World

/-!
# Schedules

Calls that overlap are numbered. A schedule says which of them takes the next step, and what the
outside contributes to that step.
-/

namespace MapServices

/-- A step of a schedule: which call takes it, and at which moment. -/
abbrev ScheduledStep := Nat × Moment

/-- The moments at which a schedule lets a call take steps. -/
def momentsOf (schedule : List ScheduledStep) (i : Nat) : List Moment :=
  (schedule.filter (·.1 = i)).map Prod.snd

end MapServices
