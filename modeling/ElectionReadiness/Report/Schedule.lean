import ElectionReadiness.Notice
import ElectionReadiness.Setup.Document
import ElectionReadiness.TimeZone.Lookup

/-!
# The schedule of an election

The windows of the phases as universal times.  A time that the clocks of the zone never
show has none, and a notice warns of it.
-/

set_option autoImplicit false

namespace ElectionReadiness

/-- The window of a phase in universal time. -/
structure ScheduledPhase where
  phase : Phase
  opens : Option CivilTime
  closes : Option CivilTime
  deriving DecidableEq

namespace Timing

/-- The window of a phase, without ends if there is none. -/
def windowOf (timing : Timing) (phase : Phase) : Window := (timing.window phase).getD {}

/-- The universal time of one end of a window. -/
def universal? (timing : Timing) (written : Option String) : Option CivilTime :=
  (written.bind CivilTime.read?).bind (TimeZone.resolve timing.timeZone)

/-- The warning of one end of a window. -/
def warnings (timing : Timing) (phase : Phase) (written : Option String) : List Notice :=
  match written.bind CivilTime.read? with
  | none => []
  | some time =>
    if (TimeZone.resolve timing.timeZone time).isSome then []
    else [.skippedTime phase time timing.timeZone]

/-- One phase in universal time. -/
def scheduledPhase (timing : Timing) (phase : Phase) : ScheduledPhase where
  phase := phase
  opens := timing.universal? (timing.windowOf phase).opens
  closes := timing.universal? (timing.windowOf phase).closes

/-- All phases in universal time. -/
def schedule (timing : Timing) : List ScheduledPhase := Phase.all.map timing.scheduledPhase

/-- The warnings of all phases, of each opening before its closing. -/
def scheduleWarnings (timing : Timing) : List Notice :=
  Phase.all.flatMap fun phase =>
    timing.warnings phase (timing.windowOf phase).opens
      ++ timing.warnings phase (timing.windowOf phase).closes

end Timing

end ElectionReadiness
