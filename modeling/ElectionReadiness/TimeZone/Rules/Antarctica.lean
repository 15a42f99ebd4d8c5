import ElectionReadiness.TimeZone.YearlyChange

/-!
# Summer time rules of Antarctica

The yearly changes of the clock that places in Antarctica have followed.  Every line is
one rule: its years, month, day, time of day, and the minutes the clock is then
put ahead of standard time.
-/

set_option autoImplicit false

namespace ElectionReadiness.TimeZone.Rules

/-- Summer time in Troll station. -/
def troll : List YearlyChange := [
  ⟨.since 2005, .march, .last .sunday, .universal 1 0, 120⟩,
  ⟨.since 2004, .october, .last .sunday, .universal 1 0, 0⟩]

end ElectionReadiness.TimeZone.Rules
