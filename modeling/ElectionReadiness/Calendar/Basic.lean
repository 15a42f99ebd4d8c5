/-!
# Calendars

What the check of the timing needs from a calendar: which names are time zones,
and which texts are timestamps.  Timestamps stand for instants, which need no
more than an order of their own.
-/

set_option autoImplicit false

namespace ElectionReadiness

/-- A calendar with instants of type `Instant`. -/
structure Calendar (Instant : Type) where
  /-- The name of a time zone. -/
  isTimeZone : String → Bool
  /-- The instant of a timestamp, none if it is malformed. -/
  instant? : String → Option Instant

end ElectionReadiness
