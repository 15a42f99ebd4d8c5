import ElectionReadiness.Calendar.Basic
import ElectionReadiness.Calendar.CivilTime.Reader
import ElectionReadiness.TimeZone.Catalog

/-!
# Looking up time zones

Zones are known by their exact names.  `TimeZone.namesFrom` offers the names
that begin with a text, in the order of the catalog, and `TimeZone.resolve` reads
a civil time as a universal time in a named zone.  `Calendar.civil` is the
calendar of these zones and of the civil times.
-/

set_option autoImplicit false

namespace ElectionReadiness

namespace TimeZone

/-- All names of zones. -/
def names : List String := catalog.map Prod.fst

/-- The name of a zone. -/
def isName (name : String) : Bool := names.contains name

/-- The history of the zone of a name. -/
def history? (name : String) : Option ZoneHistory := catalog.lookup name

/-- The names that begin with a text. -/
def namesFrom (start : String) : List String :=
  names.filter fun name => start.toList.isPrefixOf name.toList

/-- The earliest universal time at which the clocks of a zone show a civil time;
none if they never do, or if there is no such zone. -/
def resolve (zone : String) (civil : CivilTime) : Option CivilTime :=
  (history? zone).bind fun history => history.timeline.resolve civil

end TimeZone

/-- The calendar of the civil times in the zones of the catalog. -/
def Calendar.civil : Calendar CivilTime where
  isTimeZone := TimeZone.isName
  instant? := CivilTime.read?

end ElectionReadiness
