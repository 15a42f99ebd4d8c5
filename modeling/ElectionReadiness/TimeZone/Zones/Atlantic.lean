import ElectionReadiness.TimeZone.History
import ElectionReadiness.TimeZone.Rules.Europe
import ElectionReadiness.TimeZone.Rules.NorthAmerica
import ElectionReadiness.TimeZone.Rules.SouthAmerica

/-!
# Zones of the Atlantic

The histories of the zones of the Atlantic: for every regime its
offset of standard time, its way to keep summer time, and the reading of the wall
clock at its end.
-/

set_option autoImplicit false

namespace ElectionReadiness.TimeZone.Atlantic

def azores : ZoneHistory where
  past := [(⟨west 1 42 40, .fixed 0⟩, ⟨1884, .january, .on 1, hms 0 0 0⟩),
    (⟨west 1 54 32, .fixed 0⟩, ⟨1912, .january, .on 1, hms 2 0 0⟩),
    (⟨west 2 0 0, .following Rules.portugal⟩, ⟨1942, .april, .on 25, hms 22 0 0⟩),
    (⟨west 2 0 0, .following Rules.portugal⟩, ⟨1942, .august, .on 15, hms 22 0 0⟩),
    (⟨west 2 0 0, .following Rules.portugal⟩, ⟨1943, .april, .on 17, hms 22 0 0⟩),
    (⟨west 2 0 0, .following Rules.portugal⟩, ⟨1943, .august, .on 28, hms 22 0 0⟩),
    (⟨west 2 0 0, .following Rules.portugal⟩, ⟨1944, .april, .on 22, hms 22 0 0⟩),
    (⟨west 2 0 0, .following Rules.portugal⟩, ⟨1944, .august, .on 26, hms 22 0 0⟩),
    (⟨west 2 0 0, .following Rules.portugal⟩, ⟨1945, .april, .on 21, hms 22 0 0⟩),
    (⟨west 2 0 0, .following Rules.portugal⟩, ⟨1945, .august, .on 25, hms 22 0 0⟩),
    (⟨west 2 0 0, .following Rules.portugal⟩, ⟨1966, .april, .on 3, hms 2 0 0⟩),
    (⟨west 1 0 0, .following Rules.portugal⟩, ⟨1983, .september, .on 25, hms 1 0 0⟩),
    (⟨west 1 0 0, .following Rules.westernEurope⟩, ⟨1992, .september, .on 27, hms 1 0 0⟩),
    (⟨east 0 0 0, .following Rules.europeanUnion⟩, ⟨1993, .march, .on 28, hms 1 0 0⟩)]
  present := ⟨west 1 0 0, .following Rules.europeanUnion⟩

def bermuda : ZoneHistory where
  past := [(⟨west 4 19 18, .fixed 0⟩, ⟨1890, .january, .on 1, hms 0 0 0⟩),
    (⟨west 4 19 18, .following Rules.bermuda⟩, ⟨1930, .january, .on 1, hms 2 0 0⟩),
    (⟨west 4 0 0, .following Rules.bermuda⟩, ⟨1974, .april, .on 28, hms 2 0 0⟩),
    (⟨west 4 0 0, .following Rules.canada⟩, ⟨1976, .january, .on 1, hms 0 0 0⟩)]
  present := ⟨west 4 0 0, .following Rules.unitedStates⟩

def canary : ZoneHistory where
  past := [(⟨west 1 1 36, .fixed 0⟩, ⟨1922, .march, .on 1, hms 0 0 0⟩),
    (⟨west 1 0 0, .fixed 0⟩, ⟨1946, .september, .on 30, hms 1 0 0⟩),
    (⟨east 0 0 0, .fixed 0⟩, ⟨1980, .april, .on 6, hms 0 0 0⟩),
    (⟨east 0 0 0, .fixed 60⟩, ⟨1980, .september, .on 28, hms 1 0 0⟩)]
  present := ⟨east 0 0 0, .following Rules.europeanUnion⟩

def capeVerde : ZoneHistory where
  past := [(⟨west 1 34 4, .fixed 0⟩, ⟨1912, .january, .on 1, hms 2 0 0⟩),
    (⟨west 2 0 0, .fixed 0⟩, ⟨1942, .september, .on 1, hms 0 0 0⟩),
    (⟨west 2 0 0, .fixed 60⟩, ⟨1945, .october, .on 15, hms 0 0 0⟩),
    (⟨west 2 0 0, .fixed 0⟩, ⟨1975, .november, .on 25, hms 2 0 0⟩)]
  present := ⟨west 1 0 0, .fixed 0⟩

def faroe : ZoneHistory where
  past := [(⟨west 0 27 4, .fixed 0⟩, ⟨1908, .january, .on 11, hms 0 0 0⟩),
    (⟨east 0 0 0, .fixed 0⟩, ⟨1981, .january, .on 1, hms 0 0 0⟩)]
  present := ⟨east 0 0 0, .following Rules.europeanUnion⟩

def madeira : ZoneHistory where
  past := [(⟨west 1 7 36, .fixed 0⟩, ⟨1884, .january, .on 1, hms 0 0 0⟩),
    (⟨west 1 7 36, .fixed 0⟩, ⟨1912, .january, .on 1, hms 1 0 0⟩),
    (⟨west 1 0 0, .following Rules.portugal⟩, ⟨1942, .april, .on 25, hms 22 0 0⟩),
    (⟨west 1 0 0, .following Rules.portugal⟩, ⟨1942, .august, .on 15, hms 22 0 0⟩),
    (⟨west 1 0 0, .following Rules.portugal⟩, ⟨1943, .april, .on 17, hms 22 0 0⟩),
    (⟨west 1 0 0, .following Rules.portugal⟩, ⟨1943, .august, .on 28, hms 22 0 0⟩),
    (⟨west 1 0 0, .following Rules.portugal⟩, ⟨1944, .april, .on 22, hms 22 0 0⟩),
    (⟨west 1 0 0, .following Rules.portugal⟩, ⟨1944, .august, .on 26, hms 22 0 0⟩),
    (⟨west 1 0 0, .following Rules.portugal⟩, ⟨1945, .april, .on 21, hms 22 0 0⟩),
    (⟨west 1 0 0, .following Rules.portugal⟩, ⟨1945, .august, .on 25, hms 22 0 0⟩),
    (⟨west 1 0 0, .following Rules.portugal⟩, ⟨1966, .april, .on 3, hms 2 0 0⟩),
    (⟨east 0 0 0, .following Rules.portugal⟩, ⟨1983, .september, .on 25, hms 1 0 0⟩)]
  present := ⟨east 0 0 0, .following Rules.europeanUnion⟩

def southGeorgia : ZoneHistory where
  past := [(⟨west 2 26 8, .fixed 0⟩, ⟨1890, .january, .on 1, hms 0 0 0⟩)]
  present := ⟨west 2 0 0, .fixed 0⟩

def stanley : ZoneHistory where
  past := [(⟨west 3 51 24, .fixed 0⟩, ⟨1890, .january, .on 1, hms 0 0 0⟩),
    (⟨west 3 51 24, .fixed 0⟩, ⟨1912, .march, .on 12, hms 0 0 0⟩),
    (⟨west 4 0 0, .following Rules.falklands⟩, ⟨1983, .may, .on 1, hms 0 0 0⟩),
    (⟨west 3 0 0, .following Rules.falklands⟩, ⟨1985, .september, .on 15, hms 0 0 0⟩),
    (⟨west 4 0 0, .following Rules.falklands⟩, ⟨2010, .september, .on 5, hms 2 0 0⟩)]
  present := ⟨west 3 0 0, .fixed 0⟩

end ElectionReadiness.TimeZone.Atlantic
