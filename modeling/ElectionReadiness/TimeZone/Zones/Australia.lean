import ElectionReadiness.TimeZone.History
import ElectionReadiness.TimeZone.Rules.Australasia

/-!
# Zones of Australia

The histories of the zones of Australia: for every regime its
offset of standard time, its way to keep summer time, and the reading of the wall
clock at its end.
-/

set_option autoImplicit false

namespace ElectionReadiness.TimeZone.Australia

def adelaide : ZoneHistory where
  past := [(⟨east 9 14 20, .fixed 0⟩, ⟨1895, .february, .on 1, hms 0 0 0⟩),
    (⟨east 9 0 0, .fixed 0⟩, ⟨1899, .may, .on 1, hms 0 0 0⟩),
    (⟨east 9 30 0, .following Rules.australia⟩, ⟨1971, .january, .on 1, hms 0 0 0⟩)]
  present := ⟨east 9 30 0, .following Rules.southAustralia⟩

def brisbane : ZoneHistory where
  past := [(⟨east 10 12 8, .fixed 0⟩, ⟨1895, .january, .on 1, hms 0 0 0⟩),
    (⟨east 10 0 0, .following Rules.australia⟩, ⟨1971, .january, .on 1, hms 0 0 0⟩)]
  present := ⟨east 10 0 0, .following Rules.queensland⟩

def brokenHill : ZoneHistory where
  past := [(⟨east 9 25 48, .fixed 0⟩, ⟨1895, .february, .on 1, hms 0 0 0⟩),
    (⟨east 10 0 0, .fixed 0⟩, ⟨1896, .august, .on 23, hms 0 0 0⟩),
    (⟨east 9 0 0, .fixed 0⟩, ⟨1899, .may, .on 1, hms 0 0 0⟩),
    (⟨east 9 30 0, .following Rules.australia⟩, ⟨1971, .january, .on 1, hms 0 0 0⟩),
    (⟨east 9 30 0, .following Rules.newSouthWales⟩, ⟨2000, .january, .on 1, hms 0 0 0⟩)]
  present := ⟨east 9 30 0, .following Rules.southAustralia⟩

def darwin : ZoneHistory where
  past := [(⟨east 8 43 20, .fixed 0⟩, ⟨1895, .february, .on 1, hms 0 0 0⟩),
    (⟨east 9 0 0, .fixed 0⟩, ⟨1899, .may, .on 1, hms 0 0 0⟩)]
  present := ⟨east 9 30 0, .following Rules.australia⟩

def eucla : ZoneHistory where
  past := [(⟨east 8 35 28, .fixed 0⟩, ⟨1895, .december, .on 1, hms 0 0 0⟩),
    (⟨east 8 45 0, .following Rules.australia⟩, ⟨1943, .july, .on 1, hms 0 0 0⟩)]
  present := ⟨east 8 45 0, .following Rules.westernAustralia⟩

def hobart : ZoneHistory where
  past := [(⟨east 9 49 16, .fixed 0⟩, ⟨1895, .september, .on 1, hms 0 0 0⟩),
    (⟨east 10 0 0, .following Rules.tasmania⟩, ⟨1919, .october, .on 24, hms 0 0 0⟩),
    (⟨east 10 0 0, .following Rules.australia⟩, ⟨1967, .january, .on 1, hms 0 0 0⟩)]
  present := ⟨east 10 0 0, .following Rules.tasmania⟩

def lindeman : ZoneHistory where
  past := [(⟨east 9 55 56, .fixed 0⟩, ⟨1895, .january, .on 1, hms 0 0 0⟩),
    (⟨east 10 0 0, .following Rules.australia⟩, ⟨1971, .january, .on 1, hms 0 0 0⟩),
    (⟨east 10 0 0, .following Rules.queensland⟩, ⟨1992, .july, .on 1, hms 0 0 0⟩)]
  present := ⟨east 10 0 0, .following Rules.holidayIslands⟩

def lordHowe : ZoneHistory where
  past := [(⟨east 10 36 20, .fixed 0⟩, ⟨1895, .february, .on 1, hms 0 0 0⟩),
    (⟨east 10 0 0, .fixed 0⟩, ⟨1981, .march, .on 1, hms 0 0 0⟩),
    (⟨east 10 30 0, .following Rules.lordHowe⟩, ⟨1985, .july, .on 1, hms 0 0 0⟩)]
  present := ⟨east 10 30 0, .following Rules.lordHowe⟩

def melbourne : ZoneHistory where
  past := [(⟨east 9 39 52, .fixed 0⟩, ⟨1895, .february, .on 1, hms 0 0 0⟩),
    (⟨east 10 0 0, .following Rules.australia⟩, ⟨1971, .january, .on 1, hms 0 0 0⟩)]
  present := ⟨east 10 0 0, .following Rules.victoria⟩

def perth : ZoneHistory where
  past := [(⟨east 7 43 24, .fixed 0⟩, ⟨1895, .december, .on 1, hms 0 0 0⟩),
    (⟨east 8 0 0, .following Rules.australia⟩, ⟨1943, .july, .on 1, hms 0 0 0⟩)]
  present := ⟨east 8 0 0, .following Rules.westernAustralia⟩

def sydney : ZoneHistory where
  past := [(⟨east 10 4 52, .fixed 0⟩, ⟨1895, .february, .on 1, hms 0 0 0⟩),
    (⟨east 10 0 0, .following Rules.australia⟩, ⟨1971, .january, .on 1, hms 0 0 0⟩)]
  present := ⟨east 10 0 0, .following Rules.newSouthWales⟩

end ElectionReadiness.TimeZone.Australia
