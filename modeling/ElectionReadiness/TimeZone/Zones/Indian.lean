import ElectionReadiness.TimeZone.History
import ElectionReadiness.TimeZone.Rules.Africa

/-!
# Zones of the Indian Ocean

The histories of the zones of the Indian Ocean: for every regime its
offset of standard time, its way to keep summer time, and the reading of the wall
clock at its end.
-/

set_option autoImplicit false

namespace ElectionReadiness.TimeZone.Indian

def chagos : ZoneHistory where
  past := [(⟨east 4 49 40, .fixed 0⟩, ⟨1907, .january, .on 1, hms 0 0 0⟩),
    (⟨east 5 0 0, .fixed 0⟩, ⟨1996, .january, .on 1, hms 0 0 0⟩)]
  present := ⟨east 6 0 0, .fixed 0⟩

def maldives : ZoneHistory where
  past := [(⟨east 4 54 0, .fixed 0⟩, ⟨1880, .january, .on 1, hms 0 0 0⟩),
    (⟨east 4 54 0, .fixed 0⟩, ⟨1960, .january, .on 1, hms 0 0 0⟩)]
  present := ⟨east 5 0 0, .fixed 0⟩

def mauritius : ZoneHistory where
  past := [(⟨east 3 50 0, .fixed 0⟩, ⟨1907, .january, .on 1, hms 0 0 0⟩)]
  present := ⟨east 4 0 0, .following Rules.mauritius⟩

end ElectionReadiness.TimeZone.Indian
