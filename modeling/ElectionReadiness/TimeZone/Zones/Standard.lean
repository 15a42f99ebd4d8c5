import ElectionReadiness.TimeZone.History
import ElectionReadiness.TimeZone.Rules.Europe
import ElectionReadiness.TimeZone.Rules.NorthAmerica

/-!
# Zones of standard times

The histories of the zones of standard times: for every regime its
offset of standard time, its way to keep summer time, and the reading of the wall
clock at its end.
-/

set_option autoImplicit false

namespace ElectionReadiness.TimeZone.Standard

def cet : ZoneHistory where
  past := []
  present := ⟨east 1 0 0, .following Rules.centralEurope⟩

def cst6cdt : ZoneHistory where
  past := []
  present := ⟨west 6 0 0, .following Rules.unitedStates⟩

def eet : ZoneHistory where
  past := []
  present := ⟨east 2 0 0, .following Rules.europeanUnion⟩

def est : ZoneHistory := .constant (west 5 0 0)

def est5edt : ZoneHistory where
  past := []
  present := ⟨west 5 0 0, .following Rules.unitedStates⟩

def hst : ZoneHistory := .constant (west 10 0 0)

def met : ZoneHistory where
  past := []
  present := ⟨east 1 0 0, .following Rules.centralEurope⟩

def mst : ZoneHistory := .constant (west 7 0 0)

def mst7mdt : ZoneHistory where
  past := []
  present := ⟨west 7 0 0, .following Rules.unitedStates⟩

def pst8pdt : ZoneHistory where
  past := []
  present := ⟨west 8 0 0, .following Rules.unitedStates⟩

def wet : ZoneHistory where
  past := []
  present := ⟨east 0 0 0, .following Rules.europeanUnion⟩

end ElectionReadiness.TimeZone.Standard
