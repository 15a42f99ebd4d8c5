import ElectionReadiness.TimeZone.History
import ElectionReadiness.TimeZone.Rules.Antarctica
import ElectionReadiness.TimeZone.Rules.Australasia
import ElectionReadiness.TimeZone.Rules.SouthAmerica

/-!
# Zones of Antarctica

The histories of the zones of Antarctica: for every regime its
offset of standard time, its way to keep summer time, and the reading of the wall
clock at its end.
-/

set_option autoImplicit false

namespace ElectionReadiness.TimeZone.Antarctica

def casey : ZoneHistory where
  past := [(⟨east 0 0 0, .fixed 0⟩, ⟨1969, .january, .on 1, hms 0 0 0⟩),
    (⟨east 8 0 0, .fixed 0⟩, ⟨2009, .october, .on 18, hms 2 0 0⟩),
    (⟨east 11 0 0, .fixed 0⟩, ⟨2010, .march, .on 5, hms 2 0 0⟩),
    (⟨east 8 0 0, .fixed 0⟩, ⟨2011, .october, .on 28, hms 2 0 0⟩),
    (⟨east 11 0 0, .fixed 0⟩, ⟨2012, .february, .on 21, hms 17 0 0⟩),
    (⟨east 8 0 0, .fixed 0⟩, ⟨2016, .october, .on 22, hms 0 0 0⟩),
    (⟨east 11 0 0, .fixed 0⟩, ⟨2018, .march, .on 11, hms 4 0 0⟩),
    (⟨east 8 0 0, .fixed 0⟩, ⟨2018, .october, .on 7, hms 4 0 0⟩),
    (⟨east 11 0 0, .fixed 0⟩, ⟨2019, .march, .on 17, hms 3 0 0⟩),
    (⟨east 8 0 0, .fixed 0⟩, ⟨2019, .october, .on 4, hms 3 0 0⟩),
    (⟨east 11 0 0, .fixed 0⟩, ⟨2020, .march, .on 8, hms 3 0 0⟩),
    (⟨east 8 0 0, .fixed 0⟩, ⟨2020, .october, .on 4, hms 0 1 0⟩),
    (⟨east 11 0 0, .fixed 0⟩, ⟨2021, .march, .on 14, hms 0 0 0⟩),
    (⟨east 8 0 0, .fixed 0⟩, ⟨2021, .october, .on 3, hms 0 1 0⟩),
    (⟨east 11 0 0, .fixed 0⟩, ⟨2022, .march, .on 13, hms 0 0 0⟩),
    (⟨east 8 0 0, .fixed 0⟩, ⟨2022, .october, .on 2, hms 0 1 0⟩),
    (⟨east 11 0 0, .fixed 0⟩, ⟨2023, .march, .on 9, hms 3 0 0⟩)]
  present := ⟨east 8 0 0, .fixed 0⟩

def davis : ZoneHistory where
  past := [(⟨east 0 0 0, .fixed 0⟩, ⟨1957, .january, .on 13, hms 0 0 0⟩),
    (⟨east 7 0 0, .fixed 0⟩, ⟨1964, .november, .on 1, hms 0 0 0⟩),
    (⟨east 0 0 0, .fixed 0⟩, ⟨1969, .february, .on 1, hms 0 0 0⟩),
    (⟨east 7 0 0, .fixed 0⟩, ⟨2009, .october, .on 18, hms 2 0 0⟩),
    (⟨east 5 0 0, .fixed 0⟩, ⟨2010, .march, .on 10, hms 20 0 0⟩),
    (⟨east 7 0 0, .fixed 0⟩, ⟨2011, .october, .on 28, hms 2 0 0⟩),
    (⟨east 5 0 0, .fixed 0⟩, ⟨2012, .february, .on 21, hms 20 0 0⟩)]
  present := ⟨east 7 0 0, .fixed 0⟩

def macquarie : ZoneHistory where
  past := [(⟨east 0 0 0, .fixed 0⟩, ⟨1899, .november, .on 1, hms 0 0 0⟩),
    (⟨east 10 0 0, .fixed 0⟩, ⟨1916, .october, .on 1, hms 2 0 0⟩),
    (⟨east 10 0 0, .fixed 60⟩, ⟨1917, .february, .on 1, hms 0 0 0⟩),
    (⟨east 10 0 0, .following Rules.australia⟩, ⟨1919, .april, .on 1, hms 0 0 0⟩),
    (⟨east 0 0 0, .fixed 0⟩, ⟨1948, .march, .on 25, hms 0 0 0⟩),
    (⟨east 10 0 0, .following Rules.australia⟩, ⟨1967, .january, .on 1, hms 0 0 0⟩),
    (⟨east 10 0 0, .following Rules.tasmania⟩, ⟨2010, .january, .on 1, hms 0 0 0⟩),
    (⟨east 10 0 0, .fixed 60⟩, ⟨2011, .january, .on 1, hms 0 0 0⟩)]
  present := ⟨east 10 0 0, .following Rules.tasmania⟩

def mawson : ZoneHistory where
  past := [(⟨east 0 0 0, .fixed 0⟩, ⟨1954, .february, .on 13, hms 0 0 0⟩),
    (⟨east 6 0 0, .fixed 0⟩, ⟨2009, .october, .on 18, hms 2 0 0⟩)]
  present := ⟨east 5 0 0, .fixed 0⟩

def palmer : ZoneHistory where
  past := [(⟨east 0 0 0, .fixed 0⟩, ⟨1965, .january, .on 1, hms 0 0 0⟩),
    (⟨west 4 0 0, .following Rules.argentina⟩, ⟨1969, .october, .on 5, hms 0 0 0⟩),
    (⟨west 3 0 0, .following Rules.argentina⟩, ⟨1982, .may, .on 1, hms 0 0 0⟩),
    (⟨west 4 0 0, .following Rules.chile⟩, ⟨2016, .december, .on 4, hms 0 0 0⟩)]
  present := ⟨west 3 0 0, .fixed 0⟩

def rothera : ZoneHistory where
  past := [(⟨east 0 0 0, .fixed 0⟩, ⟨1976, .december, .on 1, hms 0 0 0⟩)]
  present := ⟨west 3 0 0, .fixed 0⟩

def troll : ZoneHistory where
  past := [(⟨east 0 0 0, .fixed 0⟩, ⟨2005, .february, .on 12, hms 0 0 0⟩)]
  present := ⟨east 0 0 0, .following Rules.troll⟩

def vostok : ZoneHistory where
  past := [(⟨east 0 0 0, .fixed 0⟩, ⟨1957, .december, .on 16, hms 0 0 0⟩),
    (⟨east 7 0 0, .fixed 0⟩, ⟨1994, .february, .on 1, hms 0 0 0⟩),
    (⟨east 0 0 0, .fixed 0⟩, ⟨1994, .november, .on 1, hms 0 0 0⟩),
    (⟨east 7 0 0, .fixed 0⟩, ⟨2023, .december, .on 18, hms 2 0 0⟩)]
  present := ⟨east 5 0 0, .fixed 0⟩

end ElectionReadiness.TimeZone.Antarctica
