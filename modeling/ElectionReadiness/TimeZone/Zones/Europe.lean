import ElectionReadiness.TimeZone.History
import ElectionReadiness.TimeZone.Rules.Europe

/-!
# Zones of Europe

The histories of the zones of Europe: for every regime its
offset of standard time, its way to keep summer time, and the reading of the wall
clock at its end.
-/

set_option autoImplicit false

namespace ElectionReadiness.TimeZone.Europe

def andorra : ZoneHistory where
  past := [(⟨east 0 6 4, .fixed 0⟩, ⟨1901, .january, .on 1, hms 0 0 0⟩),
    (⟨east 0 0 0, .fixed 0⟩, ⟨1946, .september, .on 30, hms 0 0 0⟩),
    (⟨east 1 0 0, .fixed 0⟩, ⟨1985, .march, .on 31, hms 2 0 0⟩)]
  present := ⟨east 1 0 0, .following Rules.europeanUnion⟩

def astrakhan : ZoneHistory where
  past := [(⟨east 3 12 12, .fixed 0⟩, ⟨1924, .may, .on 1, hms 0 0 0⟩),
    (⟨east 3 0 0, .fixed 0⟩, ⟨1930, .june, .on 21, hms 0 0 0⟩),
    (⟨east 4 0 0, .following Rules.russia⟩, ⟨1989, .march, .on 26, hms 2 0 0⟩),
    (⟨east 3 0 0, .following Rules.russia⟩, ⟨1991, .march, .on 31, hms 2 0 0⟩),
    (⟨east 4 0 0, .fixed 0⟩, ⟨1992, .march, .on 29, hms 2 0 0⟩),
    (⟨east 3 0 0, .following Rules.russia⟩, ⟨2011, .march, .on 27, hms 2 0 0⟩),
    (⟨east 4 0 0, .fixed 0⟩, ⟨2014, .october, .on 26, hms 2 0 0⟩),
    (⟨east 3 0 0, .fixed 0⟩, ⟨2016, .march, .on 27, hms 2 0 0⟩)]
  present := ⟨east 4 0 0, .fixed 0⟩

def athens : ZoneHistory where
  past := [(⟨east 1 34 52, .fixed 0⟩, ⟨1895, .september, .on 14, hms 0 0 0⟩),
    (⟨east 1 34 52, .fixed 0⟩, ⟨1916, .july, .on 28, hms 0 1 0⟩),
    (⟨east 2 0 0, .following Rules.greece⟩, ⟨1941, .april, .on 30, hms 0 0 0⟩),
    (⟨east 1 0 0, .following Rules.greece⟩, ⟨1944, .april, .on 4, hms 0 0 0⟩),
    (⟨east 2 0 0, .following Rules.greece⟩, ⟨1981, .january, .on 1, hms 0 0 0⟩)]
  present := ⟨east 2 0 0, .following Rules.europeanUnion⟩

def belgrade : ZoneHistory where
  past := [(⟨east 1 22 0, .fixed 0⟩, ⟨1884, .january, .on 1, hms 0 0 0⟩),
    (⟨east 1 0 0, .fixed 0⟩, ⟨1941, .april, .on 18, hms 23 0 0⟩),
    (⟨east 1 0 0, .following Rules.centralEurope⟩, ⟨1945, .january, .on 1, hms 0 0 0⟩),
    (⟨east 1 0 0, .fixed 0⟩, ⟨1945, .may, .on 8, hms 2 0 0⟩),
    (⟨east 1 0 0, .fixed 60⟩, ⟨1945, .september, .on 16, hms 2 0 0⟩),
    (⟨east 1 0 0, .fixed 0⟩, ⟨1982, .november, .on 27, hms 0 0 0⟩)]
  present := ⟨east 1 0 0, .following Rules.europeanUnion⟩

def berlin : ZoneHistory where
  past := [(⟨east 0 53 28, .fixed 0⟩, ⟨1893, .april, .on 1, hms 0 0 0⟩),
    (⟨east 1 0 0, .following Rules.centralEurope⟩, ⟨1945, .may, .on 24, hms 2 0 0⟩),
    (⟨east 1 0 0, .following Rules.sovietBerlin⟩, ⟨1946, .january, .on 1, hms 0 0 0⟩),
    (⟨east 1 0 0, .following Rules.germany⟩, ⟨1980, .january, .on 1, hms 0 0 0⟩)]
  present := ⟨east 1 0 0, .following Rules.europeanUnion⟩

def brussels : ZoneHistory where
  past := [(⟨east 0 17 30, .fixed 0⟩, ⟨1880, .january, .on 1, hms 0 0 0⟩),
    (⟨east 0 17 30, .fixed 0⟩, ⟨1892, .may, .on 1, hms 0 17 30⟩),
    (⟨east 0 0 0, .fixed 0⟩, ⟨1914, .november, .on 8, hms 0 0 0⟩),
    (⟨east 1 0 0, .fixed 0⟩, ⟨1916, .may, .on 1, hms 0 0 0⟩),
    (⟨east 1 0 0, .following Rules.centralEurope⟩, ⟨1918, .november, .on 11, hms 11 0 0⟩),
    (⟨east 0 0 0, .following Rules.belgium⟩, ⟨1940, .may, .on 20, hms 2 0 0⟩),
    (⟨east 1 0 0, .following Rules.centralEurope⟩, ⟨1944, .september, .on 3, hms 0 0 0⟩),
    (⟨east 1 0 0, .following Rules.belgium⟩, ⟨1977, .january, .on 1, hms 0 0 0⟩)]
  present := ⟨east 1 0 0, .following Rules.europeanUnion⟩

def bucharest : ZoneHistory where
  past := [(⟨east 1 44 24, .fixed 0⟩, ⟨1891, .october, .on 1, hms 0 0 0⟩),
    (⟨east 1 44 24, .fixed 0⟩, ⟨1931, .july, .on 24, hms 0 0 0⟩),
    (⟨east 2 0 0, .following Rules.romania⟩, ⟨1981, .march, .on 29, hms 2 0 0⟩),
    (⟨east 2 0 0, .following Rules.centralEurope⟩, ⟨1991, .january, .on 1, hms 0 0 0⟩),
    (⟨east 2 0 0, .following Rules.romania⟩, ⟨1994, .january, .on 1, hms 0 0 0⟩),
    (⟨east 2 0 0, .following Rules.easternEurope⟩, ⟨1997, .january, .on 1, hms 0 0 0⟩)]
  present := ⟨east 2 0 0, .following Rules.europeanUnion⟩

def budapest : ZoneHistory where
  past := [(⟨east 1 16 20, .fixed 0⟩, ⟨1890, .november, .on 1, hms 0 0 0⟩),
    (⟨east 1 0 0, .following Rules.centralEurope⟩, ⟨1918, .january, .on 1, hms 0 0 0⟩),
    (⟨east 1 0 0, .following Rules.hungary⟩, ⟨1941, .april, .on 7, hms 23 0 0⟩),
    (⟨east 1 0 0, .following Rules.centralEurope⟩, ⟨1945, .january, .on 1, hms 0 0 0⟩),
    (⟨east 1 0 0, .following Rules.hungary⟩, ⟨1984, .january, .on 1, hms 0 0 0⟩)]
  present := ⟨east 1 0 0, .following Rules.europeanUnion⟩

def chisinau : ZoneHistory where
  past := [(⟨east 1 55 20, .fixed 0⟩, ⟨1880, .january, .on 1, hms 0 0 0⟩),
    (⟨east 1 55 0, .fixed 0⟩, ⟨1918, .february, .on 15, hms 0 0 0⟩),
    (⟨east 1 44 24, .fixed 0⟩, ⟨1931, .july, .on 24, hms 0 0 0⟩),
    (⟨east 2 0 0, .following Rules.romania⟩, ⟨1940, .august, .on 15, hms 0 0 0⟩),
    (⟨east 2 0 0, .fixed 60⟩, ⟨1941, .july, .on 17, hms 0 0 0⟩),
    (⟨east 1 0 0, .following Rules.centralEurope⟩, ⟨1944, .august, .on 24, hms 0 0 0⟩),
    (⟨east 3 0 0, .following Rules.russia⟩, ⟨1990, .may, .on 6, hms 2 0 0⟩),
    (⟨east 2 0 0, .following Rules.russia⟩, ⟨1992, .january, .on 1, hms 0 0 0⟩),
    (⟨east 2 0 0, .following Rules.easternEurope⟩, ⟨1997, .january, .on 1, hms 0 0 0⟩)]
  present := ⟨east 2 0 0, .following Rules.moldova⟩

def dublin : ZoneHistory where
  past := [(⟨west 0 25 21, .fixed 0⟩, ⟨1880, .august, .on 2, hms 0 0 0⟩),
    (⟨west 0 25 21, .fixed 0⟩, ⟨1916, .may, .on 21, hms 2 0 0⟩),
    (⟨west 0 25 21, .fixed 60⟩, ⟨1916, .october, .on 1, hms 2 0 0⟩),
    (⟨east 0 0 0, .following Rules.britain⟩, ⟨1921, .december, .on 6, hms 0 0 0⟩),
    (⟨east 0 0 0, .following Rules.britain⟩, ⟨1940, .february, .on 25, hms 2 0 0⟩),
    (⟨east 0 0 0, .fixed 60⟩, ⟨1946, .october, .on 6, hms 2 0 0⟩),
    (⟨east 0 0 0, .fixed 0⟩, ⟨1947, .march, .on 16, hms 2 0 0⟩),
    (⟨east 0 0 0, .fixed 60⟩, ⟨1947, .november, .on 2, hms 2 0 0⟩),
    (⟨east 0 0 0, .fixed 0⟩, ⟨1948, .april, .on 18, hms 2 0 0⟩),
    (⟨east 0 0 0, .following Rules.britain⟩, ⟨1968, .october, .on 27, hms 0 0 0⟩)]
  present := ⟨east 1 0 0, .following Rules.ireland⟩

def gibraltar : ZoneHistory where
  past := [(⟨west 0 21 24, .fixed 0⟩, ⟨1880, .august, .on 2, hms 0 0 0⟩),
    (⟨east 0 0 0, .following Rules.britain⟩, ⟨1957, .april, .on 14, hms 2 0 0⟩),
    (⟨east 1 0 0, .fixed 0⟩, ⟨1982, .january, .on 1, hms 0 0 0⟩)]
  present := ⟨east 1 0 0, .following Rules.europeanUnion⟩

def helsinki : ZoneHistory where
  past := [(⟨east 1 39 49, .fixed 0⟩, ⟨1878, .may, .on 31, hms 0 0 0⟩),
    (⟨east 1 39 49, .fixed 0⟩, ⟨1921, .may, .on 1, hms 0 0 0⟩),
    (⟨east 2 0 0, .following Rules.finland⟩, ⟨1983, .january, .on 1, hms 0 0 0⟩)]
  present := ⟨east 2 0 0, .following Rules.europeanUnion⟩

def istanbul : ZoneHistory where
  past := [(⟨east 1 55 52, .fixed 0⟩, ⟨1880, .january, .on 1, hms 0 0 0⟩),
    (⟨east 1 56 56, .fixed 0⟩, ⟨1910, .october, .on 1, hms 0 0 0⟩),
    (⟨east 2 0 0, .following Rules.turkey⟩, ⟨1978, .june, .on 29, hms 0 0 0⟩),
    (⟨east 3 0 0, .following Rules.turkey⟩, ⟨1984, .november, .on 1, hms 2 0 0⟩),
    (⟨east 2 0 0, .following Rules.turkey⟩, ⟨2007, .january, .on 1, hms 0 0 0⟩),
    (⟨east 2 0 0, .following Rules.europeanUnion⟩, ⟨2011, .march, .on 27, hms 1 0 0⟩),
    (⟨east 2 0 0, .fixed 0⟩, ⟨2011, .march, .on 28, hms 1 0 0⟩),
    (⟨east 2 0 0, .following Rules.europeanUnion⟩, ⟨2014, .march, .on 30, hms 1 0 0⟩),
    (⟨east 2 0 0, .fixed 0⟩, ⟨2014, .march, .on 31, hms 1 0 0⟩),
    (⟨east 2 0 0, .following Rules.europeanUnion⟩, ⟨2015, .october, .on 25, hms 1 0 0⟩),
    (⟨east 2 0 0, .fixed 60⟩, ⟨2015, .november, .on 8, hms 1 0 0⟩),
    (⟨east 2 0 0, .following Rules.europeanUnion⟩, ⟨2016, .september, .on 7, hms 0 0 0⟩)]
  present := ⟨east 3 0 0, .fixed 0⟩

def kaliningrad : ZoneHistory where
  past := [(⟨east 1 22 0, .fixed 0⟩, ⟨1893, .april, .on 1, hms 0 0 0⟩),
    (⟨east 1 0 0, .following Rules.centralEurope⟩, ⟨1945, .april, .on 10, hms 0 0 0⟩),
    (⟨east 2 0 0, .following Rules.poland⟩, ⟨1946, .april, .on 7, hms 0 0 0⟩),
    (⟨east 3 0 0, .following Rules.russia⟩, ⟨1989, .march, .on 26, hms 2 0 0⟩),
    (⟨east 2 0 0, .following Rules.russia⟩, ⟨2011, .march, .on 27, hms 2 0 0⟩),
    (⟨east 3 0 0, .fixed 0⟩, ⟨2014, .october, .on 26, hms 2 0 0⟩)]
  present := ⟨east 2 0 0, .fixed 0⟩

def kirov : ZoneHistory where
  past := [(⟨east 3 18 48, .fixed 0⟩, ⟨1919, .july, .on 1, hms 0 0 0⟩),
    (⟨east 3 0 0, .fixed 0⟩, ⟨1930, .june, .on 21, hms 0 0 0⟩),
    (⟨east 4 0 0, .following Rules.russia⟩, ⟨1989, .march, .on 26, hms 2 0 0⟩),
    (⟨east 3 0 0, .following Rules.russia⟩, ⟨1991, .march, .on 31, hms 2 0 0⟩),
    (⟨east 4 0 0, .fixed 0⟩, ⟨1992, .march, .on 29, hms 2 0 0⟩),
    (⟨east 3 0 0, .following Rules.russia⟩, ⟨2011, .march, .on 27, hms 2 0 0⟩),
    (⟨east 4 0 0, .fixed 0⟩, ⟨2014, .october, .on 26, hms 2 0 0⟩)]
  present := ⟨east 3 0 0, .fixed 0⟩

def kyiv : ZoneHistory where
  past := [(⟨east 2 2 4, .fixed 0⟩, ⟨1880, .january, .on 1, hms 0 0 0⟩),
    (⟨east 2 2 4, .fixed 0⟩, ⟨1924, .may, .on 2, hms 0 0 0⟩),
    (⟨east 2 0 0, .fixed 0⟩, ⟨1930, .june, .on 21, hms 0 0 0⟩),
    (⟨east 3 0 0, .fixed 0⟩, ⟨1941, .september, .on 20, hms 0 0 0⟩),
    (⟨east 1 0 0, .following Rules.centralEurope⟩, ⟨1943, .november, .on 6, hms 0 0 0⟩),
    (⟨east 3 0 0, .following Rules.russia⟩, ⟨1990, .july, .on 1, hms 2 0 0⟩),
    (⟨east 2 0 0, .fixed 60⟩, ⟨1991, .september, .on 29, hms 3 0 0⟩),
    (⟨east 2 0 0, .following Rules.centralEurope⟩, ⟨1996, .may, .on 13, hms 0 0 0⟩)]
  present := ⟨east 2 0 0, .following Rules.europeanUnion⟩

def lisbon : ZoneHistory where
  past := [(⟨west 0 36 45, .fixed 0⟩, ⟨1884, .january, .on 1, hms 0 0 0⟩),
    (⟨west 0 36 45, .fixed 0⟩, ⟨1912, .january, .on 1, hms 0 0 0⟩),
    (⟨east 0 0 0, .following Rules.portugal⟩, ⟨1966, .april, .on 3, hms 2 0 0⟩),
    (⟨east 1 0 0, .fixed 0⟩, ⟨1976, .september, .on 26, hms 1 0 0⟩),
    (⟨east 0 0 0, .following Rules.portugal⟩, ⟨1983, .september, .on 25, hms 1 0 0⟩),
    (⟨east 0 0 0, .following Rules.westernEurope⟩, ⟨1992, .september, .on 27, hms 1 0 0⟩),
    (⟨east 1 0 0, .following Rules.europeanUnion⟩, ⟨1996, .march, .on 31, hms 1 0 0⟩)]
  present := ⟨east 0 0 0, .following Rules.europeanUnion⟩

def london : ZoneHistory where
  past := [(⟨west 0 1 15, .fixed 0⟩, ⟨1847, .december, .on 1, hms 0 0 0⟩),
    (⟨east 0 0 0, .following Rules.britain⟩, ⟨1968, .october, .on 27, hms 0 0 0⟩),
    (⟨east 1 0 0, .fixed 0⟩, ⟨1971, .october, .on 31, hms 2 0 0⟩),
    (⟨east 0 0 0, .following Rules.britain⟩, ⟨1996, .january, .on 1, hms 0 0 0⟩)]
  present := ⟨east 0 0 0, .following Rules.europeanUnion⟩

def madrid : ZoneHistory where
  past := [(⟨west 0 14 44, .fixed 0⟩, ⟨1901, .january, .on 1, hms 0 0 0⟩),
    (⟨east 0 0 0, .following Rules.spain⟩, ⟨1940, .march, .on 16, hms 23 0 0⟩),
    (⟨east 1 0 0, .following Rules.spain⟩, ⟨1979, .january, .on 1, hms 0 0 0⟩)]
  present := ⟨east 1 0 0, .following Rules.europeanUnion⟩

def malta : ZoneHistory where
  past := [(⟨east 0 58 4, .fixed 0⟩, ⟨1893, .november, .on 2, hms 0 0 0⟩),
    (⟨east 1 0 0, .following Rules.italy⟩, ⟨1973, .march, .on 31, hms 0 0 0⟩),
    (⟨east 1 0 0, .following Rules.malta⟩, ⟨1981, .january, .on 1, hms 0 0 0⟩)]
  present := ⟨east 1 0 0, .following Rules.europeanUnion⟩

def minsk : ZoneHistory where
  past := [(⟨east 1 50 16, .fixed 0⟩, ⟨1880, .january, .on 1, hms 0 0 0⟩),
    (⟨east 1 50 0, .fixed 0⟩, ⟨1924, .may, .on 2, hms 0 0 0⟩),
    (⟨east 2 0 0, .fixed 0⟩, ⟨1930, .june, .on 21, hms 0 0 0⟩),
    (⟨east 3 0 0, .fixed 0⟩, ⟨1941, .june, .on 28, hms 0 0 0⟩),
    (⟨east 1 0 0, .following Rules.centralEurope⟩, ⟨1944, .july, .on 3, hms 0 0 0⟩),
    (⟨east 3 0 0, .following Rules.russia⟩, ⟨1990, .january, .on 1, hms 0 0 0⟩),
    (⟨east 3 0 0, .fixed 0⟩, ⟨1991, .march, .on 31, hms 2 0 0⟩),
    (⟨east 2 0 0, .following Rules.russia⟩, ⟨2011, .march, .on 27, hms 2 0 0⟩)]
  present := ⟨east 3 0 0, .fixed 0⟩

def moscow : ZoneHistory where
  past := [(⟨east 2 30 17, .fixed 0⟩, ⟨1880, .january, .on 1, hms 0 0 0⟩),
    (⟨east 2 30 17, .fixed 0⟩, ⟨1916, .july, .on 3, hms 0 0 0⟩),
    (⟨east 2 31 19, .following Rules.russia⟩, ⟨1919, .july, .on 1, hms 0 0 0⟩),
    (⟨east 3 0 0, .following Rules.russia⟩, ⟨1921, .october, .on 1, hms 0 0 0⟩),
    (⟨east 3 0 0, .following Rules.russia⟩, ⟨1922, .october, .on 1, hms 0 0 0⟩),
    (⟨east 2 0 0, .fixed 0⟩, ⟨1930, .june, .on 21, hms 0 0 0⟩),
    (⟨east 3 0 0, .following Rules.russia⟩, ⟨1991, .march, .on 31, hms 2 0 0⟩),
    (⟨east 2 0 0, .following Rules.russia⟩, ⟨1992, .january, .on 19, hms 2 0 0⟩),
    (⟨east 3 0 0, .following Rules.russia⟩, ⟨2011, .march, .on 27, hms 2 0 0⟩),
    (⟨east 4 0 0, .fixed 0⟩, ⟨2014, .october, .on 26, hms 2 0 0⟩)]
  present := ⟨east 3 0 0, .fixed 0⟩

def paris : ZoneHistory where
  past := [(⟨east 0 9 21, .fixed 0⟩, ⟨1891, .march, .on 16, hms 0 0 0⟩),
    (⟨east 0 9 21, .fixed 0⟩, ⟨1911, .march, .on 11, hms 0 0 0⟩),
    (⟨east 0 0 0, .following Rules.france⟩, ⟨1940, .june, .on 14, hms 23 0 0⟩),
    (⟨east 1 0 0, .following Rules.centralEurope⟩, ⟨1944, .august, .on 25, hms 0 0 0⟩),
    (⟨east 0 0 0, .following Rules.france⟩, ⟨1945, .september, .on 16, hms 3 0 0⟩),
    (⟨east 1 0 0, .following Rules.france⟩, ⟨1977, .january, .on 1, hms 0 0 0⟩)]
  present := ⟨east 1 0 0, .following Rules.europeanUnion⟩

def prague : ZoneHistory where
  past := [(⟨east 0 57 44, .fixed 0⟩, ⟨1850, .january, .on 1, hms 0 0 0⟩),
    (⟨east 0 57 44, .fixed 0⟩, ⟨1891, .october, .on 1, hms 0 0 0⟩),
    (⟨east 1 0 0, .following Rules.centralEurope⟩, ⟨1945, .may, .on 9, hms 0 0 0⟩),
    (⟨east 1 0 0, .following Rules.czechia⟩, ⟨1946, .december, .on 1, hms 3 0 0⟩),
    (⟨east 1 0 0, .fixed (-60)⟩, ⟨1947, .february, .on 23, hms 2 0 0⟩),
    (⟨east 1 0 0, .following Rules.czechia⟩, ⟨1979, .january, .on 1, hms 0 0 0⟩)]
  present := ⟨east 1 0 0, .following Rules.europeanUnion⟩

def riga : ZoneHistory where
  past := [(⟨east 1 36 34, .fixed 0⟩, ⟨1880, .january, .on 1, hms 0 0 0⟩),
    (⟨east 1 36 34, .fixed 0⟩, ⟨1918, .april, .on 15, hms 2 0 0⟩),
    (⟨east 1 36 34, .fixed 60⟩, ⟨1918, .september, .on 16, hms 3 0 0⟩),
    (⟨east 1 36 34, .fixed 0⟩, ⟨1919, .april, .on 1, hms 2 0 0⟩),
    (⟨east 1 36 34, .fixed 60⟩, ⟨1919, .may, .on 22, hms 3 0 0⟩),
    (⟨east 1 36 34, .fixed 0⟩, ⟨1926, .may, .on 11, hms 0 0 0⟩),
    (⟨east 2 0 0, .fixed 0⟩, ⟨1940, .august, .on 5, hms 0 0 0⟩),
    (⟨east 3 0 0, .fixed 0⟩, ⟨1941, .july, .on 1, hms 0 0 0⟩),
    (⟨east 1 0 0, .following Rules.centralEurope⟩, ⟨1944, .october, .on 13, hms 0 0 0⟩),
    (⟨east 3 0 0, .following Rules.russia⟩, ⟨1989, .march, .last .sunday, hms 2 0 0⟩),
    (⟨east 2 0 0, .fixed 60⟩, ⟨1989, .september, .last .sunday, hms 2 0 0⟩),
    (⟨east 2 0 0, .following Rules.latvia⟩, ⟨1997, .january, .on 21, hms 0 0 0⟩),
    (⟨east 2 0 0, .following Rules.europeanUnion⟩, ⟨2000, .february, .on 29, hms 0 0 0⟩),
    (⟨east 2 0 0, .fixed 0⟩, ⟨2001, .january, .on 2, hms 0 0 0⟩)]
  present := ⟨east 2 0 0, .following Rules.europeanUnion⟩

def rome : ZoneHistory where
  past := [(⟨east 0 49 56, .fixed 0⟩, ⟨1866, .december, .on 12, hms 0 0 0⟩),
    (⟨east 0 49 56, .fixed 0⟩, ⟨1893, .october, .on 31, hms 23 0 0⟩),
    (⟨east 1 0 0, .following Rules.italy⟩, ⟨1943, .september, .on 10, hms 0 0 0⟩),
    (⟨east 1 0 0, .following Rules.centralEurope⟩, ⟨1944, .june, .on 4, hms 0 0 0⟩),
    (⟨east 1 0 0, .following Rules.italy⟩, ⟨1980, .january, .on 1, hms 0 0 0⟩)]
  present := ⟨east 1 0 0, .following Rules.europeanUnion⟩

def samara : ZoneHistory where
  past := [(⟨east 3 20 20, .fixed 0⟩, ⟨1919, .july, .on 1, hms 0 0 0⟩),
    (⟨east 3 0 0, .fixed 0⟩, ⟨1930, .june, .on 21, hms 0 0 0⟩),
    (⟨east 4 0 0, .fixed 0⟩, ⟨1935, .january, .on 27, hms 0 0 0⟩),
    (⟨east 4 0 0, .following Rules.russia⟩, ⟨1989, .march, .on 26, hms 2 0 0⟩),
    (⟨east 3 0 0, .following Rules.russia⟩, ⟨1991, .march, .on 31, hms 2 0 0⟩),
    (⟨east 2 0 0, .following Rules.russia⟩, ⟨1991, .september, .on 29, hms 2 0 0⟩),
    (⟨east 3 0 0, .fixed 0⟩, ⟨1991, .october, .on 20, hms 3 0 0⟩),
    (⟨east 4 0 0, .following Rules.russia⟩, ⟨2010, .march, .on 28, hms 2 0 0⟩),
    (⟨east 3 0 0, .following Rules.russia⟩, ⟨2011, .march, .on 27, hms 2 0 0⟩)]
  present := ⟨east 4 0 0, .fixed 0⟩

def saratov : ZoneHistory where
  past := [(⟨east 3 4 18, .fixed 0⟩, ⟨1919, .july, .on 1, hms 0 0 0⟩),
    (⟨east 3 0 0, .fixed 0⟩, ⟨1930, .june, .on 21, hms 0 0 0⟩),
    (⟨east 4 0 0, .following Rules.russia⟩, ⟨1988, .march, .on 27, hms 2 0 0⟩),
    (⟨east 3 0 0, .following Rules.russia⟩, ⟨1991, .march, .on 31, hms 2 0 0⟩),
    (⟨east 4 0 0, .fixed 0⟩, ⟨1992, .march, .on 29, hms 2 0 0⟩),
    (⟨east 3 0 0, .following Rules.russia⟩, ⟨2011, .march, .on 27, hms 2 0 0⟩),
    (⟨east 4 0 0, .fixed 0⟩, ⟨2014, .october, .on 26, hms 2 0 0⟩),
    (⟨east 3 0 0, .fixed 0⟩, ⟨2016, .december, .on 4, hms 2 0 0⟩)]
  present := ⟨east 4 0 0, .fixed 0⟩

def simferopol : ZoneHistory where
  past := [(⟨east 2 16 24, .fixed 0⟩, ⟨1880, .january, .on 1, hms 0 0 0⟩),
    (⟨east 2 16 0, .fixed 0⟩, ⟨1924, .may, .on 2, hms 0 0 0⟩),
    (⟨east 2 0 0, .fixed 0⟩, ⟨1930, .june, .on 21, hms 0 0 0⟩),
    (⟨east 3 0 0, .fixed 0⟩, ⟨1941, .november, .on 1, hms 0 0 0⟩),
    (⟨east 1 0 0, .following Rules.centralEurope⟩, ⟨1944, .april, .on 13, hms 0 0 0⟩),
    (⟨east 3 0 0, .following Rules.russia⟩, ⟨1990, .january, .on 1, hms 0 0 0⟩),
    (⟨east 3 0 0, .fixed 0⟩, ⟨1990, .july, .on 1, hms 2 0 0⟩),
    (⟨east 2 0 0, .fixed 0⟩, ⟨1992, .march, .on 20, hms 0 0 0⟩),
    (⟨east 2 0 0, .following Rules.centralEurope⟩, ⟨1994, .may, .on 1, hms 0 0 0⟩),
    (⟨east 3 0 0, .following Rules.centralEurope⟩, ⟨1996, .march, .on 31, hms 0 0 0⟩),
    (⟨east 3 0 0, .fixed 60⟩, ⟨1996, .october, .on 27, hms 3 0 0⟩),
    (⟨east 3 0 0, .fixed 0⟩, ⟨1997, .march, .last .sunday, hms 1 0 0⟩),
    (⟨east 2 0 0, .following Rules.europeanUnion⟩, ⟨2014, .march, .on 30, hms 2 0 0⟩),
    (⟨east 4 0 0, .fixed 0⟩, ⟨2014, .october, .on 26, hms 2 0 0⟩)]
  present := ⟨east 3 0 0, .fixed 0⟩

def sofia : ZoneHistory where
  past := [(⟨east 1 33 16, .fixed 0⟩, ⟨1880, .january, .on 1, hms 0 0 0⟩),
    (⟨east 1 56 56, .fixed 0⟩, ⟨1894, .november, .on 30, hms 0 0 0⟩),
    (⟨east 2 0 0, .fixed 0⟩, ⟨1942, .november, .on 2, hms 3 0 0⟩),
    (⟨east 1 0 0, .following Rules.centralEurope⟩, ⟨1945, .january, .on 1, hms 0 0 0⟩),
    (⟨east 1 0 0, .fixed 0⟩, ⟨1945, .april, .on 2, hms 3 0 0⟩),
    (⟨east 2 0 0, .fixed 0⟩, ⟨1979, .march, .on 31, hms 23 0 0⟩),
    (⟨east 2 0 0, .following Rules.bulgaria⟩, ⟨1982, .september, .on 26, hms 3 0 0⟩),
    (⟨east 2 0 0, .following Rules.centralEurope⟩, ⟨1991, .january, .on 1, hms 0 0 0⟩),
    (⟨east 2 0 0, .following Rules.easternEurope⟩, ⟨1997, .january, .on 1, hms 0 0 0⟩)]
  present := ⟨east 2 0 0, .following Rules.europeanUnion⟩

def tallinn : ZoneHistory where
  past := [(⟨east 1 39 0, .fixed 0⟩, ⟨1880, .january, .on 1, hms 0 0 0⟩),
    (⟨east 1 39 0, .fixed 0⟩, ⟨1918, .february, .on 1, hms 0 0 0⟩),
    (⟨east 1 0 0, .following Rules.centralEurope⟩, ⟨1919, .july, .on 1, hms 0 0 0⟩),
    (⟨east 1 39 0, .fixed 0⟩, ⟨1921, .may, .on 1, hms 0 0 0⟩),
    (⟨east 2 0 0, .fixed 0⟩, ⟨1940, .august, .on 6, hms 0 0 0⟩),
    (⟨east 3 0 0, .fixed 0⟩, ⟨1941, .september, .on 15, hms 0 0 0⟩),
    (⟨east 1 0 0, .following Rules.centralEurope⟩, ⟨1944, .september, .on 22, hms 0 0 0⟩),
    (⟨east 3 0 0, .following Rules.russia⟩, ⟨1989, .march, .on 26, hms 2 0 0⟩),
    (⟨east 2 0 0, .fixed 60⟩, ⟨1989, .september, .on 24, hms 2 0 0⟩),
    (⟨east 2 0 0, .following Rules.centralEurope⟩, ⟨1998, .september, .on 22, hms 0 0 0⟩),
    (⟨east 2 0 0, .following Rules.europeanUnion⟩, ⟨1999, .october, .on 31, hms 4 0 0⟩),
    (⟨east 2 0 0, .fixed 0⟩, ⟨2002, .february, .on 21, hms 0 0 0⟩)]
  present := ⟨east 2 0 0, .following Rules.europeanUnion⟩

def tirane : ZoneHistory where
  past := [(⟨east 1 19 20, .fixed 0⟩, ⟨1914, .january, .on 1, hms 0 0 0⟩),
    (⟨east 1 0 0, .fixed 0⟩, ⟨1940, .june, .on 16, hms 0 0 0⟩),
    (⟨east 1 0 0, .following Rules.albania⟩, ⟨1984, .july, .on 1, hms 0 0 0⟩)]
  present := ⟨east 1 0 0, .following Rules.europeanUnion⟩

def ulyanovsk : ZoneHistory where
  past := [(⟨east 3 13 36, .fixed 0⟩, ⟨1919, .july, .on 1, hms 0 0 0⟩),
    (⟨east 3 0 0, .fixed 0⟩, ⟨1930, .june, .on 21, hms 0 0 0⟩),
    (⟨east 4 0 0, .following Rules.russia⟩, ⟨1989, .march, .on 26, hms 2 0 0⟩),
    (⟨east 3 0 0, .following Rules.russia⟩, ⟨1991, .march, .on 31, hms 2 0 0⟩),
    (⟨east 2 0 0, .following Rules.russia⟩, ⟨1992, .january, .on 19, hms 2 0 0⟩),
    (⟨east 3 0 0, .following Rules.russia⟩, ⟨2011, .march, .on 27, hms 2 0 0⟩),
    (⟨east 4 0 0, .fixed 0⟩, ⟨2014, .october, .on 26, hms 2 0 0⟩),
    (⟨east 3 0 0, .fixed 0⟩, ⟨2016, .march, .on 27, hms 2 0 0⟩)]
  present := ⟨east 4 0 0, .fixed 0⟩

def vienna : ZoneHistory where
  past := [(⟨east 1 5 21, .fixed 0⟩, ⟨1893, .april, .on 1, hms 0 0 0⟩),
    (⟨east 1 0 0, .following Rules.centralEurope⟩, ⟨1920, .january, .on 1, hms 0 0 0⟩),
    (⟨east 1 0 0, .following Rules.austria⟩, ⟨1940, .april, .on 1, hms 2 0 0⟩),
    (⟨east 1 0 0, .following Rules.centralEurope⟩, ⟨1945, .april, .on 2, hms 2 0 0⟩),
    (⟨east 1 0 0, .fixed 60⟩, ⟨1945, .april, .on 12, hms 2 0 0⟩),
    (⟨east 1 0 0, .fixed 0⟩, ⟨1946, .january, .on 1, hms 0 0 0⟩),
    (⟨east 1 0 0, .following Rules.austria⟩, ⟨1981, .january, .on 1, hms 0 0 0⟩)]
  present := ⟨east 1 0 0, .following Rules.europeanUnion⟩

def vilnius : ZoneHistory where
  past := [(⟨east 1 41 16, .fixed 0⟩, ⟨1880, .january, .on 1, hms 0 0 0⟩),
    (⟨east 1 24 0, .fixed 0⟩, ⟨1917, .january, .on 1, hms 0 0 0⟩),
    (⟨east 1 35 36, .fixed 0⟩, ⟨1919, .october, .on 10, hms 0 0 0⟩),
    (⟨east 1 0 0, .fixed 0⟩, ⟨1920, .july, .on 12, hms 0 0 0⟩),
    (⟨east 2 0 0, .fixed 0⟩, ⟨1920, .october, .on 9, hms 0 0 0⟩),
    (⟨east 1 0 0, .fixed 0⟩, ⟨1940, .august, .on 3, hms 0 0 0⟩),
    (⟨east 3 0 0, .fixed 0⟩, ⟨1941, .june, .on 24, hms 0 0 0⟩),
    (⟨east 1 0 0, .following Rules.centralEurope⟩, ⟨1944, .august, .on 1, hms 0 0 0⟩),
    (⟨east 3 0 0, .following Rules.russia⟩, ⟨1989, .march, .on 26, hms 2 0 0⟩),
    (⟨east 2 0 0, .following Rules.russia⟩, ⟨1991, .september, .on 29, hms 2 0 0⟩),
    (⟨east 2 0 0, .following Rules.centralEurope⟩, ⟨1998, .january, .on 1, hms 0 0 0⟩),
    (⟨east 2 0 0, .fixed 0⟩, ⟨1998, .march, .on 29, hms 1 0 0⟩),
    (⟨east 1 0 0, .following Rules.europeanUnion⟩, ⟨1999, .october, .on 31, hms 1 0 0⟩),
    (⟨east 2 0 0, .fixed 0⟩, ⟨2003, .january, .on 1, hms 0 0 0⟩)]
  present := ⟨east 2 0 0, .following Rules.europeanUnion⟩

def volgograd : ZoneHistory where
  past := [(⟨east 2 57 40, .fixed 0⟩, ⟨1920, .january, .on 3, hms 0 0 0⟩),
    (⟨east 3 0 0, .fixed 0⟩, ⟨1930, .june, .on 21, hms 0 0 0⟩),
    (⟨east 4 0 0, .fixed 0⟩, ⟨1961, .november, .on 11, hms 0 0 0⟩),
    (⟨east 4 0 0, .following Rules.russia⟩, ⟨1988, .march, .on 27, hms 2 0 0⟩),
    (⟨east 3 0 0, .following Rules.russia⟩, ⟨1991, .march, .on 31, hms 2 0 0⟩),
    (⟨east 4 0 0, .fixed 0⟩, ⟨1992, .march, .on 29, hms 2 0 0⟩),
    (⟨east 3 0 0, .following Rules.russia⟩, ⟨2011, .march, .on 27, hms 2 0 0⟩),
    (⟨east 4 0 0, .fixed 0⟩, ⟨2014, .october, .on 26, hms 2 0 0⟩),
    (⟨east 3 0 0, .fixed 0⟩, ⟨2018, .october, .on 28, hms 2 0 0⟩),
    (⟨east 4 0 0, .fixed 0⟩, ⟨2020, .december, .on 27, hms 2 0 0⟩)]
  present := ⟨east 3 0 0, .fixed 0⟩

def warsaw : ZoneHistory where
  past := [(⟨east 1 24 0, .fixed 0⟩, ⟨1880, .january, .on 1, hms 0 0 0⟩),
    (⟨east 1 24 0, .fixed 0⟩, ⟨1915, .august, .on 5, hms 0 0 0⟩),
    (⟨east 1 0 0, .following Rules.centralEurope⟩, ⟨1918, .september, .on 16, hms 3 0 0⟩),
    (⟨east 2 0 0, .following Rules.poland⟩, ⟨1922, .june, .on 1, hms 0 0 0⟩),
    (⟨east 1 0 0, .following Rules.poland⟩, ⟨1940, .june, .on 23, hms 2 0 0⟩),
    (⟨east 1 0 0, .following Rules.centralEurope⟩, ⟨1944, .october, .on 1, hms 0 0 0⟩),
    (⟨east 1 0 0, .following Rules.poland⟩, ⟨1977, .january, .on 1, hms 0 0 0⟩),
    (⟨east 1 0 0, .following Rules.westernEurope⟩, ⟨1988, .january, .on 1, hms 0 0 0⟩)]
  present := ⟨east 1 0 0, .following Rules.europeanUnion⟩

def zurich : ZoneHistory where
  past := [(⟨east 0 34 8, .fixed 0⟩, ⟨1853, .july, .on 16, hms 0 0 0⟩),
    (⟨east 0 29 46, .fixed 0⟩, ⟨1894, .june, .on 1, hms 0 0 0⟩),
    (⟨east 1 0 0, .following Rules.switzerland⟩, ⟨1981, .january, .on 1, hms 0 0 0⟩)]
  present := ⟨east 1 0 0, .following Rules.europeanUnion⟩

end ElectionReadiness.TimeZone.Europe
