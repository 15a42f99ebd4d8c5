import ElectionReadiness.TimeZone.History
import ElectionReadiness.TimeZone.Rules.Europe
import ElectionReadiness.TimeZone.Rules.NorthAmerica

/-!
# Zones of North America and the Caribbean

The histories of the zones of North America and the Caribbean: for every regime its
offset of standard time, its way to keep summer time, and the reading of the wall
clock at its end.
-/

set_option autoImplicit false

namespace ElectionReadiness.TimeZone.NorthAmerica

def adak : ZoneHistory where
  past := [(⟨east 12 13 22, .fixed 0⟩, ⟨1867, .october, .on 19, hms 12 44 35⟩),
    (⟨west 11 46 38, .fixed 0⟩, ⟨1900, .august, .on 20, hms 12 0 0⟩),
    (⟨west 11 0 0, .fixed 0⟩, ⟨1942, .january, .on 1, hms 0 0 0⟩),
    (⟨west 11 0 0, .following Rules.unitedStates⟩, ⟨1946, .january, .on 1, hms 0 0 0⟩),
    (⟨west 11 0 0, .fixed 0⟩, ⟨1967, .april, .on 1, hms 0 0 0⟩),
    (⟨west 11 0 0, .fixed 0⟩, ⟨1969, .january, .on 1, hms 0 0 0⟩),
    (⟨west 11 0 0, .following Rules.unitedStates⟩, ⟨1983, .october, .on 30, hms 2 0 0⟩),
    (⟨west 10 0 0, .following Rules.unitedStates⟩, ⟨1983, .november, .on 30, hms 0 0 0⟩)]
  present := ⟨west 10 0 0, .following Rules.unitedStates⟩

def anchorage : ZoneHistory where
  past := [(⟨east 14 0 24, .fixed 0⟩, ⟨1867, .october, .on 19, hms 14 31 37⟩),
    (⟨west 9 59 36, .fixed 0⟩, ⟨1900, .august, .on 20, hms 12 0 0⟩),
    (⟨west 10 0 0, .fixed 0⟩, ⟨1942, .january, .on 1, hms 0 0 0⟩),
    (⟨west 10 0 0, .following Rules.unitedStates⟩, ⟨1967, .april, .on 1, hms 0 0 0⟩),
    (⟨west 10 0 0, .fixed 0⟩, ⟨1969, .january, .on 1, hms 0 0 0⟩),
    (⟨west 10 0 0, .following Rules.unitedStates⟩, ⟨1983, .october, .on 30, hms 2 0 0⟩),
    (⟨west 9 0 0, .following Rules.unitedStates⟩, ⟨1983, .november, .on 30, hms 0 0 0⟩)]
  present := ⟨west 9 0 0, .following Rules.unitedStates⟩

def bahiaBanderas : ZoneHistory where
  past := [(⟨west 7 1 0, .fixed 0⟩, ⟨1922, .january, .on 1, hms 7 0 0⟩),
    (⟨west 7 0 0, .fixed 0⟩, ⟨1927, .june, .on 10, hms 23 0 0⟩),
    (⟨west 6 0 0, .fixed 0⟩, ⟨1930, .november, .on 15, hms 0 0 0⟩),
    (⟨west 7 0 0, .following Rules.mexico⟩, ⟨1932, .april, .on 1, hms 0 0 0⟩),
    (⟨west 6 0 0, .fixed 0⟩, ⟨1942, .april, .on 24, hms 0 0 0⟩),
    (⟨west 7 0 0, .fixed 0⟩, ⟨1949, .january, .on 14, hms 0 0 0⟩),
    (⟨west 8 0 0, .fixed 0⟩, ⟨1970, .january, .on 1, hms 0 0 0⟩),
    (⟨west 7 0 0, .following Rules.mexico⟩, ⟨2010, .april, .on 4, hms 2 0 0⟩)]
  present := ⟨west 6 0 0, .following Rules.mexico⟩

def barbados : ZoneHistory where
  past := [(⟨west 3 58 29, .fixed 0⟩, ⟨1911, .august, .on 28, hms 0 0 0⟩),
    (⟨west 4 0 0, .following Rules.barbados⟩, ⟨1944, .january, .on 1, hms 0 0 0⟩),
    (⟨west 4 0 0, .following Rules.barbados⟩, ⟨1945, .january, .on 1, hms 0 0 0⟩)]
  present := ⟨west 4 0 0, .following Rules.barbados⟩

def belize : ZoneHistory where
  past := [(⟨west 5 52 48, .fixed 0⟩, ⟨1912, .april, .on 1, hms 0 0 0⟩)]
  present := ⟨west 6 0 0, .following Rules.belize⟩

def boise : ZoneHistory where
  past := [(⟨west 7 44 49, .fixed 0⟩, ⟨1883, .november, .on 18, hms 20 0 0⟩),
    (⟨west 8 0 0, .following Rules.unitedStates⟩, ⟨1923, .may, .on 13, hms 2 0 0⟩),
    (⟨west 7 0 0, .following Rules.unitedStates⟩, ⟨1974, .january, .on 1, hms 0 0 0⟩),
    (⟨west 7 0 0, .fixed 0⟩, ⟨1974, .february, .on 3, hms 2 0 0⟩)]
  present := ⟨west 7 0 0, .following Rules.unitedStates⟩

def cambridgeBay : ZoneHistory where
  past := [(⟨east 0 0 0, .fixed 0⟩, ⟨1920, .january, .on 1, hms 0 0 0⟩),
    (⟨west 7 0 0, .following Rules.northwestTerritories⟩, ⟨1999, .october, .on 31, hms 2 0 0⟩),
    (⟨west 6 0 0, .following Rules.canada⟩, ⟨2000, .october, .on 29, hms 2 0 0⟩),
    (⟨west 5 0 0, .fixed 0⟩, ⟨2000, .november, .on 5, hms 0 0 0⟩),
    (⟨west 6 0 0, .fixed 0⟩, ⟨2001, .april, .on 1, hms 3 0 0⟩)]
  present := ⟨west 7 0 0, .following Rules.canada⟩

def cancun : ZoneHistory where
  past := [(⟨west 5 47 4, .fixed 0⟩, ⟨1922, .january, .on 1, hms 6 0 0⟩),
    (⟨west 6 0 0, .fixed 0⟩, ⟨1981, .december, .on 23, hms 0 0 0⟩),
    (⟨west 5 0 0, .following Rules.mexico⟩, ⟨1998, .august, .on 2, hms 2 0 0⟩),
    (⟨west 6 0 0, .following Rules.mexico⟩, ⟨2015, .february, .on 1, hms 2 0 0⟩)]
  present := ⟨west 5 0 0, .fixed 0⟩

def chicago : ZoneHistory where
  past := [(⟨west 5 50 36, .fixed 0⟩, ⟨1883, .november, .on 18, hms 18 0 0⟩),
    (⟨west 6 0 0, .following Rules.unitedStates⟩, ⟨1920, .january, .on 1, hms 0 0 0⟩),
    (⟨west 6 0 0, .following Rules.chicago⟩, ⟨1936, .march, .on 1, hms 2 0 0⟩),
    (⟨west 5 0 0, .fixed 0⟩, ⟨1936, .november, .on 15, hms 2 0 0⟩),
    (⟨west 6 0 0, .following Rules.chicago⟩, ⟨1942, .january, .on 1, hms 0 0 0⟩),
    (⟨west 6 0 0, .following Rules.unitedStates⟩, ⟨1946, .january, .on 1, hms 0 0 0⟩),
    (⟨west 6 0 0, .following Rules.chicago⟩, ⟨1967, .january, .on 1, hms 0 0 0⟩)]
  present := ⟨west 6 0 0, .following Rules.unitedStates⟩

def chihuahua : ZoneHistory where
  past := [(⟨west 7 4 20, .fixed 0⟩, ⟨1922, .january, .on 1, hms 7 0 0⟩),
    (⟨west 7 0 0, .fixed 0⟩, ⟨1927, .june, .on 10, hms 23 0 0⟩),
    (⟨west 6 0 0, .fixed 0⟩, ⟨1930, .november, .on 15, hms 0 0 0⟩),
    (⟨west 7 0 0, .following Rules.mexico⟩, ⟨1932, .april, .on 1, hms 0 0 0⟩),
    (⟨west 6 0 0, .fixed 0⟩, ⟨1996, .january, .on 1, hms 0 0 0⟩),
    (⟨west 6 0 0, .following Rules.mexico⟩, ⟨1998, .january, .on 1, hms 0 0 0⟩),
    (⟨west 6 0 0, .fixed 0⟩, ⟨1998, .april, .onOrAfter .sunday 1, hms 3 0 0⟩),
    (⟨west 7 0 0, .following Rules.mexico⟩, ⟨2022, .october, .on 30, hms 2 0 0⟩)]
  present := ⟨west 6 0 0, .fixed 0⟩

def ciudadJuarez : ZoneHistory where
  past := [(⟨west 7 5 56, .fixed 0⟩, ⟨1922, .january, .on 1, hms 7 0 0⟩),
    (⟨west 7 0 0, .fixed 0⟩, ⟨1927, .june, .on 10, hms 23 0 0⟩),
    (⟨west 6 0 0, .fixed 0⟩, ⟨1930, .november, .on 15, hms 0 0 0⟩),
    (⟨west 7 0 0, .following Rules.mexico⟩, ⟨1932, .april, .on 1, hms 0 0 0⟩),
    (⟨west 6 0 0, .fixed 0⟩, ⟨1996, .january, .on 1, hms 0 0 0⟩),
    (⟨west 6 0 0, .following Rules.mexico⟩, ⟨1998, .january, .on 1, hms 0 0 0⟩),
    (⟨west 6 0 0, .fixed 0⟩, ⟨1998, .april, .onOrAfter .sunday 1, hms 3 0 0⟩),
    (⟨west 7 0 0, .following Rules.mexico⟩, ⟨2010, .january, .on 1, hms 0 0 0⟩),
    (⟨west 7 0 0, .following Rules.unitedStates⟩, ⟨2022, .october, .on 30, hms 2 0 0⟩),
    (⟨west 6 0 0, .fixed 0⟩, ⟨2022, .november, .on 30, hms 0 0 0⟩)]
  present := ⟨west 7 0 0, .following Rules.unitedStates⟩

def costaRica : ZoneHistory where
  past := [(⟨west 5 36 13, .fixed 0⟩, ⟨1890, .january, .on 1, hms 0 0 0⟩),
    (⟨west 5 36 13, .fixed 0⟩, ⟨1921, .january, .on 15, hms 0 0 0⟩)]
  present := ⟨west 6 0 0, .following Rules.costaRica⟩

def danmarkshavn : ZoneHistory where
  past := [(⟨west 1 14 40, .fixed 0⟩, ⟨1916, .july, .on 28, hms 0 0 0⟩),
    (⟨west 3 0 0, .fixed 0⟩, ⟨1980, .april, .on 6, hms 2 0 0⟩),
    (⟨west 3 0 0, .following Rules.europeanUnion⟩, ⟨1996, .january, .on 1, hms 0 0 0⟩)]
  present := ⟨east 0 0 0, .fixed 0⟩

def dawson : ZoneHistory where
  past := [(⟨west 9 17 40, .fixed 0⟩, ⟨1900, .august, .on 20, hms 0 0 0⟩),
    (⟨west 9 0 0, .following Rules.northwestTerritories⟩, ⟨1965, .january, .on 1, hms 0 0 0⟩),
    (⟨west 9 0 0, .following Rules.yukon⟩, ⟨1973, .october, .on 28, hms 0 0 0⟩),
    (⟨west 8 0 0, .fixed 0⟩, ⟨1980, .january, .on 1, hms 0 0 0⟩),
    (⟨west 8 0 0, .following Rules.canada⟩, ⟨2020, .november, .on 1, hms 0 0 0⟩)]
  present := ⟨west 7 0 0, .fixed 0⟩

def dawsonCreek : ZoneHistory where
  past := [(⟨west 8 0 56, .fixed 0⟩, ⟨1884, .january, .on 1, hms 0 0 0⟩),
    (⟨west 8 0 0, .following Rules.canada⟩, ⟨1947, .january, .on 1, hms 0 0 0⟩),
    (⟨west 8 0 0, .following Rules.vancouver⟩, ⟨1972, .august, .on 30, hms 2 0 0⟩)]
  present := ⟨west 7 0 0, .fixed 0⟩

def denver : ZoneHistory where
  past := [(⟨west 6 59 56, .fixed 0⟩, ⟨1883, .november, .on 18, hms 19 0 0⟩),
    (⟨west 7 0 0, .following Rules.unitedStates⟩, ⟨1920, .january, .on 1, hms 0 0 0⟩),
    (⟨west 7 0 0, .following Rules.denver⟩, ⟨1942, .january, .on 1, hms 0 0 0⟩),
    (⟨west 7 0 0, .following Rules.unitedStates⟩, ⟨1946, .january, .on 1, hms 0 0 0⟩),
    (⟨west 7 0 0, .following Rules.denver⟩, ⟨1967, .january, .on 1, hms 0 0 0⟩)]
  present := ⟨west 7 0 0, .following Rules.unitedStates⟩

def detroit : ZoneHistory where
  past := [(⟨west 5 32 11, .fixed 0⟩, ⟨1905, .january, .on 1, hms 0 0 0⟩),
    (⟨west 6 0 0, .fixed 0⟩, ⟨1915, .may, .on 15, hms 2 0 0⟩),
    (⟨west 5 0 0, .fixed 0⟩, ⟨1942, .january, .on 1, hms 0 0 0⟩),
    (⟨west 5 0 0, .following Rules.unitedStates⟩, ⟨1946, .january, .on 1, hms 0 0 0⟩),
    (⟨west 5 0 0, .following Rules.detroit⟩, ⟨1967, .june, .on 14, hms 0 1 0⟩),
    (⟨west 5 0 0, .following Rules.unitedStates⟩, ⟨1969, .january, .on 1, hms 0 0 0⟩),
    (⟨west 5 0 0, .fixed 0⟩, ⟨1973, .january, .on 1, hms 0 0 0⟩),
    (⟨west 5 0 0, .following Rules.unitedStates⟩, ⟨1975, .january, .on 1, hms 0 0 0⟩),
    (⟨west 5 0 0, .fixed 0⟩, ⟨1975, .april, .on 27, hms 2 0 0⟩)]
  present := ⟨west 5 0 0, .following Rules.unitedStates⟩

def edmonton : ZoneHistory where
  past := [(⟨west 7 33 52, .fixed 0⟩, ⟨1906, .september, .on 1, hms 0 0 0⟩),
    (⟨west 7 0 0, .following Rules.edmonton⟩, ⟨1987, .january, .on 1, hms 0 0 0⟩)]
  present := ⟨west 7 0 0, .following Rules.canada⟩

def elSalvador : ZoneHistory where
  past := [(⟨west 5 56 48, .fixed 0⟩, ⟨1921, .january, .on 1, hms 0 0 0⟩)]
  present := ⟨west 6 0 0, .following Rules.elSalvador⟩

def fortNelson : ZoneHistory where
  past := [(⟨west 8 10 47, .fixed 0⟩, ⟨1884, .january, .on 1, hms 0 0 0⟩),
    (⟨west 8 0 0, .following Rules.vancouver⟩, ⟨1946, .january, .on 1, hms 0 0 0⟩),
    (⟨west 8 0 0, .fixed 0⟩, ⟨1947, .january, .on 1, hms 0 0 0⟩),
    (⟨west 8 0 0, .following Rules.vancouver⟩, ⟨1987, .january, .on 1, hms 0 0 0⟩),
    (⟨west 8 0 0, .following Rules.canada⟩, ⟨2015, .march, .on 8, hms 2 0 0⟩)]
  present := ⟨west 7 0 0, .fixed 0⟩

def glaceBay : ZoneHistory where
  past := [(⟨west 3 59 48, .fixed 0⟩, ⟨1902, .june, .on 15, hms 0 0 0⟩),
    (⟨west 4 0 0, .following Rules.canada⟩, ⟨1953, .january, .on 1, hms 0 0 0⟩),
    (⟨west 4 0 0, .following Rules.halifax⟩, ⟨1954, .january, .on 1, hms 0 0 0⟩),
    (⟨west 4 0 0, .fixed 0⟩, ⟨1972, .january, .on 1, hms 0 0 0⟩),
    (⟨west 4 0 0, .following Rules.halifax⟩, ⟨1974, .january, .on 1, hms 0 0 0⟩)]
  present := ⟨west 4 0 0, .following Rules.canada⟩

def gooseBay : ZoneHistory where
  past := [(⟨west 4 1 40, .fixed 0⟩, ⟨1884, .january, .on 1, hms 0 0 0⟩),
    (⟨west 3 30 52, .fixed 0⟩, ⟨1918, .january, .on 1, hms 0 0 0⟩),
    (⟨west 3 30 52, .following Rules.canada⟩, ⟨1919, .january, .on 1, hms 0 0 0⟩),
    (⟨west 3 30 52, .fixed 0⟩, ⟨1935, .march, .on 30, hms 0 0 0⟩),
    (⟨west 3 30 0, .fixed 0⟩, ⟨1936, .january, .on 1, hms 0 0 0⟩),
    (⟨west 3 30 0, .following Rules.stJohns⟩, ⟨1942, .may, .on 11, hms 0 0 0⟩),
    (⟨west 3 30 0, .following Rules.canada⟩, ⟨1946, .january, .on 1, hms 0 0 0⟩),
    (⟨west 3 30 0, .following Rules.stJohns⟩, ⟨1966, .march, .on 15, hms 2 0 0⟩),
    (⟨west 4 0 0, .following Rules.stJohns⟩, ⟨2011, .november, .on 1, hms 0 0 0⟩)]
  present := ⟨west 4 0 0, .following Rules.canada⟩

def grandTurk : ZoneHistory where
  past := [(⟨west 4 44 32, .fixed 0⟩, ⟨1890, .january, .on 1, hms 0 0 0⟩),
    (⟨west 5 7 10, .fixed 0⟩, ⟨1912, .february, .on 1, hms 0 0 0⟩),
    (⟨west 5 0 0, .fixed 0⟩, ⟨1979, .january, .on 1, hms 0 0 0⟩),
    (⟨west 5 0 0, .following Rules.unitedStates⟩, ⟨2015, .march, .on 8, hms 2 0 0⟩),
    (⟨west 4 0 0, .fixed 0⟩, ⟨2018, .march, .on 11, hms 3 0 0⟩)]
  present := ⟨west 5 0 0, .following Rules.unitedStates⟩

def guatemala : ZoneHistory where
  past := [(⟨west 6 2 4, .fixed 0⟩, ⟨1918, .october, .on 5, hms 0 0 0⟩)]
  present := ⟨west 6 0 0, .following Rules.guatemala⟩

def halifax : ZoneHistory where
  past := [(⟨west 4 14 24, .fixed 0⟩, ⟨1902, .june, .on 15, hms 0 0 0⟩),
    (⟨west 4 0 0, .following Rules.halifax⟩, ⟨1918, .january, .on 1, hms 0 0 0⟩),
    (⟨west 4 0 0, .following Rules.canada⟩, ⟨1919, .january, .on 1, hms 0 0 0⟩),
    (⟨west 4 0 0, .following Rules.halifax⟩, ⟨1942, .february, .on 9, hms 2 0 0⟩),
    (⟨west 4 0 0, .following Rules.canada⟩, ⟨1946, .january, .on 1, hms 0 0 0⟩),
    (⟨west 4 0 0, .following Rules.halifax⟩, ⟨1974, .january, .on 1, hms 0 0 0⟩)]
  present := ⟨west 4 0 0, .following Rules.canada⟩

def havana : ZoneHistory where
  past := [(⟨west 5 29 28, .fixed 0⟩, ⟨1890, .january, .on 1, hms 0 0 0⟩),
    (⟨west 5 29 36, .fixed 0⟩, ⟨1925, .july, .on 19, hms 12 0 0⟩)]
  present := ⟨west 5 0 0, .following Rules.cuba⟩

def hermosillo : ZoneHistory where
  past := [(⟨west 7 23 52, .fixed 0⟩, ⟨1922, .january, .on 1, hms 7 0 0⟩),
    (⟨west 7 0 0, .fixed 0⟩, ⟨1927, .june, .on 10, hms 23 0 0⟩),
    (⟨west 6 0 0, .fixed 0⟩, ⟨1930, .november, .on 15, hms 0 0 0⟩),
    (⟨west 7 0 0, .following Rules.mexico⟩, ⟨1932, .april, .on 1, hms 0 0 0⟩),
    (⟨west 6 0 0, .fixed 0⟩, ⟨1942, .april, .on 24, hms 0 0 0⟩),
    (⟨west 7 0 0, .fixed 0⟩, ⟨1949, .january, .on 14, hms 0 0 0⟩),
    (⟨west 8 0 0, .fixed 0⟩, ⟨1970, .january, .on 1, hms 0 0 0⟩),
    (⟨west 7 0 0, .following Rules.mexico⟩, ⟨1999, .january, .on 1, hms 0 0 0⟩)]
  present := ⟨west 7 0 0, .fixed 0⟩

def indianaIndianapolis : ZoneHistory where
  past := [(⟨west 5 44 38, .fixed 0⟩, ⟨1883, .november, .on 18, hms 18 0 0⟩),
    (⟨west 6 0 0, .following Rules.unitedStates⟩, ⟨1920, .january, .on 1, hms 0 0 0⟩),
    (⟨west 6 0 0, .following Rules.indianapolis⟩, ⟨1942, .january, .on 1, hms 0 0 0⟩),
    (⟨west 6 0 0, .following Rules.unitedStates⟩, ⟨1946, .january, .on 1, hms 0 0 0⟩),
    (⟨west 6 0 0, .following Rules.indianapolis⟩, ⟨1955, .april, .on 24, hms 2 0 0⟩),
    (⟨west 5 0 0, .fixed 0⟩, ⟨1957, .september, .on 29, hms 2 0 0⟩),
    (⟨west 6 0 0, .fixed 0⟩, ⟨1958, .april, .on 27, hms 2 0 0⟩),
    (⟨west 5 0 0, .fixed 0⟩, ⟨1969, .january, .on 1, hms 0 0 0⟩),
    (⟨west 5 0 0, .following Rules.unitedStates⟩, ⟨1971, .january, .on 1, hms 0 0 0⟩),
    (⟨west 5 0 0, .fixed 0⟩, ⟨2006, .january, .on 1, hms 0 0 0⟩)]
  present := ⟨west 5 0 0, .following Rules.unitedStates⟩

def indianaKnox : ZoneHistory where
  past := [(⟨west 5 46 30, .fixed 0⟩, ⟨1883, .november, .on 18, hms 18 0 0⟩),
    (⟨west 6 0 0, .following Rules.unitedStates⟩, ⟨1947, .january, .on 1, hms 0 0 0⟩),
    (⟨west 6 0 0, .following Rules.starkeCounty⟩, ⟨1962, .april, .on 29, hms 2 0 0⟩),
    (⟨west 5 0 0, .fixed 0⟩, ⟨1963, .october, .on 27, hms 2 0 0⟩),
    (⟨west 6 0 0, .following Rules.unitedStates⟩, ⟨1991, .october, .on 27, hms 2 0 0⟩),
    (⟨west 5 0 0, .fixed 0⟩, ⟨2006, .april, .on 2, hms 2 0 0⟩)]
  present := ⟨west 6 0 0, .following Rules.unitedStates⟩

def indianaMarengo : ZoneHistory where
  past := [(⟨west 5 45 23, .fixed 0⟩, ⟨1883, .november, .on 18, hms 18 0 0⟩),
    (⟨west 6 0 0, .following Rules.unitedStates⟩, ⟨1951, .january, .on 1, hms 0 0 0⟩),
    (⟨west 6 0 0, .following Rules.marengo⟩, ⟨1961, .april, .on 30, hms 2 0 0⟩),
    (⟨west 5 0 0, .fixed 0⟩, ⟨1969, .january, .on 1, hms 0 0 0⟩),
    (⟨west 5 0 0, .following Rules.unitedStates⟩, ⟨1974, .january, .on 6, hms 2 0 0⟩),
    (⟨west 6 0 0, .fixed 60⟩, ⟨1974, .october, .on 27, hms 2 0 0⟩),
    (⟨west 5 0 0, .following Rules.unitedStates⟩, ⟨1976, .january, .on 1, hms 0 0 0⟩),
    (⟨west 5 0 0, .fixed 0⟩, ⟨2006, .january, .on 1, hms 0 0 0⟩)]
  present := ⟨west 5 0 0, .following Rules.unitedStates⟩

def indianaPetersburg : ZoneHistory where
  past := [(⟨west 5 49 7, .fixed 0⟩, ⟨1883, .november, .on 18, hms 18 0 0⟩),
    (⟨west 6 0 0, .following Rules.unitedStates⟩, ⟨1955, .january, .on 1, hms 0 0 0⟩),
    (⟨west 6 0 0, .following Rules.pikeCounty⟩, ⟨1965, .april, .on 25, hms 2 0 0⟩),
    (⟨west 5 0 0, .fixed 0⟩, ⟨1966, .october, .on 30, hms 2 0 0⟩),
    (⟨west 6 0 0, .following Rules.unitedStates⟩, ⟨1977, .october, .on 30, hms 2 0 0⟩),
    (⟨west 5 0 0, .fixed 0⟩, ⟨2006, .april, .on 2, hms 2 0 0⟩),
    (⟨west 6 0 0, .following Rules.unitedStates⟩, ⟨2007, .november, .on 4, hms 2 0 0⟩)]
  present := ⟨west 5 0 0, .following Rules.unitedStates⟩

def indianaTellCity : ZoneHistory where
  past := [(⟨west 5 47 3, .fixed 0⟩, ⟨1883, .november, .on 18, hms 18 0 0⟩),
    (⟨west 6 0 0, .following Rules.unitedStates⟩, ⟨1946, .january, .on 1, hms 0 0 0⟩),
    (⟨west 6 0 0, .following Rules.perryCounty⟩, ⟨1964, .april, .on 26, hms 2 0 0⟩),
    (⟨west 5 0 0, .fixed 0⟩, ⟨1967, .october, .on 29, hms 2 0 0⟩),
    (⟨west 6 0 0, .following Rules.unitedStates⟩, ⟨1969, .april, .on 27, hms 2 0 0⟩),
    (⟨west 5 0 0, .following Rules.unitedStates⟩, ⟨1971, .january, .on 1, hms 0 0 0⟩),
    (⟨west 5 0 0, .fixed 0⟩, ⟨2006, .april, .on 2, hms 2 0 0⟩)]
  present := ⟨west 6 0 0, .following Rules.unitedStates⟩

def indianaVevay : ZoneHistory where
  past := [(⟨west 5 40 16, .fixed 0⟩, ⟨1883, .november, .on 18, hms 18 0 0⟩),
    (⟨west 6 0 0, .following Rules.unitedStates⟩, ⟨1954, .april, .on 25, hms 2 0 0⟩),
    (⟨west 5 0 0, .fixed 0⟩, ⟨1969, .january, .on 1, hms 0 0 0⟩),
    (⟨west 5 0 0, .following Rules.unitedStates⟩, ⟨1973, .january, .on 1, hms 0 0 0⟩),
    (⟨west 5 0 0, .fixed 0⟩, ⟨2006, .january, .on 1, hms 0 0 0⟩)]
  present := ⟨west 5 0 0, .following Rules.unitedStates⟩

def indianaVincennes : ZoneHistory where
  past := [(⟨west 5 50 7, .fixed 0⟩, ⟨1883, .november, .on 18, hms 18 0 0⟩),
    (⟨west 6 0 0, .following Rules.unitedStates⟩, ⟨1946, .january, .on 1, hms 0 0 0⟩),
    (⟨west 6 0 0, .following Rules.vincennes⟩, ⟨1964, .april, .on 26, hms 2 0 0⟩),
    (⟨west 5 0 0, .fixed 0⟩, ⟨1969, .january, .on 1, hms 0 0 0⟩),
    (⟨west 5 0 0, .following Rules.unitedStates⟩, ⟨1971, .january, .on 1, hms 0 0 0⟩),
    (⟨west 5 0 0, .fixed 0⟩, ⟨2006, .april, .on 2, hms 2 0 0⟩),
    (⟨west 6 0 0, .following Rules.unitedStates⟩, ⟨2007, .november, .on 4, hms 2 0 0⟩)]
  present := ⟨west 5 0 0, .following Rules.unitedStates⟩

def indianaWinamac : ZoneHistory where
  past := [(⟨west 5 46 25, .fixed 0⟩, ⟨1883, .november, .on 18, hms 18 0 0⟩),
    (⟨west 6 0 0, .following Rules.unitedStates⟩, ⟨1946, .january, .on 1, hms 0 0 0⟩),
    (⟨west 6 0 0, .following Rules.pulaskiCounty⟩, ⟨1961, .april, .on 30, hms 2 0 0⟩),
    (⟨west 5 0 0, .fixed 0⟩, ⟨1969, .january, .on 1, hms 0 0 0⟩),
    (⟨west 5 0 0, .following Rules.unitedStates⟩, ⟨1971, .january, .on 1, hms 0 0 0⟩),
    (⟨west 5 0 0, .fixed 0⟩, ⟨2006, .april, .on 2, hms 2 0 0⟩),
    (⟨west 6 0 0, .following Rules.unitedStates⟩, ⟨2007, .march, .on 11, hms 2 0 0⟩)]
  present := ⟨west 5 0 0, .following Rules.unitedStates⟩

def inuvik : ZoneHistory where
  past := [(⟨east 0 0 0, .fixed 0⟩, ⟨1953, .january, .on 1, hms 0 0 0⟩),
    (⟨west 8 0 0, .following Rules.northwestTerritories⟩,
      ⟨1979, .april, .last .sunday, hms 2 0 0⟩),
    (⟨west 7 0 0, .following Rules.northwestTerritories⟩, ⟨1980, .january, .on 1, hms 0 0 0⟩)]
  present := ⟨west 7 0 0, .following Rules.canada⟩

def iqaluit : ZoneHistory where
  past := [(⟨east 0 0 0, .fixed 0⟩, ⟨1942, .august, .on 1, hms 0 0 0⟩),
    (⟨west 5 0 0, .following Rules.northwestTerritories⟩, ⟨1999, .october, .on 31, hms 2 0 0⟩),
    (⟨west 6 0 0, .following Rules.canada⟩, ⟨2000, .october, .on 29, hms 2 0 0⟩)]
  present := ⟨west 5 0 0, .following Rules.canada⟩

def jamaica : ZoneHistory where
  past := [(⟨west 5 7 10, .fixed 0⟩, ⟨1890, .january, .on 1, hms 0 0 0⟩),
    (⟨west 5 7 10, .fixed 0⟩, ⟨1912, .february, .on 1, hms 0 0 0⟩),
    (⟨west 5 0 0, .fixed 0⟩, ⟨1974, .january, .on 1, hms 0 0 0⟩),
    (⟨west 5 0 0, .following Rules.unitedStates⟩, ⟨1984, .january, .on 1, hms 0 0 0⟩)]
  present := ⟨west 5 0 0, .fixed 0⟩

def juneau : ZoneHistory where
  past := [(⟨east 15 2 19, .fixed 0⟩, ⟨1867, .october, .on 19, hms 15 33 32⟩),
    (⟨west 8 57 41, .fixed 0⟩, ⟨1900, .august, .on 20, hms 12 0 0⟩),
    (⟨west 8 0 0, .fixed 0⟩, ⟨1942, .january, .on 1, hms 0 0 0⟩),
    (⟨west 8 0 0, .following Rules.unitedStates⟩, ⟨1946, .january, .on 1, hms 0 0 0⟩),
    (⟨west 8 0 0, .fixed 0⟩, ⟨1969, .january, .on 1, hms 0 0 0⟩),
    (⟨west 8 0 0, .following Rules.unitedStates⟩, ⟨1980, .april, .on 27, hms 2 0 0⟩),
    (⟨west 9 0 0, .following Rules.unitedStates⟩, ⟨1980, .october, .on 26, hms 2 0 0⟩),
    (⟨west 8 0 0, .following Rules.unitedStates⟩, ⟨1983, .october, .on 30, hms 2 0 0⟩),
    (⟨west 9 0 0, .following Rules.unitedStates⟩, ⟨1983, .november, .on 30, hms 0 0 0⟩)]
  present := ⟨west 9 0 0, .following Rules.unitedStates⟩

def kentuckyLouisville : ZoneHistory where
  past := [(⟨west 5 43 2, .fixed 0⟩, ⟨1883, .november, .on 18, hms 18 0 0⟩),
    (⟨west 6 0 0, .following Rules.unitedStates⟩, ⟨1921, .january, .on 1, hms 0 0 0⟩),
    (⟨west 6 0 0, .following Rules.louisville⟩, ⟨1942, .january, .on 1, hms 0 0 0⟩),
    (⟨west 6 0 0, .following Rules.unitedStates⟩, ⟨1946, .january, .on 1, hms 0 0 0⟩),
    (⟨west 6 0 0, .following Rules.louisville⟩, ⟨1961, .july, .on 23, hms 2 0 0⟩),
    (⟨west 5 0 0, .fixed 0⟩, ⟨1968, .january, .on 1, hms 0 0 0⟩),
    (⟨west 5 0 0, .following Rules.unitedStates⟩, ⟨1974, .january, .on 6, hms 2 0 0⟩),
    (⟨west 6 0 0, .fixed 60⟩, ⟨1974, .october, .on 27, hms 2 0 0⟩)]
  present := ⟨west 5 0 0, .following Rules.unitedStates⟩

def kentuckyMonticello : ZoneHistory where
  past := [(⟨west 5 39 24, .fixed 0⟩, ⟨1883, .november, .on 18, hms 18 0 0⟩),
    (⟨west 6 0 0, .following Rules.unitedStates⟩, ⟨1946, .january, .on 1, hms 0 0 0⟩),
    (⟨west 6 0 0, .fixed 0⟩, ⟨1968, .january, .on 1, hms 0 0 0⟩),
    (⟨west 6 0 0, .following Rules.unitedStates⟩, ⟨2000, .october, .on 29, hms 2 0 0⟩)]
  present := ⟨west 5 0 0, .following Rules.unitedStates⟩

def losAngeles : ZoneHistory where
  past := [(⟨west 7 52 58, .fixed 0⟩, ⟨1883, .november, .on 18, hms 20 0 0⟩),
    (⟨west 8 0 0, .following Rules.unitedStates⟩, ⟨1946, .january, .on 1, hms 0 0 0⟩),
    (⟨west 8 0 0, .following Rules.california⟩, ⟨1967, .january, .on 1, hms 0 0 0⟩)]
  present := ⟨west 8 0 0, .following Rules.unitedStates⟩

def managua : ZoneHistory where
  past := [(⟨west 5 45 8, .fixed 0⟩, ⟨1890, .january, .on 1, hms 0 0 0⟩),
    (⟨west 5 45 12, .fixed 0⟩, ⟨1934, .june, .on 23, hms 0 0 0⟩),
    (⟨west 6 0 0, .fixed 0⟩, ⟨1973, .may, .on 1, hms 0 0 0⟩),
    (⟨west 5 0 0, .fixed 0⟩, ⟨1975, .february, .on 16, hms 0 0 0⟩),
    (⟨west 6 0 0, .following Rules.nicaragua⟩, ⟨1992, .january, .on 1, hms 4 0 0⟩),
    (⟨west 5 0 0, .fixed 0⟩, ⟨1992, .september, .on 24, hms 0 0 0⟩),
    (⟨west 6 0 0, .fixed 0⟩, ⟨1993, .january, .on 1, hms 0 0 0⟩),
    (⟨west 5 0 0, .fixed 0⟩, ⟨1997, .january, .on 1, hms 0 0 0⟩)]
  present := ⟨west 6 0 0, .following Rules.nicaragua⟩

def martinique : ZoneHistory where
  past := [(⟨west 4 4 20, .fixed 0⟩, ⟨1890, .january, .on 1, hms 0 0 0⟩),
    (⟨west 4 4 20, .fixed 0⟩, ⟨1911, .may, .on 1, hms 0 0 0⟩),
    (⟨west 4 0 0, .fixed 0⟩, ⟨1980, .april, .on 6, hms 0 0 0⟩),
    (⟨west 4 0 0, .fixed 60⟩, ⟨1980, .september, .on 28, hms 0 0 0⟩)]
  present := ⟨west 4 0 0, .fixed 0⟩

def matamoros : ZoneHistory where
  past := [(⟨west 6 30 0, .fixed 0⟩, ⟨1922, .january, .on 1, hms 6 0 0⟩),
    (⟨west 6 0 0, .fixed 0⟩, ⟨1988, .january, .on 1, hms 0 0 0⟩),
    (⟨west 6 0 0, .following Rules.unitedStates⟩, ⟨1989, .january, .on 1, hms 0 0 0⟩),
    (⟨west 6 0 0, .following Rules.mexico⟩, ⟨2010, .january, .on 1, hms 0 0 0⟩)]
  present := ⟨west 6 0 0, .following Rules.unitedStates⟩

def mazatlan : ZoneHistory where
  past := [(⟨west 7 5 40, .fixed 0⟩, ⟨1922, .january, .on 1, hms 7 0 0⟩),
    (⟨west 7 0 0, .fixed 0⟩, ⟨1927, .june, .on 10, hms 23 0 0⟩),
    (⟨west 6 0 0, .fixed 0⟩, ⟨1930, .november, .on 15, hms 0 0 0⟩),
    (⟨west 7 0 0, .following Rules.mexico⟩, ⟨1932, .april, .on 1, hms 0 0 0⟩),
    (⟨west 6 0 0, .fixed 0⟩, ⟨1942, .april, .on 24, hms 0 0 0⟩),
    (⟨west 7 0 0, .fixed 0⟩, ⟨1949, .january, .on 14, hms 0 0 0⟩),
    (⟨west 8 0 0, .fixed 0⟩, ⟨1970, .january, .on 1, hms 0 0 0⟩)]
  present := ⟨west 7 0 0, .following Rules.mexico⟩

def menominee : ZoneHistory where
  past := [(⟨west 5 50 27, .fixed 0⟩, ⟨1885, .september, .on 18, hms 12 0 0⟩),
    (⟨west 6 0 0, .following Rules.unitedStates⟩, ⟨1946, .january, .on 1, hms 0 0 0⟩),
    (⟨west 6 0 0, .following Rules.menominee⟩, ⟨1969, .april, .on 27, hms 2 0 0⟩),
    (⟨west 5 0 0, .fixed 0⟩, ⟨1973, .april, .on 29, hms 2 0 0⟩)]
  present := ⟨west 6 0 0, .following Rules.unitedStates⟩

def merida : ZoneHistory where
  past := [(⟨west 5 58 28, .fixed 0⟩, ⟨1922, .january, .on 1, hms 6 0 0⟩),
    (⟨west 6 0 0, .fixed 0⟩, ⟨1981, .december, .on 23, hms 0 0 0⟩),
    (⟨west 5 0 0, .fixed 0⟩, ⟨1982, .december, .on 2, hms 0 0 0⟩)]
  present := ⟨west 6 0 0, .following Rules.mexico⟩

def metlakatla : ZoneHistory where
  past := [(⟨east 15 13 42, .fixed 0⟩, ⟨1867, .october, .on 19, hms 15 44 55⟩),
    (⟨west 8 46 18, .fixed 0⟩, ⟨1900, .august, .on 20, hms 12 0 0⟩),
    (⟨west 8 0 0, .fixed 0⟩, ⟨1942, .january, .on 1, hms 0 0 0⟩),
    (⟨west 8 0 0, .following Rules.unitedStates⟩, ⟨1946, .january, .on 1, hms 0 0 0⟩),
    (⟨west 8 0 0, .fixed 0⟩, ⟨1969, .january, .on 1, hms 0 0 0⟩),
    (⟨west 8 0 0, .following Rules.unitedStates⟩, ⟨1983, .october, .on 30, hms 2 0 0⟩),
    (⟨west 8 0 0, .fixed 0⟩, ⟨2015, .november, .on 1, hms 2 0 0⟩),
    (⟨west 9 0 0, .following Rules.unitedStates⟩, ⟨2018, .november, .on 4, hms 2 0 0⟩),
    (⟨west 8 0 0, .fixed 0⟩, ⟨2019, .january, .on 20, hms 2 0 0⟩)]
  present := ⟨west 9 0 0, .following Rules.unitedStates⟩

def mexicoCity : ZoneHistory where
  past := [(⟨west 6 36 36, .fixed 0⟩, ⟨1922, .january, .on 1, hms 7 0 0⟩),
    (⟨west 7 0 0, .fixed 0⟩, ⟨1927, .june, .on 10, hms 23 0 0⟩),
    (⟨west 6 0 0, .fixed 0⟩, ⟨1930, .november, .on 15, hms 0 0 0⟩),
    (⟨west 7 0 0, .following Rules.mexico⟩, ⟨1932, .april, .on 1, hms 0 0 0⟩),
    (⟨west 6 0 0, .following Rules.mexico⟩, ⟨2001, .september, .on 30, hms 2 0 0⟩),
    (⟨west 6 0 0, .fixed 0⟩, ⟨2002, .february, .on 20, hms 0 0 0⟩)]
  present := ⟨west 6 0 0, .following Rules.mexico⟩

def miquelon : ZoneHistory where
  past := [(⟨west 3 44 40, .fixed 0⟩, ⟨1911, .june, .on 15, hms 0 0 0⟩),
    (⟨west 4 0 0, .fixed 0⟩, ⟨1980, .may, .on 1, hms 0 0 0⟩),
    (⟨west 3 0 0, .fixed 0⟩, ⟨1987, .january, .on 1, hms 0 0 0⟩)]
  present := ⟨west 3 0 0, .following Rules.canada⟩

def moncton : ZoneHistory where
  past := [(⟨west 4 19 8, .fixed 0⟩, ⟨1883, .december, .on 9, hms 0 0 0⟩),
    (⟨west 5 0 0, .fixed 0⟩, ⟨1902, .june, .on 15, hms 0 0 0⟩),
    (⟨west 4 0 0, .following Rules.canada⟩, ⟨1933, .january, .on 1, hms 0 0 0⟩),
    (⟨west 4 0 0, .following Rules.moncton⟩, ⟨1942, .january, .on 1, hms 0 0 0⟩),
    (⟨west 4 0 0, .following Rules.canada⟩, ⟨1946, .january, .on 1, hms 0 0 0⟩),
    (⟨west 4 0 0, .following Rules.moncton⟩, ⟨1973, .january, .on 1, hms 0 0 0⟩),
    (⟨west 4 0 0, .following Rules.canada⟩, ⟨1993, .january, .on 1, hms 0 0 0⟩),
    (⟨west 4 0 0, .following Rules.moncton⟩, ⟨2007, .january, .on 1, hms 0 0 0⟩)]
  present := ⟨west 4 0 0, .following Rules.canada⟩

def monterrey : ZoneHistory where
  past := [(⟨west 6 41 16, .fixed 0⟩, ⟨1922, .january, .on 1, hms 6 0 0⟩),
    (⟨west 6 0 0, .fixed 0⟩, ⟨1988, .january, .on 1, hms 0 0 0⟩),
    (⟨west 6 0 0, .following Rules.unitedStates⟩, ⟨1989, .january, .on 1, hms 0 0 0⟩)]
  present := ⟨west 6 0 0, .following Rules.mexico⟩

def newYork : ZoneHistory where
  past := [(⟨west 4 56 2, .fixed 0⟩, ⟨1883, .november, .on 18, hms 17 0 0⟩),
    (⟨west 5 0 0, .following Rules.unitedStates⟩, ⟨1920, .january, .on 1, hms 0 0 0⟩),
    (⟨west 5 0 0, .following Rules.newYork⟩, ⟨1942, .january, .on 1, hms 0 0 0⟩),
    (⟨west 5 0 0, .following Rules.unitedStates⟩, ⟨1946, .january, .on 1, hms 0 0 0⟩),
    (⟨west 5 0 0, .following Rules.newYork⟩, ⟨1967, .january, .on 1, hms 0 0 0⟩)]
  present := ⟨west 5 0 0, .following Rules.unitedStates⟩

def nome : ZoneHistory where
  past := [(⟨east 12 58 22, .fixed 0⟩, ⟨1867, .october, .on 19, hms 13 29 35⟩),
    (⟨west 11 1 38, .fixed 0⟩, ⟨1900, .august, .on 20, hms 12 0 0⟩),
    (⟨west 11 0 0, .fixed 0⟩, ⟨1942, .january, .on 1, hms 0 0 0⟩),
    (⟨west 11 0 0, .following Rules.unitedStates⟩, ⟨1946, .january, .on 1, hms 0 0 0⟩),
    (⟨west 11 0 0, .fixed 0⟩, ⟨1967, .april, .on 1, hms 0 0 0⟩),
    (⟨west 11 0 0, .fixed 0⟩, ⟨1969, .january, .on 1, hms 0 0 0⟩),
    (⟨west 11 0 0, .following Rules.unitedStates⟩, ⟨1983, .october, .on 30, hms 2 0 0⟩),
    (⟨west 9 0 0, .following Rules.unitedStates⟩, ⟨1983, .november, .on 30, hms 0 0 0⟩)]
  present := ⟨west 9 0 0, .following Rules.unitedStates⟩

def northDakotaBeulah : ZoneHistory where
  past := [(⟨west 6 47 7, .fixed 0⟩, ⟨1883, .november, .on 18, hms 19 0 0⟩),
    (⟨west 7 0 0, .following Rules.unitedStates⟩, ⟨2010, .november, .on 7, hms 2 0 0⟩)]
  present := ⟨west 6 0 0, .following Rules.unitedStates⟩

def northDakotaCenter : ZoneHistory where
  past := [(⟨west 6 45 12, .fixed 0⟩, ⟨1883, .november, .on 18, hms 19 0 0⟩),
    (⟨west 7 0 0, .following Rules.unitedStates⟩, ⟨1992, .october, .on 25, hms 2 0 0⟩)]
  present := ⟨west 6 0 0, .following Rules.unitedStates⟩

def northDakotaNewSalem : ZoneHistory where
  past := [(⟨west 6 45 39, .fixed 0⟩, ⟨1883, .november, .on 18, hms 19 0 0⟩),
    (⟨west 7 0 0, .following Rules.unitedStates⟩, ⟨2003, .october, .on 26, hms 2 0 0⟩)]
  present := ⟨west 6 0 0, .following Rules.unitedStates⟩

def nuuk : ZoneHistory where
  past := [(⟨west 3 26 56, .fixed 0⟩, ⟨1916, .july, .on 28, hms 0 0 0⟩),
    (⟨west 3 0 0, .fixed 0⟩, ⟨1980, .april, .on 6, hms 2 0 0⟩),
    (⟨west 3 0 0, .following Rules.europeanUnion⟩, ⟨2023, .march, .on 26, hms 1 0 0⟩),
    (⟨west 2 0 0, .fixed 0⟩, ⟨2023, .october, .on 29, hms 1 0 0⟩)]
  present := ⟨west 2 0 0, .following Rules.europeanUnion⟩

def ojinaga : ZoneHistory where
  past := [(⟨west 6 57 40, .fixed 0⟩, ⟨1922, .january, .on 1, hms 7 0 0⟩),
    (⟨west 7 0 0, .fixed 0⟩, ⟨1927, .june, .on 10, hms 23 0 0⟩),
    (⟨west 6 0 0, .fixed 0⟩, ⟨1930, .november, .on 15, hms 0 0 0⟩),
    (⟨west 7 0 0, .following Rules.mexico⟩, ⟨1932, .april, .on 1, hms 0 0 0⟩),
    (⟨west 6 0 0, .fixed 0⟩, ⟨1996, .january, .on 1, hms 0 0 0⟩),
    (⟨west 6 0 0, .following Rules.mexico⟩, ⟨1998, .january, .on 1, hms 0 0 0⟩),
    (⟨west 6 0 0, .fixed 0⟩, ⟨1998, .april, .onOrAfter .sunday 1, hms 3 0 0⟩),
    (⟨west 7 0 0, .following Rules.mexico⟩, ⟨2010, .january, .on 1, hms 0 0 0⟩),
    (⟨west 7 0 0, .following Rules.unitedStates⟩, ⟨2022, .october, .on 30, hms 2 0 0⟩),
    (⟨west 6 0 0, .fixed 0⟩, ⟨2022, .november, .on 30, hms 0 0 0⟩)]
  present := ⟨west 6 0 0, .following Rules.unitedStates⟩

def panama : ZoneHistory where
  past := [(⟨west 5 18 8, .fixed 0⟩, ⟨1890, .january, .on 1, hms 0 0 0⟩),
    (⟨west 5 19 36, .fixed 0⟩, ⟨1908, .april, .on 22, hms 0 0 0⟩)]
  present := ⟨west 5 0 0, .fixed 0⟩

def phoenix : ZoneHistory where
  past := [(⟨west 7 28 18, .fixed 0⟩, ⟨1883, .november, .on 18, hms 19 0 0⟩),
    (⟨west 7 0 0, .following Rules.unitedStates⟩, ⟨1944, .january, .on 1, hms 0 1 0⟩),
    (⟨west 7 0 0, .fixed 0⟩, ⟨1944, .april, .on 1, hms 0 1 0⟩),
    (⟨west 7 0 0, .following Rules.unitedStates⟩, ⟨1944, .october, .on 1, hms 0 1 0⟩),
    (⟨west 7 0 0, .fixed 0⟩, ⟨1967, .january, .on 1, hms 0 0 0⟩),
    (⟨west 7 0 0, .following Rules.unitedStates⟩, ⟨1968, .march, .on 21, hms 0 0 0⟩)]
  present := ⟨west 7 0 0, .fixed 0⟩

def portAuPrince : ZoneHistory where
  past := [(⟨west 4 49 20, .fixed 0⟩, ⟨1890, .january, .on 1, hms 0 0 0⟩),
    (⟨west 4 49 0, .fixed 0⟩, ⟨1917, .january, .on 24, hms 12 0 0⟩)]
  present := ⟨west 5 0 0, .following Rules.haiti⟩

def puertoRico : ZoneHistory where
  past := [(⟨west 4 24 25, .fixed 0⟩, ⟨1899, .march, .on 28, hms 12 0 0⟩),
    (⟨west 4 0 0, .fixed 0⟩, ⟨1942, .may, .on 3, hms 0 0 0⟩),
    (⟨west 4 0 0, .following Rules.unitedStates⟩, ⟨1946, .january, .on 1, hms 0 0 0⟩)]
  present := ⟨west 4 0 0, .fixed 0⟩

def rankinInlet : ZoneHistory where
  past := [(⟨east 0 0 0, .fixed 0⟩, ⟨1957, .january, .on 1, hms 0 0 0⟩),
    (⟨west 6 0 0, .following Rules.northwestTerritories⟩, ⟨2000, .october, .on 29, hms 2 0 0⟩),
    (⟨west 5 0 0, .fixed 0⟩, ⟨2001, .april, .on 1, hms 3 0 0⟩)]
  present := ⟨west 6 0 0, .following Rules.canada⟩

def regina : ZoneHistory where
  past := [(⟨west 6 58 36, .fixed 0⟩, ⟨1905, .september, .on 1, hms 0 0 0⟩),
    (⟨west 7 0 0, .following Rules.regina⟩, ⟨1960, .april, .last .sunday, hms 2 0 0⟩)]
  present := ⟨west 6 0 0, .fixed 0⟩

def resolute : ZoneHistory where
  past := [(⟨east 0 0 0, .fixed 0⟩, ⟨1947, .august, .on 31, hms 0 0 0⟩),
    (⟨west 6 0 0, .following Rules.northwestTerritories⟩, ⟨2000, .october, .on 29, hms 2 0 0⟩),
    (⟨west 5 0 0, .fixed 0⟩, ⟨2001, .april, .on 1, hms 3 0 0⟩),
    (⟨west 6 0 0, .following Rules.canada⟩, ⟨2006, .october, .on 29, hms 2 0 0⟩),
    (⟨west 5 0 0, .fixed 0⟩, ⟨2007, .march, .on 11, hms 3 0 0⟩)]
  present := ⟨west 6 0 0, .following Rules.canada⟩

def santoDomingo : ZoneHistory where
  past := [(⟨west 4 39 36, .fixed 0⟩, ⟨1890, .january, .on 1, hms 0 0 0⟩),
    (⟨west 4 40 0, .fixed 0⟩, ⟨1933, .april, .on 1, hms 12 0 0⟩),
    (⟨west 5 0 0, .following Rules.dominicanRepublic⟩, ⟨1974, .october, .on 27, hms 0 0 0⟩),
    (⟨west 4 0 0, .fixed 0⟩, ⟨2000, .october, .on 29, hms 2 0 0⟩),
    (⟨west 5 0 0, .following Rules.unitedStates⟩, ⟨2000, .december, .on 3, hms 1 0 0⟩)]
  present := ⟨west 4 0 0, .fixed 0⟩

def scoresbysund : ZoneHistory where
  past := [(⟨west 1 27 52, .fixed 0⟩, ⟨1916, .july, .on 28, hms 0 0 0⟩),
    (⟨west 2 0 0, .fixed 0⟩, ⟨1980, .april, .on 6, hms 2 0 0⟩),
    (⟨west 2 0 0, .following Rules.centralEurope⟩, ⟨1981, .march, .on 29, hms 0 0 0⟩),
    (⟨west 1 0 0, .following Rules.europeanUnion⟩, ⟨2024, .march, .on 31, hms 0 0 0⟩)]
  present := ⟨west 2 0 0, .following Rules.europeanUnion⟩

def sitka : ZoneHistory where
  past := [(⟨east 14 58 47, .fixed 0⟩, ⟨1867, .october, .on 19, hms 15 30 0⟩),
    (⟨west 9 1 13, .fixed 0⟩, ⟨1900, .august, .on 20, hms 12 0 0⟩),
    (⟨west 8 0 0, .fixed 0⟩, ⟨1942, .january, .on 1, hms 0 0 0⟩),
    (⟨west 8 0 0, .following Rules.unitedStates⟩, ⟨1946, .january, .on 1, hms 0 0 0⟩),
    (⟨west 8 0 0, .fixed 0⟩, ⟨1969, .january, .on 1, hms 0 0 0⟩),
    (⟨west 8 0 0, .following Rules.unitedStates⟩, ⟨1983, .october, .on 30, hms 2 0 0⟩),
    (⟨west 9 0 0, .following Rules.unitedStates⟩, ⟨1983, .november, .on 30, hms 0 0 0⟩)]
  present := ⟨west 9 0 0, .following Rules.unitedStates⟩

def stJohns : ZoneHistory where
  past := [(⟨west 3 30 52, .fixed 0⟩, ⟨1884, .january, .on 1, hms 0 0 0⟩),
    (⟨west 3 30 52, .following Rules.stJohns⟩, ⟨1918, .january, .on 1, hms 0 0 0⟩),
    (⟨west 3 30 52, .following Rules.canada⟩, ⟨1919, .january, .on 1, hms 0 0 0⟩),
    (⟨west 3 30 52, .following Rules.stJohns⟩, ⟨1935, .march, .on 30, hms 0 0 0⟩),
    (⟨west 3 30 0, .following Rules.stJohns⟩, ⟨1942, .may, .on 11, hms 0 0 0⟩),
    (⟨west 3 30 0, .following Rules.canada⟩, ⟨1946, .january, .on 1, hms 0 0 0⟩),
    (⟨west 3 30 0, .following Rules.stJohns⟩, ⟨2011, .november, .on 1, hms 0 0 0⟩)]
  present := ⟨west 3 30 0, .following Rules.canada⟩

def swiftCurrent : ZoneHistory where
  past := [(⟨west 7 11 20, .fixed 0⟩, ⟨1905, .september, .on 1, hms 0 0 0⟩),
    (⟨west 7 0 0, .following Rules.canada⟩, ⟨1946, .april, .last .sunday, hms 2 0 0⟩),
    (⟨west 7 0 0, .following Rules.regina⟩, ⟨1950, .january, .on 1, hms 0 0 0⟩),
    (⟨west 7 0 0, .following Rules.swiftCurrent⟩, ⟨1972, .april, .last .sunday, hms 2 0 0⟩)]
  present := ⟨west 6 0 0, .fixed 0⟩

def tegucigalpa : ZoneHistory where
  past := [(⟨west 5 48 52, .fixed 0⟩, ⟨1921, .april, .on 1, hms 0 0 0⟩)]
  present := ⟨west 6 0 0, .following Rules.honduras⟩

def thule : ZoneHistory where
  past := [(⟨west 4 35 8, .fixed 0⟩, ⟨1916, .july, .on 28, hms 0 0 0⟩)]
  present := ⟨west 4 0 0, .following Rules.thule⟩

def tijuana : ZoneHistory where
  past := [(⟨west 7 48 4, .fixed 0⟩, ⟨1922, .january, .on 1, hms 7 0 0⟩),
    (⟨west 7 0 0, .fixed 0⟩, ⟨1924, .january, .on 1, hms 0 0 0⟩),
    (⟨west 8 0 0, .fixed 0⟩, ⟨1927, .june, .on 10, hms 23 0 0⟩),
    (⟨west 7 0 0, .fixed 0⟩, ⟨1930, .november, .on 15, hms 0 0 0⟩),
    (⟨west 8 0 0, .fixed 0⟩, ⟨1931, .april, .on 1, hms 0 0 0⟩),
    (⟨west 8 0 0, .fixed 60⟩, ⟨1931, .september, .on 30, hms 0 0 0⟩),
    (⟨west 8 0 0, .fixed 0⟩, ⟨1942, .april, .on 24, hms 0 0 0⟩),
    (⟨west 8 0 0, .fixed 60⟩, ⟨1945, .august, .on 14, hms 23 0 0⟩),
    (⟨west 8 0 0, .fixed 60⟩, ⟨1945, .november, .on 12, hms 0 0 0⟩),
    (⟨west 8 0 0, .fixed 0⟩, ⟨1948, .april, .on 5, hms 0 0 0⟩),
    (⟨west 8 0 0, .fixed 60⟩, ⟨1949, .january, .on 14, hms 0 0 0⟩),
    (⟨west 8 0 0, .fixed 0⟩, ⟨1954, .january, .on 1, hms 0 0 0⟩),
    (⟨west 8 0 0, .following Rules.california⟩, ⟨1961, .january, .on 1, hms 0 0 0⟩),
    (⟨west 8 0 0, .fixed 0⟩, ⟨1976, .january, .on 1, hms 0 0 0⟩),
    (⟨west 8 0 0, .following Rules.unitedStates⟩, ⟨1996, .january, .on 1, hms 0 0 0⟩),
    (⟨west 8 0 0, .following Rules.mexico⟩, ⟨2001, .january, .on 1, hms 0 0 0⟩),
    (⟨west 8 0 0, .following Rules.unitedStates⟩, ⟨2002, .february, .on 20, hms 0 0 0⟩),
    (⟨west 8 0 0, .following Rules.mexico⟩, ⟨2010, .january, .on 1, hms 0 0 0⟩)]
  present := ⟨west 8 0 0, .following Rules.unitedStates⟩

def toronto : ZoneHistory where
  past := [(⟨west 5 17 32, .fixed 0⟩, ⟨1895, .january, .on 1, hms 0 0 0⟩),
    (⟨west 5 0 0, .following Rules.canada⟩, ⟨1919, .january, .on 1, hms 0 0 0⟩),
    (⟨west 5 0 0, .following Rules.toronto⟩, ⟨1942, .february, .on 9, hms 2 0 0⟩),
    (⟨west 5 0 0, .following Rules.canada⟩, ⟨1946, .january, .on 1, hms 0 0 0⟩),
    (⟨west 5 0 0, .following Rules.toronto⟩, ⟨1974, .january, .on 1, hms 0 0 0⟩)]
  present := ⟨west 5 0 0, .following Rules.canada⟩

def vancouver : ZoneHistory where
  past := [(⟨west 8 12 28, .fixed 0⟩, ⟨1884, .january, .on 1, hms 0 0 0⟩),
    (⟨west 8 0 0, .following Rules.vancouver⟩, ⟨1987, .january, .on 1, hms 0 0 0⟩)]
  present := ⟨west 8 0 0, .following Rules.canada⟩

def whitehorse : ZoneHistory where
  past := [(⟨west 9 0 12, .fixed 0⟩, ⟨1900, .august, .on 20, hms 0 0 0⟩),
    (⟨west 9 0 0, .following Rules.northwestTerritories⟩, ⟨1965, .january, .on 1, hms 0 0 0⟩),
    (⟨west 9 0 0, .following Rules.yukon⟩, ⟨1966, .february, .on 27, hms 0 0 0⟩),
    (⟨west 8 0 0, .fixed 0⟩, ⟨1980, .january, .on 1, hms 0 0 0⟩),
    (⟨west 8 0 0, .following Rules.canada⟩, ⟨2020, .november, .on 1, hms 0 0 0⟩)]
  present := ⟨west 7 0 0, .fixed 0⟩

def winnipeg : ZoneHistory where
  past := [(⟨west 6 28 36, .fixed 0⟩, ⟨1887, .july, .on 16, hms 0 0 0⟩),
    (⟨west 6 0 0, .following Rules.winnipeg⟩, ⟨2006, .january, .on 1, hms 0 0 0⟩)]
  present := ⟨west 6 0 0, .following Rules.canada⟩

def yakutat : ZoneHistory where
  past := [(⟨east 14 41 5, .fixed 0⟩, ⟨1867, .october, .on 19, hms 15 12 18⟩),
    (⟨west 9 18 55, .fixed 0⟩, ⟨1900, .august, .on 20, hms 12 0 0⟩),
    (⟨west 9 0 0, .fixed 0⟩, ⟨1942, .january, .on 1, hms 0 0 0⟩),
    (⟨west 9 0 0, .following Rules.unitedStates⟩, ⟨1946, .january, .on 1, hms 0 0 0⟩),
    (⟨west 9 0 0, .fixed 0⟩, ⟨1969, .january, .on 1, hms 0 0 0⟩),
    (⟨west 9 0 0, .following Rules.unitedStates⟩, ⟨1983, .november, .on 30, hms 0 0 0⟩)]
  present := ⟨west 9 0 0, .following Rules.unitedStates⟩

end ElectionReadiness.TimeZone.NorthAmerica
