import ElectionReadiness.TimeZone.History
import ElectionReadiness.TimeZone.Rules.Africa
import ElectionReadiness.TimeZone.Rules.Europe

/-!
# Zones of Africa

The histories of the zones of Africa: for every regime its
offset of standard time, its way to keep summer time, and the reading of the wall
clock at its end.
-/

set_option autoImplicit false

namespace ElectionReadiness.TimeZone.Africa

def abidjan : ZoneHistory where
  past := [(⟨west 0 16 8, .fixed 0⟩, ⟨1912, .january, .on 1, hms 0 0 0⟩)]
  present := ⟨east 0 0 0, .fixed 0⟩

def algiers : ZoneHistory where
  past := [(⟨east 0 12 12, .fixed 0⟩, ⟨1891, .march, .on 16, hms 0 0 0⟩),
    (⟨east 0 9 21, .fixed 0⟩, ⟨1911, .march, .on 11, hms 0 0 0⟩),
    (⟨east 0 0 0, .following Rules.algeria⟩, ⟨1940, .february, .on 25, hms 2 0 0⟩),
    (⟨east 1 0 0, .following Rules.algeria⟩, ⟨1946, .october, .on 7, hms 0 0 0⟩),
    (⟨east 0 0 0, .fixed 0⟩, ⟨1956, .january, .on 29, hms 0 0 0⟩),
    (⟨east 1 0 0, .fixed 0⟩, ⟨1963, .april, .on 14, hms 0 0 0⟩),
    (⟨east 0 0 0, .following Rules.algeria⟩, ⟨1977, .october, .on 21, hms 0 0 0⟩),
    (⟨east 1 0 0, .following Rules.algeria⟩, ⟨1979, .october, .on 26, hms 0 0 0⟩),
    (⟨east 0 0 0, .following Rules.algeria⟩, ⟨1981, .may, .on 1, hms 0 0 0⟩)]
  present := ⟨east 1 0 0, .fixed 0⟩

def bissau : ZoneHistory where
  past := [(⟨west 1 2 20, .fixed 0⟩, ⟨1912, .january, .on 1, hms 1 0 0⟩),
    (⟨west 1 0 0, .fixed 0⟩, ⟨1975, .january, .on 1, hms 0 0 0⟩)]
  present := ⟨east 0 0 0, .fixed 0⟩

def cairo : ZoneHistory where
  past := [(⟨east 2 5 9, .fixed 0⟩, ⟨1900, .october, .on 1, hms 0 0 0⟩)]
  present := ⟨east 2 0 0, .following Rules.egypt⟩

def casablanca : ZoneHistory where
  past := [(⟨west 0 30 20, .fixed 0⟩, ⟨1913, .october, .on 26, hms 0 0 0⟩),
    (⟨east 0 0 0, .following Rules.morocco⟩, ⟨1984, .march, .on 16, hms 0 0 0⟩),
    (⟨east 1 0 0, .fixed 0⟩, ⟨1986, .january, .on 1, hms 0 0 0⟩),
    (⟨east 0 0 0, .following Rules.morocco⟩, ⟨2018, .october, .on 28, hms 3 0 0⟩)]
  present := ⟨east 1 0 0, .following Rules.morocco⟩

def ceuta : ZoneHistory where
  past := [(⟨west 0 21 16, .fixed 0⟩, ⟨1901, .january, .on 1, hms 0 0 0⟩),
    (⟨east 0 0 0, .fixed 0⟩, ⟨1918, .may, .on 6, hms 23 0 0⟩),
    (⟨east 0 0 0, .fixed 60⟩, ⟨1918, .october, .on 7, hms 23 0 0⟩),
    (⟨east 0 0 0, .fixed 0⟩, ⟨1924, .january, .on 1, hms 0 0 0⟩),
    (⟨east 0 0 0, .following Rules.spain⟩, ⟨1929, .january, .on 1, hms 0 0 0⟩),
    (⟨east 0 0 0, .fixed 0⟩, ⟨1967, .january, .on 1, hms 0 0 0⟩),
    (⟨east 0 0 0, .following Rules.spanishAfrica⟩, ⟨1984, .march, .on 16, hms 0 0 0⟩),
    (⟨east 1 0 0, .fixed 0⟩, ⟨1986, .january, .on 1, hms 0 0 0⟩)]
  present := ⟨east 1 0 0, .following Rules.europeanUnion⟩

def elAaiun : ZoneHistory where
  past := [(⟨west 0 52 48, .fixed 0⟩, ⟨1934, .january, .on 1, hms 0 0 0⟩),
    (⟨west 1 0 0, .fixed 0⟩, ⟨1976, .april, .on 14, hms 0 0 0⟩),
    (⟨east 0 0 0, .following Rules.morocco⟩, ⟨2018, .october, .on 28, hms 3 0 0⟩)]
  present := ⟨east 1 0 0, .following Rules.morocco⟩

def johannesburg : ZoneHistory where
  past := [(⟨east 1 52 0, .fixed 0⟩, ⟨1892, .february, .on 8, hms 0 0 0⟩),
    (⟨east 1 30 0, .fixed 0⟩, ⟨1903, .march, .on 1, hms 0 0 0⟩)]
  present := ⟨east 2 0 0, .following Rules.southAfrica⟩

def juba : ZoneHistory where
  past := [(⟨east 2 6 28, .fixed 0⟩, ⟨1931, .january, .on 1, hms 0 0 0⟩),
    (⟨east 2 0 0, .following Rules.sudan⟩, ⟨2000, .january, .on 15, hms 12 0 0⟩),
    (⟨east 3 0 0, .fixed 0⟩, ⟨2021, .february, .on 1, hms 0 0 0⟩)]
  present := ⟨east 2 0 0, .fixed 0⟩

def khartoum : ZoneHistory where
  past := [(⟨east 2 10 8, .fixed 0⟩, ⟨1931, .january, .on 1, hms 0 0 0⟩),
    (⟨east 2 0 0, .following Rules.sudan⟩, ⟨2000, .january, .on 15, hms 12 0 0⟩),
    (⟨east 3 0 0, .fixed 0⟩, ⟨2017, .november, .on 1, hms 0 0 0⟩)]
  present := ⟨east 2 0 0, .fixed 0⟩

def lagos : ZoneHistory where
  past := [(⟨east 0 13 35, .fixed 0⟩, ⟨1905, .july, .on 1, hms 0 0 0⟩),
    (⟨east 0 0 0, .fixed 0⟩, ⟨1908, .july, .on 1, hms 0 0 0⟩),
    (⟨east 0 13 35, .fixed 0⟩, ⟨1914, .january, .on 1, hms 0 0 0⟩),
    (⟨east 0 30 0, .fixed 0⟩, ⟨1919, .september, .on 1, hms 0 0 0⟩)]
  present := ⟨east 1 0 0, .fixed 0⟩

def maputo : ZoneHistory where
  past := [(⟨east 2 10 20, .fixed 0⟩, ⟨1903, .march, .on 1, hms 0 0 0⟩)]
  present := ⟨east 2 0 0, .fixed 0⟩

def monrovia : ZoneHistory where
  past := [(⟨west 0 43 8, .fixed 0⟩, ⟨1882, .january, .on 1, hms 0 0 0⟩),
    (⟨west 0 43 8, .fixed 0⟩, ⟨1919, .march, .on 1, hms 0 0 0⟩),
    (⟨west 0 44 30, .fixed 0⟩, ⟨1972, .january, .on 7, hms 0 0 0⟩)]
  present := ⟨east 0 0 0, .fixed 0⟩

def nairobi : ZoneHistory where
  past := [(⟨east 2 27 16, .fixed 0⟩, ⟨1908, .may, .on 1, hms 0 0 0⟩),
    (⟨east 2 30 0, .fixed 0⟩, ⟨1928, .june, .on 30, hms 24 0 0⟩),
    (⟨east 3 0 0, .fixed 0⟩, ⟨1930, .january, .on 4, hms 24 0 0⟩),
    (⟨east 2 30 0, .fixed 0⟩, ⟨1936, .december, .on 31, hms 24 0 0⟩),
    (⟨east 2 45 0, .fixed 0⟩, ⟨1942, .july, .on 31, hms 24 0 0⟩)]
  present := ⟨east 3 0 0, .fixed 0⟩

def ndjamena : ZoneHistory where
  past := [(⟨east 1 0 12, .fixed 0⟩, ⟨1912, .january, .on 1, hms 0 0 0⟩),
    (⟨east 1 0 0, .fixed 0⟩, ⟨1979, .october, .on 14, hms 0 0 0⟩),
    (⟨east 1 0 0, .fixed 60⟩, ⟨1980, .march, .on 8, hms 0 0 0⟩)]
  present := ⟨east 1 0 0, .fixed 0⟩

def saoTome : ZoneHistory where
  past := [(⟨east 0 26 56, .fixed 0⟩, ⟨1884, .january, .on 1, hms 0 0 0⟩),
    (⟨west 0 36 45, .fixed 0⟩, ⟨1912, .january, .on 1, hms 0 0 0⟩),
    (⟨east 0 0 0, .fixed 0⟩, ⟨2018, .january, .on 1, hms 1 0 0⟩),
    (⟨east 1 0 0, .fixed 0⟩, ⟨2019, .january, .on 1, hms 2 0 0⟩)]
  present := ⟨east 0 0 0, .fixed 0⟩

def tripoli : ZoneHistory where
  past := [(⟨east 0 52 44, .fixed 0⟩, ⟨1920, .january, .on 1, hms 0 0 0⟩),
    (⟨east 1 0 0, .following Rules.libya⟩, ⟨1959, .january, .on 1, hms 0 0 0⟩),
    (⟨east 2 0 0, .fixed 0⟩, ⟨1982, .january, .on 1, hms 0 0 0⟩),
    (⟨east 1 0 0, .following Rules.libya⟩, ⟨1990, .may, .on 4, hms 0 0 0⟩),
    (⟨east 2 0 0, .fixed 0⟩, ⟨1996, .september, .on 30, hms 0 0 0⟩),
    (⟨east 1 0 0, .following Rules.libya⟩, ⟨1997, .october, .on 4, hms 0 0 0⟩),
    (⟨east 2 0 0, .fixed 0⟩, ⟨2012, .november, .on 10, hms 2 0 0⟩),
    (⟨east 1 0 0, .following Rules.libya⟩, ⟨2013, .october, .on 25, hms 2 0 0⟩)]
  present := ⟨east 2 0 0, .fixed 0⟩

def tunis : ZoneHistory where
  past := [(⟨east 0 40 44, .fixed 0⟩, ⟨1881, .may, .on 12, hms 0 0 0⟩),
    (⟨east 0 9 21, .fixed 0⟩, ⟨1911, .march, .on 11, hms 0 0 0⟩)]
  present := ⟨east 1 0 0, .following Rules.tunisia⟩

def windhoek : ZoneHistory where
  past := [(⟨east 1 8 24, .fixed 0⟩, ⟨1892, .february, .on 8, hms 0 0 0⟩),
    (⟨east 1 30 0, .fixed 0⟩, ⟨1903, .march, .on 1, hms 0 0 0⟩),
    (⟨east 2 0 0, .fixed 0⟩, ⟨1942, .september, .on 20, hms 2 0 0⟩),
    (⟨east 2 0 0, .fixed 60⟩, ⟨1943, .march, .on 21, hms 2 0 0⟩),
    (⟨east 2 0 0, .fixed 0⟩, ⟨1990, .march, .on 21, hms 0 0 0⟩)]
  present := ⟨east 2 0 0, .following Rules.namibia⟩

end ElectionReadiness.TimeZone.Africa
