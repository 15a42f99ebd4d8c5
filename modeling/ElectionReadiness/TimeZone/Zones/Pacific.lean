import ElectionReadiness.TimeZone.History
import ElectionReadiness.TimeZone.Rules.Australasia
import ElectionReadiness.TimeZone.Rules.NorthAmerica
import ElectionReadiness.TimeZone.Rules.SouthAmerica

/-!
# Zones of the Pacific

The histories of the zones of the Pacific: for every regime its
offset of standard time, its way to keep summer time, and the reading of the wall
clock at its end.
-/

set_option autoImplicit false

namespace ElectionReadiness.TimeZone.Pacific

def apia : ZoneHistory where
  past := [(⟨east 12 33 4, .fixed 0⟩, ⟨1892, .july, .on 5, hms 0 0 0⟩),
    (⟨west 11 26 56, .fixed 0⟩, ⟨1911, .january, .on 1, hms 0 0 0⟩),
    (⟨west 11 30 0, .fixed 0⟩, ⟨1950, .january, .on 1, hms 0 0 0⟩),
    (⟨west 11 0 0, .following Rules.samoa⟩, ⟨2011, .december, .on 29, hms 24 0 0⟩)]
  present := ⟨east 13 0 0, .following Rules.samoa⟩

def auckland : ZoneHistory where
  past := [(⟨east 11 39 4, .fixed 0⟩, ⟨1868, .november, .on 2, hms 0 0 0⟩),
    (⟨east 11 30 0, .following Rules.newZealand⟩, ⟨1946, .january, .on 1, hms 0 0 0⟩)]
  present := ⟨east 12 0 0, .following Rules.newZealand⟩

def bougainville : ZoneHistory where
  past := [(⟨east 10 22 16, .fixed 0⟩, ⟨1880, .january, .on 1, hms 0 0 0⟩),
    (⟨east 9 48 32, .fixed 0⟩, ⟨1895, .january, .on 1, hms 0 0 0⟩),
    (⟨east 10 0 0, .fixed 0⟩, ⟨1942, .july, .on 1, hms 0 0 0⟩),
    (⟨east 9 0 0, .fixed 0⟩, ⟨1945, .august, .on 21, hms 0 0 0⟩),
    (⟨east 10 0 0, .fixed 0⟩, ⟨2014, .december, .on 28, hms 2 0 0⟩)]
  present := ⟨east 11 0 0, .fixed 0⟩

def chatham : ZoneHistory where
  past := [(⟨east 12 13 48, .fixed 0⟩, ⟨1868, .november, .on 2, hms 0 0 0⟩),
    (⟨east 12 15 0, .fixed 0⟩, ⟨1946, .january, .on 1, hms 0 0 0⟩)]
  present := ⟨east 12 45 0, .following Rules.chathamIslands⟩

def easter : ZoneHistory where
  past := [(⟨west 7 17 28, .fixed 0⟩, ⟨1890, .january, .on 1, hms 0 0 0⟩),
    (⟨west 7 17 28, .fixed 0⟩, ⟨1932, .september, .on 1, hms 0 0 0⟩),
    (⟨west 7 0 0, .following Rules.chile⟩, ⟨1982, .march, .on 14, hms 3 0 0⟩)]
  present := ⟨west 6 0 0, .following Rules.chile⟩

def efate : ZoneHistory where
  past := [(⟨east 11 13 16, .fixed 0⟩, ⟨1912, .january, .on 13, hms 0 0 0⟩)]
  present := ⟨east 11 0 0, .following Rules.vanuatu⟩

def fakaofo : ZoneHistory where
  past := [(⟨west 11 24 56, .fixed 0⟩, ⟨1901, .january, .on 1, hms 0 0 0⟩),
    (⟨west 11 0 0, .fixed 0⟩, ⟨2011, .december, .on 30, hms 0 0 0⟩)]
  present := ⟨east 13 0 0, .fixed 0⟩

def fiji : ZoneHistory where
  past := [(⟨east 11 55 44, .fixed 0⟩, ⟨1915, .october, .on 26, hms 0 0 0⟩)]
  present := ⟨east 12 0 0, .following Rules.fiji⟩

def galapagos : ZoneHistory where
  past := [(⟨west 5 58 24, .fixed 0⟩, ⟨1931, .january, .on 1, hms 0 0 0⟩),
    (⟨west 5 0 0, .fixed 0⟩, ⟨1986, .january, .on 1, hms 0 0 0⟩)]
  present := ⟨west 6 0 0, .following Rules.ecuador⟩

def gambier : ZoneHistory where
  past := [(⟨west 8 59 48, .fixed 0⟩, ⟨1912, .october, .on 1, hms 0 0 0⟩)]
  present := ⟨west 9 0 0, .fixed 0⟩

def guadalcanal : ZoneHistory where
  past := [(⟨east 10 39 48, .fixed 0⟩, ⟨1912, .october, .on 1, hms 0 0 0⟩)]
  present := ⟨east 11 0 0, .fixed 0⟩

def guam : ZoneHistory where
  past := [(⟨west 14 21 0, .fixed 0⟩, ⟨1844, .december, .on 31, hms 0 0 0⟩),
    (⟨east 9 39 0, .fixed 0⟩, ⟨1901, .january, .on 1, hms 0 0 0⟩),
    (⟨east 10 0 0, .fixed 0⟩, ⟨1941, .december, .on 10, hms 0 0 0⟩),
    (⟨east 9 0 0, .fixed 0⟩, ⟨1944, .july, .on 31, hms 0 0 0⟩),
    (⟨east 10 0 0, .following Rules.guam⟩, ⟨2000, .december, .on 23, hms 0 0 0⟩)]
  present := ⟨east 10 0 0, .fixed 0⟩

def honolulu : ZoneHistory where
  past := [(⟨west 10 31 26, .fixed 0⟩, ⟨1896, .january, .on 13, hms 12 0 0⟩),
    (⟨west 10 30 0, .fixed 0⟩, ⟨1933, .april, .on 30, hms 2 0 0⟩),
    (⟨west 10 30 0, .fixed 60⟩, ⟨1933, .may, .on 21, hms 12 0 0⟩),
    (⟨west 10 30 0, .following Rules.unitedStates⟩, ⟨1947, .june, .on 8, hms 2 0 0⟩)]
  present := ⟨west 10 0 0, .fixed 0⟩

def kanton : ZoneHistory where
  past := [(⟨east 0 0 0, .fixed 0⟩, ⟨1937, .august, .on 31, hms 0 0 0⟩),
    (⟨west 12 0 0, .fixed 0⟩, ⟨1979, .october, .on 1, hms 0 0 0⟩),
    (⟨west 11 0 0, .fixed 0⟩, ⟨1994, .december, .on 31, hms 0 0 0⟩)]
  present := ⟨east 13 0 0, .fixed 0⟩

def kiritimati : ZoneHistory where
  past := [(⟨west 10 29 20, .fixed 0⟩, ⟨1901, .january, .on 1, hms 0 0 0⟩),
    (⟨west 10 40 0, .fixed 0⟩, ⟨1979, .october, .on 1, hms 0 0 0⟩),
    (⟨west 10 0 0, .fixed 0⟩, ⟨1994, .december, .on 31, hms 0 0 0⟩)]
  present := ⟨east 14 0 0, .fixed 0⟩

def kosrae : ZoneHistory where
  past := [(⟨west 13 8 4, .fixed 0⟩, ⟨1844, .december, .on 31, hms 0 0 0⟩),
    (⟨east 10 51 56, .fixed 0⟩, ⟨1901, .january, .on 1, hms 0 0 0⟩),
    (⟨east 11 0 0, .fixed 0⟩, ⟨1914, .october, .on 1, hms 0 0 0⟩),
    (⟨east 9 0 0, .fixed 0⟩, ⟨1919, .february, .on 1, hms 0 0 0⟩),
    (⟨east 11 0 0, .fixed 0⟩, ⟨1937, .january, .on 1, hms 0 0 0⟩),
    (⟨east 10 0 0, .fixed 0⟩, ⟨1941, .april, .on 1, hms 0 0 0⟩),
    (⟨east 9 0 0, .fixed 0⟩, ⟨1945, .august, .on 1, hms 0 0 0⟩),
    (⟨east 11 0 0, .fixed 0⟩, ⟨1969, .october, .on 1, hms 0 0 0⟩),
    (⟨east 12 0 0, .fixed 0⟩, ⟨1999, .january, .on 1, hms 0 0 0⟩)]
  present := ⟨east 11 0 0, .fixed 0⟩

def kwajalein : ZoneHistory where
  past := [(⟨east 11 9 20, .fixed 0⟩, ⟨1901, .january, .on 1, hms 0 0 0⟩),
    (⟨east 11 0 0, .fixed 0⟩, ⟨1937, .january, .on 1, hms 0 0 0⟩),
    (⟨east 10 0 0, .fixed 0⟩, ⟨1941, .april, .on 1, hms 0 0 0⟩),
    (⟨east 9 0 0, .fixed 0⟩, ⟨1944, .february, .on 6, hms 0 0 0⟩),
    (⟨east 11 0 0, .fixed 0⟩, ⟨1969, .october, .on 1, hms 0 0 0⟩),
    (⟨west 12 0 0, .fixed 0⟩, ⟨1993, .august, .on 20, hms 24 0 0⟩)]
  present := ⟨east 12 0 0, .fixed 0⟩

def marquesas : ZoneHistory where
  past := [(⟨west 9 18 0, .fixed 0⟩, ⟨1912, .october, .on 1, hms 0 0 0⟩)]
  present := ⟨west 9 30 0, .fixed 0⟩

def nauru : ZoneHistory where
  past := [(⟨east 11 7 40, .fixed 0⟩, ⟨1921, .january, .on 15, hms 0 0 0⟩),
    (⟨east 11 30 0, .fixed 0⟩, ⟨1942, .august, .on 29, hms 0 0 0⟩),
    (⟨east 9 0 0, .fixed 0⟩, ⟨1945, .september, .on 8, hms 0 0 0⟩),
    (⟨east 11 30 0, .fixed 0⟩, ⟨1979, .february, .on 10, hms 2 0 0⟩)]
  present := ⟨east 12 0 0, .fixed 0⟩

def niue : ZoneHistory where
  past := [(⟨west 11 19 40, .fixed 0⟩, ⟨1952, .october, .on 16, hms 0 0 0⟩),
    (⟨west 11 20 0, .fixed 0⟩, ⟨1964, .july, .on 1, hms 0 0 0⟩)]
  present := ⟨west 11 0 0, .fixed 0⟩

def norfolk : ZoneHistory where
  past := [(⟨east 11 11 52, .fixed 0⟩, ⟨1901, .january, .on 1, hms 0 0 0⟩),
    (⟨east 11 12 0, .fixed 0⟩, ⟨1951, .january, .on 1, hms 0 0 0⟩),
    (⟨east 11 30 0, .fixed 0⟩, ⟨1974, .october, .on 27, hms 2 0 0⟩),
    (⟨east 11 30 0, .fixed 60⟩, ⟨1975, .march, .on 2, hms 2 0 0⟩),
    (⟨east 11 30 0, .fixed 0⟩, ⟨2015, .october, .on 4, hms 2 0 0⟩),
    (⟨east 11 0 0, .fixed 0⟩, ⟨2019, .july, .on 1, hms 0 0 0⟩)]
  present := ⟨east 11 0 0, .following Rules.newSouthWales⟩

def noumea : ZoneHistory where
  past := [(⟨east 11 5 48, .fixed 0⟩, ⟨1912, .january, .on 13, hms 0 0 0⟩)]
  present := ⟨east 11 0 0, .following Rules.newCaledonia⟩

def pagoPago : ZoneHistory where
  past := [(⟨east 12 37 12, .fixed 0⟩, ⟨1892, .july, .on 5, hms 0 0 0⟩),
    (⟨west 11 22 48, .fixed 0⟩, ⟨1911, .january, .on 1, hms 0 0 0⟩)]
  present := ⟨west 11 0 0, .fixed 0⟩

def palau : ZoneHistory where
  past := [(⟨west 15 2 4, .fixed 0⟩, ⟨1844, .december, .on 31, hms 0 0 0⟩),
    (⟨east 8 57 56, .fixed 0⟩, ⟨1901, .january, .on 1, hms 0 0 0⟩)]
  present := ⟨east 9 0 0, .fixed 0⟩

def pitcairn : ZoneHistory where
  past := [(⟨west 8 40 20, .fixed 0⟩, ⟨1901, .january, .on 1, hms 0 0 0⟩),
    (⟨west 8 30 0, .fixed 0⟩, ⟨1998, .april, .on 27, hms 0 0 0⟩)]
  present := ⟨west 8 0 0, .fixed 0⟩

def portMoresby : ZoneHistory where
  past := [(⟨east 9 48 40, .fixed 0⟩, ⟨1880, .january, .on 1, hms 0 0 0⟩),
    (⟨east 9 48 32, .fixed 0⟩, ⟨1895, .january, .on 1, hms 0 0 0⟩)]
  present := ⟨east 10 0 0, .fixed 0⟩

def rarotonga : ZoneHistory where
  past := [(⟨east 13 20 56, .fixed 0⟩, ⟨1899, .december, .on 26, hms 0 0 0⟩),
    (⟨west 10 39 4, .fixed 0⟩, ⟨1952, .october, .on 16, hms 0 0 0⟩),
    (⟨west 10 30 0, .fixed 0⟩, ⟨1978, .november, .on 12, hms 0 0 0⟩)]
  present := ⟨west 10 0 0, .following Rules.cookIslands⟩

def tahiti : ZoneHistory where
  past := [(⟨west 9 58 16, .fixed 0⟩, ⟨1912, .october, .on 1, hms 0 0 0⟩)]
  present := ⟨west 10 0 0, .fixed 0⟩

def tarawa : ZoneHistory where
  past := [(⟨east 11 32 4, .fixed 0⟩, ⟨1901, .january, .on 1, hms 0 0 0⟩)]
  present := ⟨east 12 0 0, .fixed 0⟩

def tongatapu : ZoneHistory where
  past := [(⟨east 12 19 12, .fixed 0⟩, ⟨1945, .september, .on 10, hms 0 0 0⟩),
    (⟨east 12 20 0, .fixed 0⟩, ⟨1961, .january, .on 1, hms 0 0 0⟩),
    (⟨east 13 0 0, .fixed 0⟩, ⟨1999, .january, .on 1, hms 0 0 0⟩)]
  present := ⟨east 13 0 0, .following Rules.tonga⟩

end ElectionReadiness.TimeZone.Pacific
