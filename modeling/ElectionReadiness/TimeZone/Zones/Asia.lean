import ElectionReadiness.TimeZone.History
import ElectionReadiness.TimeZone.Rules.Africa
import ElectionReadiness.TimeZone.Rules.Asia
import ElectionReadiness.TimeZone.Rules.Europe

/-!
# Zones of Asia

The histories of the zones of Asia: for every regime its
offset of standard time, its way to keep summer time, and the reading of the wall
clock at its end.
-/

set_option autoImplicit false

namespace ElectionReadiness.TimeZone.Asia

def almaty : ZoneHistory where
  past := [(⟨east 5 7 48, .fixed 0⟩, ⟨1924, .may, .on 2, hms 0 0 0⟩),
    (⟨east 5 0 0, .fixed 0⟩, ⟨1930, .june, .on 21, hms 0 0 0⟩),
    (⟨east 6 0 0, .following Rules.russia⟩, ⟨1991, .march, .on 31, hms 2 0 0⟩),
    (⟨east 5 0 0, .following Rules.russia⟩, ⟨1992, .january, .on 19, hms 2 0 0⟩),
    (⟨east 6 0 0, .following Rules.russia⟩, ⟨2004, .october, .on 31, hms 2 0 0⟩),
    (⟨east 6 0 0, .fixed 0⟩, ⟨2024, .march, .on 1, hms 0 0 0⟩)]
  present := ⟨east 5 0 0, .fixed 0⟩

def amman : ZoneHistory where
  past := [(⟨east 2 23 44, .fixed 0⟩, ⟨1931, .january, .on 1, hms 0 0 0⟩),
    (⟨east 2 0 0, .following Rules.jordan⟩, ⟨2022, .october, .on 28, hms 0 0 0⟩)]
  present := ⟨east 3 0 0, .fixed 0⟩

def anadyr : ZoneHistory where
  past := [(⟨east 11 49 56, .fixed 0⟩, ⟨1924, .may, .on 2, hms 0 0 0⟩),
    (⟨east 12 0 0, .fixed 0⟩, ⟨1930, .june, .on 21, hms 0 0 0⟩),
    (⟨east 13 0 0, .following Rules.russia⟩, ⟨1982, .april, .on 1, hms 0 0 0⟩),
    (⟨east 12 0 0, .following Rules.russia⟩, ⟨1991, .march, .on 31, hms 2 0 0⟩),
    (⟨east 11 0 0, .following Rules.russia⟩, ⟨1992, .january, .on 19, hms 2 0 0⟩),
    (⟨east 12 0 0, .following Rules.russia⟩, ⟨2010, .march, .on 28, hms 2 0 0⟩),
    (⟨east 11 0 0, .following Rules.russia⟩, ⟨2011, .march, .on 27, hms 2 0 0⟩)]
  present := ⟨east 12 0 0, .fixed 0⟩

def aqtau : ZoneHistory where
  past := [(⟨east 3 21 4, .fixed 0⟩, ⟨1924, .may, .on 2, hms 0 0 0⟩),
    (⟨east 4 0 0, .fixed 0⟩, ⟨1930, .june, .on 21, hms 0 0 0⟩),
    (⟨east 5 0 0, .fixed 0⟩, ⟨1981, .october, .on 1, hms 0 0 0⟩),
    (⟨east 6 0 0, .fixed 0⟩, ⟨1982, .april, .on 1, hms 0 0 0⟩),
    (⟨east 5 0 0, .following Rules.russia⟩, ⟨1991, .march, .on 31, hms 2 0 0⟩),
    (⟨east 4 0 0, .following Rules.russia⟩, ⟨1992, .january, .on 19, hms 2 0 0⟩),
    (⟨east 5 0 0, .following Rules.russia⟩, ⟨1994, .september, .on 25, hms 2 0 0⟩),
    (⟨east 4 0 0, .following Rules.russia⟩, ⟨2004, .october, .on 31, hms 2 0 0⟩)]
  present := ⟨east 5 0 0, .fixed 0⟩

def aqtobe : ZoneHistory where
  past := [(⟨east 3 48 40, .fixed 0⟩, ⟨1924, .may, .on 2, hms 0 0 0⟩),
    (⟨east 4 0 0, .fixed 0⟩, ⟨1930, .june, .on 21, hms 0 0 0⟩),
    (⟨east 5 0 0, .fixed 0⟩, ⟨1981, .april, .on 1, hms 0 0 0⟩),
    (⟨east 5 0 0, .fixed 60⟩, ⟨1981, .october, .on 1, hms 0 0 0⟩),
    (⟨east 6 0 0, .fixed 0⟩, ⟨1982, .april, .on 1, hms 0 0 0⟩),
    (⟨east 5 0 0, .following Rules.russia⟩, ⟨1991, .march, .on 31, hms 2 0 0⟩),
    (⟨east 4 0 0, .following Rules.russia⟩, ⟨1992, .january, .on 19, hms 2 0 0⟩),
    (⟨east 5 0 0, .following Rules.russia⟩, ⟨2004, .october, .on 31, hms 2 0 0⟩)]
  present := ⟨east 5 0 0, .fixed 0⟩

def ashgabat : ZoneHistory where
  past := [(⟨east 3 53 32, .fixed 0⟩, ⟨1924, .may, .on 2, hms 0 0 0⟩),
    (⟨east 4 0 0, .fixed 0⟩, ⟨1930, .june, .on 21, hms 0 0 0⟩),
    (⟨east 5 0 0, .following Rules.russia⟩, ⟨1991, .march, .on 31, hms 2 0 0⟩),
    (⟨east 4 0 0, .following Rules.russia⟩, ⟨1992, .january, .on 19, hms 2 0 0⟩)]
  present := ⟨east 5 0 0, .fixed 0⟩

def atyrau : ZoneHistory where
  past := [(⟨east 3 27 44, .fixed 0⟩, ⟨1924, .may, .on 2, hms 0 0 0⟩),
    (⟨east 3 0 0, .fixed 0⟩, ⟨1930, .june, .on 21, hms 0 0 0⟩),
    (⟨east 5 0 0, .fixed 0⟩, ⟨1981, .october, .on 1, hms 0 0 0⟩),
    (⟨east 6 0 0, .fixed 0⟩, ⟨1982, .april, .on 1, hms 0 0 0⟩),
    (⟨east 5 0 0, .following Rules.russia⟩, ⟨1991, .march, .on 31, hms 2 0 0⟩),
    (⟨east 4 0 0, .following Rules.russia⟩, ⟨1992, .january, .on 19, hms 2 0 0⟩),
    (⟨east 5 0 0, .following Rules.russia⟩, ⟨1999, .march, .on 28, hms 2 0 0⟩),
    (⟨east 4 0 0, .following Rules.russia⟩, ⟨2004, .october, .on 31, hms 2 0 0⟩)]
  present := ⟨east 5 0 0, .fixed 0⟩

def baghdad : ZoneHistory where
  past := [(⟨east 2 57 40, .fixed 0⟩, ⟨1890, .january, .on 1, hms 0 0 0⟩),
    (⟨east 2 57 36, .fixed 0⟩, ⟨1918, .january, .on 1, hms 0 0 0⟩),
    (⟨east 3 0 0, .fixed 0⟩, ⟨1982, .may, .on 1, hms 0 0 0⟩)]
  present := ⟨east 3 0 0, .following Rules.iraq⟩

def baku : ZoneHistory where
  past := [(⟨east 3 19 24, .fixed 0⟩, ⟨1924, .may, .on 2, hms 0 0 0⟩),
    (⟨east 3 0 0, .fixed 0⟩, ⟨1957, .march, .on 1, hms 0 0 0⟩),
    (⟨east 4 0 0, .following Rules.russia⟩, ⟨1991, .march, .on 31, hms 2 0 0⟩),
    (⟨east 3 0 0, .following Rules.russia⟩, ⟨1992, .september, .last .sunday, hms 2 0 0⟩),
    (⟨east 4 0 0, .fixed 0⟩, ⟨1996, .january, .on 1, hms 0 0 0⟩),
    (⟨east 4 0 0, .following Rules.europeanUnion⟩, ⟨1997, .january, .on 1, hms 0 0 0⟩)]
  present := ⟨east 4 0 0, .following Rules.azerbaijan⟩

def bangkok : ZoneHistory where
  past := [(⟨east 6 42 4, .fixed 0⟩, ⟨1880, .january, .on 1, hms 0 0 0⟩),
    (⟨east 6 42 4, .fixed 0⟩, ⟨1920, .april, .on 1, hms 0 0 0⟩)]
  present := ⟨east 7 0 0, .fixed 0⟩

def barnaul : ZoneHistory where
  past := [(⟨east 5 35 0, .fixed 0⟩, ⟨1919, .december, .on 10, hms 0 0 0⟩),
    (⟨east 6 0 0, .fixed 0⟩, ⟨1930, .june, .on 21, hms 0 0 0⟩),
    (⟨east 7 0 0, .following Rules.russia⟩, ⟨1991, .march, .on 31, hms 2 0 0⟩),
    (⟨east 6 0 0, .following Rules.russia⟩, ⟨1992, .january, .on 19, hms 2 0 0⟩),
    (⟨east 7 0 0, .following Rules.russia⟩, ⟨1995, .may, .on 28, hms 0 0 0⟩),
    (⟨east 6 0 0, .following Rules.russia⟩, ⟨2011, .march, .on 27, hms 2 0 0⟩),
    (⟨east 7 0 0, .fixed 0⟩, ⟨2014, .october, .on 26, hms 2 0 0⟩),
    (⟨east 6 0 0, .fixed 0⟩, ⟨2016, .march, .on 27, hms 2 0 0⟩)]
  present := ⟨east 7 0 0, .fixed 0⟩

def beirut : ZoneHistory where
  past := [(⟨east 2 22 0, .fixed 0⟩, ⟨1880, .january, .on 1, hms 0 0 0⟩)]
  present := ⟨east 2 0 0, .following Rules.lebanon⟩

def bishkek : ZoneHistory where
  past := [(⟨east 4 58 24, .fixed 0⟩, ⟨1924, .may, .on 2, hms 0 0 0⟩),
    (⟨east 5 0 0, .fixed 0⟩, ⟨1930, .june, .on 21, hms 0 0 0⟩),
    (⟨east 6 0 0, .following Rules.russia⟩, ⟨1991, .march, .on 31, hms 2 0 0⟩),
    (⟨east 5 0 0, .following Rules.russia⟩, ⟨1991, .august, .on 31, hms 2 0 0⟩),
    (⟨east 5 0 0, .following Rules.kyrgyzstan⟩, ⟨2005, .august, .on 12, hms 0 0 0⟩)]
  present := ⟨east 6 0 0, .fixed 0⟩

def chita : ZoneHistory where
  past := [(⟨east 7 33 52, .fixed 0⟩, ⟨1919, .december, .on 15, hms 0 0 0⟩),
    (⟨east 8 0 0, .fixed 0⟩, ⟨1930, .june, .on 21, hms 0 0 0⟩),
    (⟨east 9 0 0, .following Rules.russia⟩, ⟨1991, .march, .on 31, hms 2 0 0⟩),
    (⟨east 8 0 0, .following Rules.russia⟩, ⟨1992, .january, .on 19, hms 2 0 0⟩),
    (⟨east 9 0 0, .following Rules.russia⟩, ⟨2011, .march, .on 27, hms 2 0 0⟩),
    (⟨east 10 0 0, .fixed 0⟩, ⟨2014, .october, .on 26, hms 2 0 0⟩),
    (⟨east 8 0 0, .fixed 0⟩, ⟨2016, .march, .on 27, hms 2 0 0⟩)]
  present := ⟨east 9 0 0, .fixed 0⟩

def choibalsan : ZoneHistory where
  past := [(⟨east 7 38 0, .fixed 0⟩, ⟨1905, .august, .on 1, hms 0 0 0⟩),
    (⟨east 7 0 0, .fixed 0⟩, ⟨1978, .january, .on 1, hms 0 0 0⟩),
    (⟨east 8 0 0, .fixed 0⟩, ⟨1983, .april, .on 1, hms 0 0 0⟩),
    (⟨east 9 0 0, .following Rules.mongolia⟩, ⟨2008, .march, .on 31, hms 0 0 0⟩)]
  present := ⟨east 8 0 0, .following Rules.mongolia⟩

def colombo : ZoneHistory where
  past := [(⟨east 5 19 24, .fixed 0⟩, ⟨1880, .january, .on 1, hms 0 0 0⟩),
    (⟨east 5 19 32, .fixed 0⟩, ⟨1906, .january, .on 1, hms 0 0 0⟩),
    (⟨east 5 30 0, .fixed 0⟩, ⟨1942, .january, .on 5, hms 0 0 0⟩),
    (⟨east 5 30 0, .fixed 30⟩, ⟨1942, .september, .on 1, hms 0 0 0⟩),
    (⟨east 5 30 0, .fixed 60⟩, ⟨1945, .october, .on 16, hms 2 0 0⟩),
    (⟨east 5 30 0, .fixed 0⟩, ⟨1996, .may, .on 25, hms 0 0 0⟩),
    (⟨east 6 30 0, .fixed 0⟩, ⟨1996, .october, .on 26, hms 0 30 0⟩),
    (⟨east 6 0 0, .fixed 0⟩, ⟨2006, .april, .on 15, hms 0 30 0⟩)]
  present := ⟨east 5 30 0, .fixed 0⟩

def damascus : ZoneHistory where
  past := [(⟨east 2 25 12, .fixed 0⟩, ⟨1920, .january, .on 1, hms 0 0 0⟩),
    (⟨east 2 0 0, .following Rules.syria⟩, ⟨2022, .october, .on 28, hms 0 0 0⟩)]
  present := ⟨east 3 0 0, .fixed 0⟩

def dhaka : ZoneHistory where
  past := [(⟨east 6 1 40, .fixed 0⟩, ⟨1890, .january, .on 1, hms 0 0 0⟩),
    (⟨east 5 53 20, .fixed 0⟩, ⟨1941, .october, .on 1, hms 0 0 0⟩),
    (⟨east 6 30 0, .fixed 0⟩, ⟨1942, .may, .on 15, hms 0 0 0⟩),
    (⟨east 5 30 0, .fixed 0⟩, ⟨1942, .september, .on 1, hms 0 0 0⟩),
    (⟨east 6 30 0, .fixed 0⟩, ⟨1951, .september, .on 30, hms 0 0 0⟩),
    (⟨east 6 0 0, .fixed 0⟩, ⟨2009, .january, .on 1, hms 0 0 0⟩)]
  present := ⟨east 6 0 0, .following Rules.bangladesh⟩

def dili : ZoneHistory where
  past := [(⟨east 8 22 20, .fixed 0⟩, ⟨1912, .january, .on 1, hms 0 0 0⟩),
    (⟨east 8 0 0, .fixed 0⟩, ⟨1942, .february, .on 21, hms 23 0 0⟩),
    (⟨east 9 0 0, .fixed 0⟩, ⟨1976, .may, .on 3, hms 0 0 0⟩),
    (⟨east 8 0 0, .fixed 0⟩, ⟨2000, .september, .on 17, hms 0 0 0⟩)]
  present := ⟨east 9 0 0, .fixed 0⟩

def dubai : ZoneHistory where
  past := [(⟨east 3 41 12, .fixed 0⟩, ⟨1920, .january, .on 1, hms 0 0 0⟩)]
  present := ⟨east 4 0 0, .fixed 0⟩

def dushanbe : ZoneHistory where
  past := [(⟨east 4 35 12, .fixed 0⟩, ⟨1924, .may, .on 2, hms 0 0 0⟩),
    (⟨east 5 0 0, .fixed 0⟩, ⟨1930, .june, .on 21, hms 0 0 0⟩),
    (⟨east 6 0 0, .following Rules.russia⟩, ⟨1991, .march, .on 31, hms 2 0 0⟩),
    (⟨east 5 0 0, .fixed 60⟩, ⟨1991, .september, .on 9, hms 2 0 0⟩)]
  present := ⟨east 5 0 0, .fixed 0⟩

def famagusta : ZoneHistory where
  past := [(⟨east 2 15 48, .fixed 0⟩, ⟨1921, .november, .on 14, hms 0 0 0⟩),
    (⟨east 2 0 0, .following Rules.cyprus⟩, ⟨1998, .september, .on 1, hms 0 0 0⟩),
    (⟨east 2 0 0, .following Rules.europeanUnion⟩, ⟨2016, .september, .on 8, hms 0 0 0⟩),
    (⟨east 3 0 0, .fixed 0⟩, ⟨2017, .october, .on 29, hms 1 0 0⟩)]
  present := ⟨east 2 0 0, .following Rules.europeanUnion⟩

def gaza : ZoneHistory where
  past := [(⟨east 2 17 52, .fixed 0⟩, ⟨1900, .october, .on 1, hms 0 0 0⟩),
    (⟨east 2 0 0, .following Rules.israel⟩, ⟨1948, .may, .on 15, hms 0 0 0⟩),
    (⟨east 2 0 0, .following Rules.egypt⟩, ⟨1967, .june, .on 5, hms 0 0 0⟩),
    (⟨east 2 0 0, .following Rules.israel⟩, ⟨1996, .january, .on 1, hms 0 0 0⟩),
    (⟨east 2 0 0, .following Rules.jordan⟩, ⟨1999, .january, .on 1, hms 0 0 0⟩),
    (⟨east 2 0 0, .following Rules.palestine⟩, ⟨2008, .august, .on 29, hms 0 0 0⟩),
    (⟨east 2 0 0, .fixed 0⟩, ⟨2008, .september, .on 1, hms 0 0 0⟩),
    (⟨east 2 0 0, .following Rules.palestine⟩, ⟨2010, .january, .on 1, hms 0 0 0⟩),
    (⟨east 2 0 0, .fixed 0⟩, ⟨2010, .march, .on 27, hms 0 1 0⟩),
    (⟨east 2 0 0, .following Rules.palestine⟩, ⟨2011, .august, .on 1, hms 0 0 0⟩),
    (⟨east 2 0 0, .fixed 0⟩, ⟨2012, .january, .on 1, hms 0 0 0⟩)]
  present := ⟨east 2 0 0, .following Rules.palestine⟩

def hebron : ZoneHistory where
  past := [(⟨east 2 20 23, .fixed 0⟩, ⟨1900, .october, .on 1, hms 0 0 0⟩),
    (⟨east 2 0 0, .following Rules.israel⟩, ⟨1948, .may, .on 15, hms 0 0 0⟩),
    (⟨east 2 0 0, .following Rules.egypt⟩, ⟨1967, .june, .on 5, hms 0 0 0⟩),
    (⟨east 2 0 0, .following Rules.israel⟩, ⟨1996, .january, .on 1, hms 0 0 0⟩),
    (⟨east 2 0 0, .following Rules.jordan⟩, ⟨1999, .january, .on 1, hms 0 0 0⟩)]
  present := ⟨east 2 0 0, .following Rules.palestine⟩

def hoChiMinh : ZoneHistory where
  past := [(⟨east 7 6 30, .fixed 0⟩, ⟨1906, .july, .on 1, hms 0 0 0⟩),
    (⟨east 7 6 30, .fixed 0⟩, ⟨1911, .may, .on 1, hms 0 0 0⟩),
    (⟨east 7 0 0, .fixed 0⟩, ⟨1942, .december, .on 31, hms 23 0 0⟩),
    (⟨east 8 0 0, .fixed 0⟩, ⟨1945, .march, .on 14, hms 23 0 0⟩),
    (⟨east 9 0 0, .fixed 0⟩, ⟨1945, .september, .on 1, hms 24 0 0⟩),
    (⟨east 7 0 0, .fixed 0⟩, ⟨1947, .april, .on 1, hms 0 0 0⟩),
    (⟨east 8 0 0, .fixed 0⟩, ⟨1955, .july, .on 1, hms 1 0 0⟩),
    (⟨east 7 0 0, .fixed 0⟩, ⟨1959, .december, .on 31, hms 23 0 0⟩),
    (⟨east 8 0 0, .fixed 0⟩, ⟨1975, .june, .on 13, hms 0 0 0⟩)]
  present := ⟨east 7 0 0, .fixed 0⟩

def hongKong : ZoneHistory where
  past := [(⟨east 7 36 42, .fixed 0⟩, ⟨1904, .october, .on 29, hms 17 0 0⟩),
    (⟨east 8 0 0, .fixed 0⟩, ⟨1941, .june, .on 15, hms 3 0 0⟩),
    (⟨east 8 0 0, .fixed 60⟩, ⟨1941, .october, .on 1, hms 4 0 0⟩),
    (⟨east 8 0 0, .fixed 30⟩, ⟨1941, .december, .on 25, hms 0 0 0⟩),
    (⟨east 9 0 0, .fixed 0⟩, ⟨1945, .november, .on 18, hms 2 0 0⟩)]
  present := ⟨east 8 0 0, .following Rules.hongKong⟩

def hovd : ZoneHistory where
  past := [(⟨east 6 6 36, .fixed 0⟩, ⟨1905, .august, .on 1, hms 0 0 0⟩),
    (⟨east 6 0 0, .fixed 0⟩, ⟨1978, .january, .on 1, hms 0 0 0⟩)]
  present := ⟨east 7 0 0, .following Rules.mongolia⟩

def irkutsk : ZoneHistory where
  past := [(⟨east 6 57 5, .fixed 0⟩, ⟨1880, .january, .on 1, hms 0 0 0⟩),
    (⟨east 6 57 5, .fixed 0⟩, ⟨1920, .january, .on 25, hms 0 0 0⟩),
    (⟨east 7 0 0, .fixed 0⟩, ⟨1930, .june, .on 21, hms 0 0 0⟩),
    (⟨east 8 0 0, .following Rules.russia⟩, ⟨1991, .march, .on 31, hms 2 0 0⟩),
    (⟨east 7 0 0, .following Rules.russia⟩, ⟨1992, .january, .on 19, hms 2 0 0⟩),
    (⟨east 8 0 0, .following Rules.russia⟩, ⟨2011, .march, .on 27, hms 2 0 0⟩),
    (⟨east 9 0 0, .fixed 0⟩, ⟨2014, .october, .on 26, hms 2 0 0⟩)]
  present := ⟨east 8 0 0, .fixed 0⟩

def jakarta : ZoneHistory where
  past := [(⟨east 7 7 12, .fixed 0⟩, ⟨1867, .august, .on 10, hms 0 0 0⟩),
    (⟨east 7 7 12, .fixed 0⟩, ⟨1923, .december, .on 31, hms 16 40 0⟩),
    (⟨east 7 20 0, .fixed 0⟩, ⟨1932, .november, .on 1, hms 0 0 0⟩),
    (⟨east 7 30 0, .fixed 0⟩, ⟨1942, .march, .on 23, hms 0 0 0⟩),
    (⟨east 9 0 0, .fixed 0⟩, ⟨1945, .september, .on 23, hms 0 0 0⟩),
    (⟨east 7 30 0, .fixed 0⟩, ⟨1948, .may, .on 1, hms 0 0 0⟩),
    (⟨east 8 0 0, .fixed 0⟩, ⟨1950, .may, .on 1, hms 0 0 0⟩),
    (⟨east 7 30 0, .fixed 0⟩, ⟨1964, .january, .on 1, hms 0 0 0⟩)]
  present := ⟨east 7 0 0, .fixed 0⟩

def jayapura : ZoneHistory where
  past := [(⟨east 9 22 48, .fixed 0⟩, ⟨1932, .november, .on 1, hms 0 0 0⟩),
    (⟨east 9 0 0, .fixed 0⟩, ⟨1944, .september, .on 1, hms 0 0 0⟩),
    (⟨east 9 30 0, .fixed 0⟩, ⟨1964, .january, .on 1, hms 0 0 0⟩)]
  present := ⟨east 9 0 0, .fixed 0⟩

def jerusalem : ZoneHistory where
  past := [(⟨east 2 20 54, .fixed 0⟩, ⟨1880, .january, .on 1, hms 0 0 0⟩),
    (⟨east 2 20 40, .fixed 0⟩, ⟨1918, .january, .on 1, hms 0 0 0⟩)]
  present := ⟨east 2 0 0, .following Rules.israel⟩

def kabul : ZoneHistory where
  past := [(⟨east 4 36 48, .fixed 0⟩, ⟨1890, .january, .on 1, hms 0 0 0⟩),
    (⟨east 4 0 0, .fixed 0⟩, ⟨1945, .january, .on 1, hms 0 0 0⟩)]
  present := ⟨east 4 30 0, .fixed 0⟩

def kamchatka : ZoneHistory where
  past := [(⟨east 10 34 36, .fixed 0⟩, ⟨1922, .november, .on 10, hms 0 0 0⟩),
    (⟨east 11 0 0, .fixed 0⟩, ⟨1930, .june, .on 21, hms 0 0 0⟩),
    (⟨east 12 0 0, .following Rules.russia⟩, ⟨1991, .march, .on 31, hms 2 0 0⟩),
    (⟨east 11 0 0, .following Rules.russia⟩, ⟨1992, .january, .on 19, hms 2 0 0⟩),
    (⟨east 12 0 0, .following Rules.russia⟩, ⟨2010, .march, .on 28, hms 2 0 0⟩),
    (⟨east 11 0 0, .following Rules.russia⟩, ⟨2011, .march, .on 27, hms 2 0 0⟩)]
  present := ⟨east 12 0 0, .fixed 0⟩

def karachi : ZoneHistory where
  past := [(⟨east 4 28 12, .fixed 0⟩, ⟨1907, .january, .on 1, hms 0 0 0⟩),
    (⟨east 5 30 0, .fixed 0⟩, ⟨1942, .september, .on 1, hms 0 0 0⟩),
    (⟨east 5 30 0, .fixed 60⟩, ⟨1945, .october, .on 15, hms 0 0 0⟩),
    (⟨east 5 30 0, .fixed 0⟩, ⟨1951, .september, .on 30, hms 0 0 0⟩),
    (⟨east 5 0 0, .fixed 0⟩, ⟨1971, .march, .on 26, hms 0 0 0⟩)]
  present := ⟨east 5 0 0, .following Rules.pakistan⟩

def kathmandu : ZoneHistory where
  past := [(⟨east 5 41 16, .fixed 0⟩, ⟨1920, .january, .on 1, hms 0 0 0⟩),
    (⟨east 5 30 0, .fixed 0⟩, ⟨1986, .january, .on 1, hms 0 0 0⟩)]
  present := ⟨east 5 45 0, .fixed 0⟩

def khandyga : ZoneHistory where
  past := [(⟨east 9 2 13, .fixed 0⟩, ⟨1919, .december, .on 15, hms 0 0 0⟩),
    (⟨east 8 0 0, .fixed 0⟩, ⟨1930, .june, .on 21, hms 0 0 0⟩),
    (⟨east 9 0 0, .following Rules.russia⟩, ⟨1991, .march, .on 31, hms 2 0 0⟩),
    (⟨east 8 0 0, .following Rules.russia⟩, ⟨1992, .january, .on 19, hms 2 0 0⟩),
    (⟨east 9 0 0, .following Rules.russia⟩, ⟨2004, .january, .on 1, hms 0 0 0⟩),
    (⟨east 10 0 0, .following Rules.russia⟩, ⟨2011, .march, .on 27, hms 2 0 0⟩),
    (⟨east 11 0 0, .fixed 0⟩, ⟨2011, .september, .on 13, hms 0 0 0⟩),
    (⟨east 10 0 0, .fixed 0⟩, ⟨2014, .october, .on 26, hms 2 0 0⟩)]
  present := ⟨east 9 0 0, .fixed 0⟩

def kolkata : ZoneHistory where
  past := [(⟨east 5 53 28, .fixed 0⟩, ⟨1854, .june, .on 28, hms 0 0 0⟩),
    (⟨east 5 53 20, .fixed 0⟩, ⟨1870, .january, .on 1, hms 0 0 0⟩),
    (⟨east 5 21 10, .fixed 0⟩, ⟨1906, .january, .on 1, hms 0 0 0⟩),
    (⟨east 5 30 0, .fixed 0⟩, ⟨1941, .october, .on 1, hms 0 0 0⟩),
    (⟨east 5 30 0, .fixed 60⟩, ⟨1942, .may, .on 15, hms 0 0 0⟩),
    (⟨east 5 30 0, .fixed 0⟩, ⟨1942, .september, .on 1, hms 0 0 0⟩),
    (⟨east 5 30 0, .fixed 60⟩, ⟨1945, .october, .on 15, hms 0 0 0⟩)]
  present := ⟨east 5 30 0, .fixed 0⟩

def krasnoyarsk : ZoneHistory where
  past := [(⟨east 6 11 26, .fixed 0⟩, ⟨1920, .january, .on 6, hms 0 0 0⟩),
    (⟨east 6 0 0, .fixed 0⟩, ⟨1930, .june, .on 21, hms 0 0 0⟩),
    (⟨east 7 0 0, .following Rules.russia⟩, ⟨1991, .march, .on 31, hms 2 0 0⟩),
    (⟨east 6 0 0, .following Rules.russia⟩, ⟨1992, .january, .on 19, hms 2 0 0⟩),
    (⟨east 7 0 0, .following Rules.russia⟩, ⟨2011, .march, .on 27, hms 2 0 0⟩),
    (⟨east 8 0 0, .fixed 0⟩, ⟨2014, .october, .on 26, hms 2 0 0⟩)]
  present := ⟨east 7 0 0, .fixed 0⟩

def kuching : ZoneHistory where
  past := [(⟨east 7 21 20, .fixed 0⟩, ⟨1926, .march, .on 1, hms 0 0 0⟩),
    (⟨east 7 30 0, .fixed 0⟩, ⟨1933, .january, .on 1, hms 0 0 0⟩),
    (⟨east 8 0 0, .following Rules.borneo⟩, ⟨1942, .february, .on 16, hms 0 0 0⟩),
    (⟨east 9 0 0, .fixed 0⟩, ⟨1945, .september, .on 12, hms 0 0 0⟩)]
  present := ⟨east 8 0 0, .fixed 0⟩

def macau : ZoneHistory where
  past := [(⟨east 7 34 10, .fixed 0⟩, ⟨1904, .october, .on 30, hms 0 0 0⟩),
    (⟨east 8 0 0, .fixed 0⟩, ⟨1941, .december, .on 21, hms 23 0 0⟩),
    (⟨east 9 0 0, .following Rules.macau⟩, ⟨1945, .september, .on 30, hms 24 0 0⟩)]
  present := ⟨east 8 0 0, .following Rules.macau⟩

def magadan : ZoneHistory where
  past := [(⟨east 10 3 12, .fixed 0⟩, ⟨1924, .may, .on 2, hms 0 0 0⟩),
    (⟨east 10 0 0, .fixed 0⟩, ⟨1930, .june, .on 21, hms 0 0 0⟩),
    (⟨east 11 0 0, .following Rules.russia⟩, ⟨1991, .march, .on 31, hms 2 0 0⟩),
    (⟨east 10 0 0, .following Rules.russia⟩, ⟨1992, .january, .on 19, hms 2 0 0⟩),
    (⟨east 11 0 0, .following Rules.russia⟩, ⟨2011, .march, .on 27, hms 2 0 0⟩),
    (⟨east 12 0 0, .fixed 0⟩, ⟨2014, .october, .on 26, hms 2 0 0⟩),
    (⟨east 10 0 0, .fixed 0⟩, ⟨2016, .april, .on 24, hms 2 0 0⟩)]
  present := ⟨east 11 0 0, .fixed 0⟩

def makassar : ZoneHistory where
  past := [(⟨east 7 57 36, .fixed 0⟩, ⟨1920, .january, .on 1, hms 0 0 0⟩),
    (⟨east 7 57 36, .fixed 0⟩, ⟨1932, .november, .on 1, hms 0 0 0⟩),
    (⟨east 8 0 0, .fixed 0⟩, ⟨1942, .february, .on 9, hms 0 0 0⟩),
    (⟨east 9 0 0, .fixed 0⟩, ⟨1945, .september, .on 23, hms 0 0 0⟩)]
  present := ⟨east 8 0 0, .fixed 0⟩

def manila : ZoneHistory where
  past := [(⟨west 15 56 0, .fixed 0⟩, ⟨1844, .december, .on 31, hms 0 0 0⟩),
    (⟨east 8 4 0, .fixed 0⟩, ⟨1899, .may, .on 11, hms 0 0 0⟩),
    (⟨east 8 0 0, .following Rules.philippines⟩, ⟨1942, .may, .on 1, hms 0 0 0⟩),
    (⟨east 9 0 0, .fixed 0⟩, ⟨1944, .november, .on 1, hms 0 0 0⟩)]
  present := ⟨east 8 0 0, .following Rules.philippines⟩

def nicosia : ZoneHistory where
  past := [(⟨east 2 13 28, .fixed 0⟩, ⟨1921, .november, .on 14, hms 0 0 0⟩),
    (⟨east 2 0 0, .following Rules.cyprus⟩, ⟨1998, .september, .on 1, hms 0 0 0⟩)]
  present := ⟨east 2 0 0, .following Rules.europeanUnion⟩

def novokuznetsk : ZoneHistory where
  past := [(⟨east 5 48 48, .fixed 0⟩, ⟨1924, .may, .on 1, hms 0 0 0⟩),
    (⟨east 6 0 0, .fixed 0⟩, ⟨1930, .june, .on 21, hms 0 0 0⟩),
    (⟨east 7 0 0, .following Rules.russia⟩, ⟨1991, .march, .on 31, hms 2 0 0⟩),
    (⟨east 6 0 0, .following Rules.russia⟩, ⟨1992, .january, .on 19, hms 2 0 0⟩),
    (⟨east 7 0 0, .following Rules.russia⟩, ⟨2010, .march, .on 28, hms 2 0 0⟩),
    (⟨east 6 0 0, .following Rules.russia⟩, ⟨2011, .march, .on 27, hms 2 0 0⟩)]
  present := ⟨east 7 0 0, .fixed 0⟩

def novosibirsk : ZoneHistory where
  past := [(⟨east 5 31 40, .fixed 0⟩, ⟨1919, .december, .on 14, hms 6 0 0⟩),
    (⟨east 6 0 0, .fixed 0⟩, ⟨1930, .june, .on 21, hms 0 0 0⟩),
    (⟨east 7 0 0, .following Rules.russia⟩, ⟨1991, .march, .on 31, hms 2 0 0⟩),
    (⟨east 6 0 0, .following Rules.russia⟩, ⟨1992, .january, .on 19, hms 2 0 0⟩),
    (⟨east 7 0 0, .following Rules.russia⟩, ⟨1993, .may, .on 23, hms 0 0 0⟩),
    (⟨east 6 0 0, .following Rules.russia⟩, ⟨2011, .march, .on 27, hms 2 0 0⟩),
    (⟨east 7 0 0, .fixed 0⟩, ⟨2014, .october, .on 26, hms 2 0 0⟩),
    (⟨east 6 0 0, .fixed 0⟩, ⟨2016, .july, .on 24, hms 2 0 0⟩)]
  present := ⟨east 7 0 0, .fixed 0⟩

def omsk : ZoneHistory where
  past := [(⟨east 4 53 30, .fixed 0⟩, ⟨1919, .november, .on 14, hms 0 0 0⟩),
    (⟨east 5 0 0, .fixed 0⟩, ⟨1930, .june, .on 21, hms 0 0 0⟩),
    (⟨east 6 0 0, .following Rules.russia⟩, ⟨1991, .march, .on 31, hms 2 0 0⟩),
    (⟨east 5 0 0, .following Rules.russia⟩, ⟨1992, .january, .on 19, hms 2 0 0⟩),
    (⟨east 6 0 0, .following Rules.russia⟩, ⟨2011, .march, .on 27, hms 2 0 0⟩),
    (⟨east 7 0 0, .fixed 0⟩, ⟨2014, .october, .on 26, hms 2 0 0⟩)]
  present := ⟨east 6 0 0, .fixed 0⟩

def oral : ZoneHistory where
  past := [(⟨east 3 25 24, .fixed 0⟩, ⟨1924, .may, .on 2, hms 0 0 0⟩),
    (⟨east 3 0 0, .fixed 0⟩, ⟨1930, .june, .on 21, hms 0 0 0⟩),
    (⟨east 5 0 0, .fixed 0⟩, ⟨1981, .april, .on 1, hms 0 0 0⟩),
    (⟨east 5 0 0, .fixed 60⟩, ⟨1981, .october, .on 1, hms 0 0 0⟩),
    (⟨east 6 0 0, .fixed 0⟩, ⟨1982, .april, .on 1, hms 0 0 0⟩),
    (⟨east 5 0 0, .following Rules.russia⟩, ⟨1989, .march, .on 26, hms 2 0 0⟩),
    (⟨east 4 0 0, .following Rules.russia⟩, ⟨1992, .january, .on 19, hms 2 0 0⟩),
    (⟨east 5 0 0, .following Rules.russia⟩, ⟨1992, .march, .on 29, hms 2 0 0⟩),
    (⟨east 4 0 0, .following Rules.russia⟩, ⟨2004, .october, .on 31, hms 2 0 0⟩)]
  present := ⟨east 5 0 0, .fixed 0⟩

def pontianak : ZoneHistory where
  past := [(⟨east 7 17 20, .fixed 0⟩, ⟨1908, .may, .on 1, hms 0 0 0⟩),
    (⟨east 7 17 20, .fixed 0⟩, ⟨1932, .november, .on 1, hms 0 0 0⟩),
    (⟨east 7 30 0, .fixed 0⟩, ⟨1942, .january, .on 29, hms 0 0 0⟩),
    (⟨east 9 0 0, .fixed 0⟩, ⟨1945, .september, .on 23, hms 0 0 0⟩),
    (⟨east 7 30 0, .fixed 0⟩, ⟨1948, .may, .on 1, hms 0 0 0⟩),
    (⟨east 8 0 0, .fixed 0⟩, ⟨1950, .may, .on 1, hms 0 0 0⟩),
    (⟨east 7 30 0, .fixed 0⟩, ⟨1964, .january, .on 1, hms 0 0 0⟩),
    (⟨east 8 0 0, .fixed 0⟩, ⟨1988, .january, .on 1, hms 0 0 0⟩)]
  present := ⟨east 7 0 0, .fixed 0⟩

def pyongyang : ZoneHistory where
  past := [(⟨east 8 23 0, .fixed 0⟩, ⟨1908, .april, .on 1, hms 0 0 0⟩),
    (⟨east 8 30 0, .fixed 0⟩, ⟨1912, .january, .on 1, hms 0 0 0⟩),
    (⟨east 9 0 0, .fixed 0⟩, ⟨1945, .august, .on 24, hms 0 0 0⟩),
    (⟨east 9 0 0, .fixed 0⟩, ⟨2015, .august, .on 15, hms 0 0 0⟩),
    (⟨east 8 30 0, .fixed 0⟩, ⟨2018, .may, .on 4, hms 23 30 0⟩)]
  present := ⟨east 9 0 0, .fixed 0⟩

def qatar : ZoneHistory where
  past := [(⟨east 3 26 8, .fixed 0⟩, ⟨1920, .january, .on 1, hms 0 0 0⟩),
    (⟨east 4 0 0, .fixed 0⟩, ⟨1972, .june, .on 1, hms 0 0 0⟩)]
  present := ⟨east 3 0 0, .fixed 0⟩

def qostanay : ZoneHistory where
  past := [(⟨east 4 14 28, .fixed 0⟩, ⟨1924, .may, .on 2, hms 0 0 0⟩),
    (⟨east 4 0 0, .fixed 0⟩, ⟨1930, .june, .on 21, hms 0 0 0⟩),
    (⟨east 5 0 0, .fixed 0⟩, ⟨1981, .april, .on 1, hms 0 0 0⟩),
    (⟨east 5 0 0, .fixed 60⟩, ⟨1981, .october, .on 1, hms 0 0 0⟩),
    (⟨east 6 0 0, .fixed 0⟩, ⟨1982, .april, .on 1, hms 0 0 0⟩),
    (⟨east 5 0 0, .following Rules.russia⟩, ⟨1991, .march, .on 31, hms 2 0 0⟩),
    (⟨east 4 0 0, .following Rules.russia⟩, ⟨1992, .january, .on 19, hms 2 0 0⟩),
    (⟨east 5 0 0, .following Rules.russia⟩, ⟨2004, .october, .on 31, hms 2 0 0⟩),
    (⟨east 6 0 0, .fixed 0⟩, ⟨2024, .march, .on 1, hms 0 0 0⟩)]
  present := ⟨east 5 0 0, .fixed 0⟩

def qyzylorda : ZoneHistory where
  past := [(⟨east 4 21 52, .fixed 0⟩, ⟨1924, .may, .on 2, hms 0 0 0⟩),
    (⟨east 4 0 0, .fixed 0⟩, ⟨1930, .june, .on 21, hms 0 0 0⟩),
    (⟨east 5 0 0, .fixed 0⟩, ⟨1981, .april, .on 1, hms 0 0 0⟩),
    (⟨east 5 0 0, .fixed 60⟩, ⟨1981, .october, .on 1, hms 0 0 0⟩),
    (⟨east 6 0 0, .fixed 0⟩, ⟨1982, .april, .on 1, hms 0 0 0⟩),
    (⟨east 5 0 0, .following Rules.russia⟩, ⟨1991, .march, .on 31, hms 2 0 0⟩),
    (⟨east 4 0 0, .following Rules.russia⟩, ⟨1991, .september, .on 29, hms 2 0 0⟩),
    (⟨east 5 0 0, .following Rules.russia⟩, ⟨1992, .january, .on 19, hms 2 0 0⟩),
    (⟨east 6 0 0, .following Rules.russia⟩, ⟨1992, .march, .on 29, hms 2 0 0⟩),
    (⟨east 5 0 0, .following Rules.russia⟩, ⟨2004, .october, .on 31, hms 2 0 0⟩),
    (⟨east 6 0 0, .fixed 0⟩, ⟨2018, .december, .on 21, hms 0 0 0⟩)]
  present := ⟨east 5 0 0, .fixed 0⟩

def riyadh : ZoneHistory where
  past := [(⟨east 3 6 52, .fixed 0⟩, ⟨1947, .march, .on 14, hms 0 0 0⟩)]
  present := ⟨east 3 0 0, .fixed 0⟩

def sakhalin : ZoneHistory where
  past := [(⟨east 9 30 48, .fixed 0⟩, ⟨1905, .august, .on 23, hms 0 0 0⟩),
    (⟨east 9 0 0, .fixed 0⟩, ⟨1945, .august, .on 25, hms 0 0 0⟩),
    (⟨east 11 0 0, .following Rules.russia⟩, ⟨1991, .march, .on 31, hms 2 0 0⟩),
    (⟨east 10 0 0, .following Rules.russia⟩, ⟨1992, .january, .on 19, hms 2 0 0⟩),
    (⟨east 11 0 0, .following Rules.russia⟩, ⟨1997, .march, .last .sunday, hms 2 0 0⟩),
    (⟨east 10 0 0, .following Rules.russia⟩, ⟨2011, .march, .on 27, hms 2 0 0⟩),
    (⟨east 11 0 0, .fixed 0⟩, ⟨2014, .october, .on 26, hms 2 0 0⟩),
    (⟨east 10 0 0, .fixed 0⟩, ⟨2016, .march, .on 27, hms 2 0 0⟩)]
  present := ⟨east 11 0 0, .fixed 0⟩

def samarkand : ZoneHistory where
  past := [(⟨east 4 27 53, .fixed 0⟩, ⟨1924, .may, .on 2, hms 0 0 0⟩),
    (⟨east 4 0 0, .fixed 0⟩, ⟨1930, .june, .on 21, hms 0 0 0⟩),
    (⟨east 5 0 0, .fixed 0⟩, ⟨1981, .april, .on 1, hms 0 0 0⟩),
    (⟨east 5 0 0, .fixed 60⟩, ⟨1981, .october, .on 1, hms 0 0 0⟩),
    (⟨east 6 0 0, .fixed 0⟩, ⟨1982, .april, .on 1, hms 0 0 0⟩),
    (⟨east 5 0 0, .following Rules.russia⟩, ⟨1992, .january, .on 1, hms 0 0 0⟩)]
  present := ⟨east 5 0 0, .fixed 0⟩

def seoul : ZoneHistory where
  past := [(⟨east 8 27 52, .fixed 0⟩, ⟨1908, .april, .on 1, hms 0 0 0⟩),
    (⟨east 8 30 0, .fixed 0⟩, ⟨1912, .january, .on 1, hms 0 0 0⟩),
    (⟨east 9 0 0, .fixed 0⟩, ⟨1945, .september, .on 8, hms 0 0 0⟩),
    (⟨east 9 0 0, .following Rules.korea⟩, ⟨1954, .march, .on 21, hms 0 0 0⟩),
    (⟨east 8 30 0, .following Rules.korea⟩, ⟨1961, .august, .on 10, hms 0 0 0⟩)]
  present := ⟨east 9 0 0, .following Rules.korea⟩

def shanghai : ZoneHistory where
  past := [(⟨east 8 5 43, .fixed 0⟩, ⟨1901, .january, .on 1, hms 0 0 0⟩),
    (⟨east 8 0 0, .following Rules.shanghai⟩, ⟨1949, .may, .on 28, hms 0 0 0⟩)]
  present := ⟨east 8 0 0, .following Rules.china⟩

def singapore : ZoneHistory where
  past := [(⟨east 6 55 25, .fixed 0⟩, ⟨1901, .january, .on 1, hms 0 0 0⟩),
    (⟨east 6 55 25, .fixed 0⟩, ⟨1905, .june, .on 1, hms 0 0 0⟩),
    (⟨east 7 0 0, .fixed 0⟩, ⟨1933, .january, .on 1, hms 0 0 0⟩),
    (⟨east 7 0 0, .fixed 20⟩, ⟨1936, .january, .on 1, hms 0 0 0⟩),
    (⟨east 7 20 0, .fixed 0⟩, ⟨1941, .september, .on 1, hms 0 0 0⟩),
    (⟨east 7 30 0, .fixed 0⟩, ⟨1942, .february, .on 16, hms 0 0 0⟩),
    (⟨east 9 0 0, .fixed 0⟩, ⟨1945, .september, .on 12, hms 0 0 0⟩),
    (⟨east 7 30 0, .fixed 0⟩, ⟨1981, .december, .on 31, hms 16 0 0⟩)]
  present := ⟨east 8 0 0, .fixed 0⟩

def srednekolymsk : ZoneHistory where
  past := [(⟨east 10 14 52, .fixed 0⟩, ⟨1924, .may, .on 2, hms 0 0 0⟩),
    (⟨east 10 0 0, .fixed 0⟩, ⟨1930, .june, .on 21, hms 0 0 0⟩),
    (⟨east 11 0 0, .following Rules.russia⟩, ⟨1991, .march, .on 31, hms 2 0 0⟩),
    (⟨east 10 0 0, .following Rules.russia⟩, ⟨1992, .january, .on 19, hms 2 0 0⟩),
    (⟨east 11 0 0, .following Rules.russia⟩, ⟨2011, .march, .on 27, hms 2 0 0⟩),
    (⟨east 12 0 0, .fixed 0⟩, ⟨2014, .october, .on 26, hms 2 0 0⟩)]
  present := ⟨east 11 0 0, .fixed 0⟩

def taipei : ZoneHistory where
  past := [(⟨east 8 6 0, .fixed 0⟩, ⟨1896, .january, .on 1, hms 0 0 0⟩),
    (⟨east 8 0 0, .fixed 0⟩, ⟨1937, .october, .on 1, hms 0 0 0⟩),
    (⟨east 9 0 0, .fixed 0⟩, ⟨1945, .september, .on 21, hms 1 0 0⟩)]
  present := ⟨east 8 0 0, .following Rules.taiwan⟩

def tashkent : ZoneHistory where
  past := [(⟨east 4 37 11, .fixed 0⟩, ⟨1924, .may, .on 2, hms 0 0 0⟩),
    (⟨east 5 0 0, .fixed 0⟩, ⟨1930, .june, .on 21, hms 0 0 0⟩),
    (⟨east 6 0 0, .following Rules.russia⟩, ⟨1991, .march, .on 31, hms 2 0 0⟩),
    (⟨east 5 0 0, .following Rules.russia⟩, ⟨1992, .january, .on 1, hms 0 0 0⟩)]
  present := ⟨east 5 0 0, .fixed 0⟩

def tbilisi : ZoneHistory where
  past := [(⟨east 2 59 11, .fixed 0⟩, ⟨1880, .january, .on 1, hms 0 0 0⟩),
    (⟨east 2 59 11, .fixed 0⟩, ⟨1924, .may, .on 2, hms 0 0 0⟩),
    (⟨east 3 0 0, .fixed 0⟩, ⟨1957, .march, .on 1, hms 0 0 0⟩),
    (⟨east 4 0 0, .following Rules.russia⟩, ⟨1991, .march, .on 31, hms 2 0 0⟩),
    (⟨east 3 0 0, .following Rules.russia⟩, ⟨1992, .january, .on 1, hms 0 0 0⟩),
    (⟨east 3 0 0, .following Rules.easternEurope⟩, ⟨1994, .september, .last .sunday, hms 0 0 0⟩),
    (⟨east 4 0 0, .following Rules.easternEurope⟩, ⟨1996, .october, .last .sunday, hms 0 0 0⟩),
    (⟨east 4 0 0, .fixed 60⟩, ⟨1997, .march, .last .sunday, hms 0 0 0⟩),
    (⟨east 4 0 0, .following Rules.easternEurope⟩, ⟨2004, .june, .on 27, hms 0 0 0⟩),
    (⟨east 3 0 0, .following Rules.russia⟩, ⟨2005, .march, .last .sunday, hms 2 0 0⟩)]
  present := ⟨east 4 0 0, .fixed 0⟩

def tehran : ZoneHistory where
  past := [(⟨east 3 25 44, .fixed 0⟩, ⟨1916, .january, .on 1, hms 0 0 0⟩),
    (⟨east 3 25 44, .fixed 0⟩, ⟨1935, .june, .on 13, hms 0 0 0⟩),
    (⟨east 3 30 0, .following Rules.iran⟩, ⟨1977, .october, .on 20, hms 24 0 0⟩),
    (⟨east 4 0 0, .following Rules.iran⟩, ⟨1979, .january, .on 1, hms 0 0 0⟩)]
  present := ⟨east 3 30 0, .following Rules.iran⟩

def thimphu : ZoneHistory where
  past := [(⟨east 5 58 36, .fixed 0⟩, ⟨1947, .august, .on 15, hms 0 0 0⟩),
    (⟨east 5 30 0, .fixed 0⟩, ⟨1987, .october, .on 1, hms 0 0 0⟩)]
  present := ⟨east 6 0 0, .fixed 0⟩

def tokyo : ZoneHistory where
  past := [(⟨east 9 18 59, .fixed 0⟩, ⟨1887, .december, .on 31, hms 15 0 0⟩)]
  present := ⟨east 9 0 0, .following Rules.japan⟩

def tomsk : ZoneHistory where
  past := [(⟨east 5 39 51, .fixed 0⟩, ⟨1919, .december, .on 22, hms 0 0 0⟩),
    (⟨east 6 0 0, .fixed 0⟩, ⟨1930, .june, .on 21, hms 0 0 0⟩),
    (⟨east 7 0 0, .following Rules.russia⟩, ⟨1991, .march, .on 31, hms 2 0 0⟩),
    (⟨east 6 0 0, .following Rules.russia⟩, ⟨1992, .january, .on 19, hms 2 0 0⟩),
    (⟨east 7 0 0, .following Rules.russia⟩, ⟨2002, .may, .on 1, hms 3 0 0⟩),
    (⟨east 6 0 0, .following Rules.russia⟩, ⟨2011, .march, .on 27, hms 2 0 0⟩),
    (⟨east 7 0 0, .fixed 0⟩, ⟨2014, .october, .on 26, hms 2 0 0⟩),
    (⟨east 6 0 0, .fixed 0⟩, ⟨2016, .may, .on 29, hms 2 0 0⟩)]
  present := ⟨east 7 0 0, .fixed 0⟩

def ulaanbaatar : ZoneHistory where
  past := [(⟨east 7 7 32, .fixed 0⟩, ⟨1905, .august, .on 1, hms 0 0 0⟩),
    (⟨east 7 0 0, .fixed 0⟩, ⟨1978, .january, .on 1, hms 0 0 0⟩)]
  present := ⟨east 8 0 0, .following Rules.mongolia⟩

def urumqi : ZoneHistory where
  past := [(⟨east 5 50 20, .fixed 0⟩, ⟨1928, .january, .on 1, hms 0 0 0⟩)]
  present := ⟨east 6 0 0, .fixed 0⟩

def ustNera : ZoneHistory where
  past := [(⟨east 9 32 54, .fixed 0⟩, ⟨1919, .december, .on 15, hms 0 0 0⟩),
    (⟨east 8 0 0, .fixed 0⟩, ⟨1930, .june, .on 21, hms 0 0 0⟩),
    (⟨east 9 0 0, .following Rules.russia⟩, ⟨1981, .april, .on 1, hms 0 0 0⟩),
    (⟨east 11 0 0, .following Rules.russia⟩, ⟨1991, .march, .on 31, hms 2 0 0⟩),
    (⟨east 10 0 0, .following Rules.russia⟩, ⟨1992, .january, .on 19, hms 2 0 0⟩),
    (⟨east 11 0 0, .following Rules.russia⟩, ⟨2011, .march, .on 27, hms 2 0 0⟩),
    (⟨east 12 0 0, .fixed 0⟩, ⟨2011, .september, .on 13, hms 0 0 0⟩),
    (⟨east 11 0 0, .fixed 0⟩, ⟨2014, .october, .on 26, hms 2 0 0⟩)]
  present := ⟨east 10 0 0, .fixed 0⟩

def vladivostok : ZoneHistory where
  past := [(⟨east 8 47 31, .fixed 0⟩, ⟨1922, .november, .on 15, hms 0 0 0⟩),
    (⟨east 9 0 0, .fixed 0⟩, ⟨1930, .june, .on 21, hms 0 0 0⟩),
    (⟨east 10 0 0, .following Rules.russia⟩, ⟨1991, .march, .on 31, hms 2 0 0⟩),
    (⟨east 9 0 0, .following Rules.russia⟩, ⟨1992, .january, .on 19, hms 2 0 0⟩),
    (⟨east 10 0 0, .following Rules.russia⟩, ⟨2011, .march, .on 27, hms 2 0 0⟩),
    (⟨east 11 0 0, .fixed 0⟩, ⟨2014, .october, .on 26, hms 2 0 0⟩)]
  present := ⟨east 10 0 0, .fixed 0⟩

def yakutsk : ZoneHistory where
  past := [(⟨east 8 38 58, .fixed 0⟩, ⟨1919, .december, .on 15, hms 0 0 0⟩),
    (⟨east 8 0 0, .fixed 0⟩, ⟨1930, .june, .on 21, hms 0 0 0⟩),
    (⟨east 9 0 0, .following Rules.russia⟩, ⟨1991, .march, .on 31, hms 2 0 0⟩),
    (⟨east 8 0 0, .following Rules.russia⟩, ⟨1992, .january, .on 19, hms 2 0 0⟩),
    (⟨east 9 0 0, .following Rules.russia⟩, ⟨2011, .march, .on 27, hms 2 0 0⟩),
    (⟨east 10 0 0, .fixed 0⟩, ⟨2014, .october, .on 26, hms 2 0 0⟩)]
  present := ⟨east 9 0 0, .fixed 0⟩

def yangon : ZoneHistory where
  past := [(⟨east 6 24 47, .fixed 0⟩, ⟨1880, .january, .on 1, hms 0 0 0⟩),
    (⟨east 6 24 47, .fixed 0⟩, ⟨1920, .january, .on 1, hms 0 0 0⟩),
    (⟨east 6 30 0, .fixed 0⟩, ⟨1942, .may, .on 1, hms 0 0 0⟩),
    (⟨east 9 0 0, .fixed 0⟩, ⟨1945, .may, .on 3, hms 0 0 0⟩)]
  present := ⟨east 6 30 0, .fixed 0⟩

def yekaterinburg : ZoneHistory where
  past := [(⟨east 4 2 33, .fixed 0⟩, ⟨1916, .july, .on 3, hms 0 0 0⟩),
    (⟨east 3 45 5, .fixed 0⟩, ⟨1919, .july, .on 15, hms 4 0 0⟩),
    (⟨east 4 0 0, .fixed 0⟩, ⟨1930, .june, .on 21, hms 0 0 0⟩),
    (⟨east 5 0 0, .following Rules.russia⟩, ⟨1991, .march, .on 31, hms 2 0 0⟩),
    (⟨east 4 0 0, .following Rules.russia⟩, ⟨1992, .january, .on 19, hms 2 0 0⟩),
    (⟨east 5 0 0, .following Rules.russia⟩, ⟨2011, .march, .on 27, hms 2 0 0⟩),
    (⟨east 6 0 0, .fixed 0⟩, ⟨2014, .october, .on 26, hms 2 0 0⟩)]
  present := ⟨east 5 0 0, .fixed 0⟩

def yerevan : ZoneHistory where
  past := [(⟨east 2 58 0, .fixed 0⟩, ⟨1924, .may, .on 2, hms 0 0 0⟩),
    (⟨east 3 0 0, .fixed 0⟩, ⟨1957, .march, .on 1, hms 0 0 0⟩),
    (⟨east 4 0 0, .following Rules.russia⟩, ⟨1991, .march, .on 31, hms 2 0 0⟩),
    (⟨east 3 0 0, .following Rules.russia⟩, ⟨1995, .september, .on 24, hms 2 0 0⟩),
    (⟨east 4 0 0, .fixed 0⟩, ⟨1997, .january, .on 1, hms 0 0 0⟩),
    (⟨east 4 0 0, .following Rules.russia⟩, ⟨2011, .january, .on 1, hms 0 0 0⟩)]
  present := ⟨east 4 0 0, .following Rules.armenia⟩

end ElectionReadiness.TimeZone.Asia
