import ElectionReadiness.TimeZone.YearlyChange

/-!
# Summer time rules of Australasia

The yearly changes of the clock that places in Australasia have followed.  Every line is
one rule: its years, month, day, time of day, and the minutes the clock is then
put ahead of standard time.
-/

set_option autoImplicit false

namespace ElectionReadiness.TimeZone.Rules

/-- Summer time in Australia. -/
def australia : List YearlyChange := [
  ⟨.only 1917, .january, .on 1, .standard 2 0, 60⟩,
  ⟨.only 1917, .march, .last .sunday, .standard 2 0, 0⟩,
  ⟨.only 1942, .january, .on 1, .standard 2 0, 60⟩,
  ⟨.only 1942, .march, .last .sunday, .standard 2 0, 0⟩,
  ⟨.only 1942, .september, .on 27, .standard 2 0, 60⟩,
  ⟨.between 1943 1944, .march, .last .sunday, .standard 2 0, 0⟩,
  ⟨.only 1943, .october, .on 3, .standard 2 0, 60⟩]

/-- Summer time in the Chatham Islands. -/
def chathamIslands : List YearlyChange := [
  ⟨.only 1974, .november, .onOrAfter .sunday 1, .standard 2 45, 60⟩,
  ⟨.only 1975, .february, .last .sunday, .standard 2 45, 0⟩,
  ⟨.between 1975 1988, .october, .last .sunday, .standard 2 45, 60⟩,
  ⟨.between 1976 1989, .march, .onOrAfter .sunday 1, .standard 2 45, 0⟩,
  ⟨.only 1989, .october, .onOrAfter .sunday 8, .standard 2 45, 60⟩,
  ⟨.between 1990 2006, .october, .onOrAfter .sunday 1, .standard 2 45, 60⟩,
  ⟨.between 1990 2007, .march, .onOrAfter .sunday 15, .standard 2 45, 0⟩,
  ⟨.since 2007, .september, .last .sunday, .standard 2 45, 60⟩,
  ⟨.since 2008, .april, .onOrAfter .sunday 1, .standard 2 45, 0⟩]

/-- Summer time in the Cook Islands. -/
def cookIslands : List YearlyChange := [
  ⟨.only 1978, .november, .on 12, .wall 0 0, 30⟩,
  ⟨.between 1979 1991, .march, .onOrAfter .sunday 1, .wall 0 0, 0⟩,
  ⟨.between 1979 1990, .october, .last .sunday, .wall 0 0, 30⟩]

/-- Summer time in Fiji. -/
def fiji : List YearlyChange := [
  ⟨.between 1998 1999, .november, .onOrAfter .sunday 1, .wall 2 0, 60⟩,
  ⟨.between 1999 2000, .february, .last .sunday, .wall 3 0, 0⟩,
  ⟨.only 2009, .november, .on 29, .wall 2 0, 60⟩,
  ⟨.only 2010, .march, .last .sunday, .wall 3 0, 0⟩,
  ⟨.between 2010 2013, .october, .onOrAfter .sunday 21, .wall 2 0, 60⟩,
  ⟨.only 2011, .march, .onOrAfter .sunday 1, .wall 3 0, 0⟩,
  ⟨.between 2012 2013, .january, .onOrAfter .sunday 18, .wall 3 0, 0⟩,
  ⟨.only 2014, .january, .onOrAfter .sunday 18, .wall 2 0, 0⟩,
  ⟨.between 2014 2018, .november, .onOrAfter .sunday 1, .wall 2 0, 60⟩,
  ⟨.between 2015 2021, .january, .onOrAfter .sunday 12, .wall 3 0, 0⟩,
  ⟨.only 2019, .november, .onOrAfter .sunday 8, .wall 2 0, 60⟩,
  ⟨.only 2020, .december, .on 20, .wall 2 0, 60⟩]

/-- Summer time in Guam. -/
def guam : List YearlyChange := [
  ⟨.only 1959, .june, .on 27, .wall 2 0, 60⟩,
  ⟨.only 1961, .january, .on 29, .wall 2 0, 0⟩,
  ⟨.only 1967, .september, .on 1, .wall 2 0, 60⟩,
  ⟨.only 1969, .january, .on 26, .wall 0 1, 0⟩,
  ⟨.only 1969, .june, .on 22, .wall 2 0, 60⟩,
  ⟨.only 1969, .august, .on 31, .wall 2 0, 0⟩,
  ⟨.between 1970 1971, .april, .last .sunday, .wall 2 0, 60⟩,
  ⟨.between 1970 1971, .september, .onOrAfter .sunday 1, .wall 2 0, 0⟩,
  ⟨.only 1973, .december, .on 16, .wall 2 0, 60⟩,
  ⟨.only 1974, .february, .on 24, .wall 2 0, 0⟩,
  ⟨.only 1976, .may, .on 26, .wall 2 0, 60⟩,
  ⟨.only 1976, .august, .on 22, .wall 2 1, 0⟩,
  ⟨.only 1977, .april, .on 24, .wall 2 0, 60⟩,
  ⟨.only 1977, .august, .on 28, .wall 2 0, 0⟩]

/-- Summer time in the holiday islands of Queensland. -/
def holidayIslands : List YearlyChange := [
  ⟨.between 1992 1993, .october, .last .sunday, .standard 2 0, 60⟩,
  ⟨.between 1993 1994, .march, .onOrAfter .sunday 1, .standard 2 0, 0⟩]

/-- Summer time in Lord Howe Island. -/
def lordHowe : List YearlyChange := [
  ⟨.between 1981 1984, .october, .last .sunday, .wall 2 0, 60⟩,
  ⟨.between 1982 1985, .march, .onOrAfter .sunday 1, .wall 2 0, 0⟩,
  ⟨.only 1985, .october, .last .sunday, .wall 2 0, 30⟩,
  ⟨.between 1986 1989, .march, .onOrAfter .sunday 15, .wall 2 0, 0⟩,
  ⟨.only 1986, .october, .on 19, .wall 2 0, 30⟩,
  ⟨.between 1987 1999, .october, .last .sunday, .wall 2 0, 30⟩,
  ⟨.between 1990 1995, .march, .onOrAfter .sunday 1, .wall 2 0, 0⟩,
  ⟨.between 1996 2005, .march, .last .sunday, .wall 2 0, 0⟩,
  ⟨.only 2000, .august, .last .sunday, .wall 2 0, 30⟩,
  ⟨.between 2001 2007, .october, .last .sunday, .wall 2 0, 30⟩,
  ⟨.only 2006, .april, .onOrAfter .sunday 1, .wall 2 0, 0⟩,
  ⟨.only 2007, .march, .last .sunday, .wall 2 0, 0⟩,
  ⟨.since 2008, .april, .onOrAfter .sunday 1, .wall 2 0, 0⟩,
  ⟨.since 2008, .october, .onOrAfter .sunday 1, .wall 2 0, 30⟩]

/-- Summer time in New Caledonia. -/
def newCaledonia : List YearlyChange := [
  ⟨.between 1977 1978, .december, .onOrAfter .sunday 1, .wall 0 0, 60⟩,
  ⟨.between 1978 1979, .february, .on 27, .wall 0 0, 0⟩,
  ⟨.only 1996, .december, .on 1, .standard 2 0, 60⟩,
  ⟨.only 1997, .march, .on 2, .standard 2 0, 0⟩]

/-- Summer time in New South Wales. -/
def newSouthWales : List YearlyChange := [
  ⟨.between 1971 1985, .october, .last .sunday, .standard 2 0, 60⟩,
  ⟨.only 1972, .february, .on 27, .standard 2 0, 0⟩,
  ⟨.between 1973 1981, .march, .onOrAfter .sunday 1, .standard 2 0, 0⟩,
  ⟨.only 1982, .april, .onOrAfter .sunday 1, .standard 2 0, 0⟩,
  ⟨.between 1983 1985, .march, .onOrAfter .sunday 1, .standard 2 0, 0⟩,
  ⟨.between 1986 1989, .march, .onOrAfter .sunday 15, .standard 2 0, 0⟩,
  ⟨.only 1986, .october, .on 19, .standard 2 0, 60⟩,
  ⟨.between 1987 1999, .october, .last .sunday, .standard 2 0, 60⟩,
  ⟨.between 1990 1995, .march, .onOrAfter .sunday 1, .standard 2 0, 0⟩,
  ⟨.between 1996 2005, .march, .last .sunday, .standard 2 0, 0⟩,
  ⟨.only 2000, .august, .last .sunday, .standard 2 0, 60⟩,
  ⟨.between 2001 2007, .october, .last .sunday, .standard 2 0, 60⟩,
  ⟨.only 2006, .april, .onOrAfter .sunday 1, .standard 2 0, 0⟩,
  ⟨.only 2007, .march, .last .sunday, .standard 2 0, 0⟩,
  ⟨.since 2008, .april, .onOrAfter .sunday 1, .standard 2 0, 0⟩,
  ⟨.since 2008, .october, .onOrAfter .sunday 1, .standard 2 0, 60⟩]

/-- Summer time in New Zealand. -/
def newZealand : List YearlyChange := [
  ⟨.only 1927, .november, .on 6, .wall 2 0, 60⟩,
  ⟨.only 1928, .march, .on 4, .wall 2 0, 0⟩,
  ⟨.between 1928 1933, .october, .onOrAfter .sunday 8, .wall 2 0, 30⟩,
  ⟨.between 1929 1933, .march, .onOrAfter .sunday 15, .wall 2 0, 0⟩,
  ⟨.between 1934 1940, .april, .last .sunday, .wall 2 0, 0⟩,
  ⟨.between 1934 1940, .september, .last .sunday, .wall 2 0, 30⟩,
  ⟨.only 1946, .january, .on 1, .wall 0 0, 0⟩,
  ⟨.only 1974, .november, .onOrAfter .sunday 1, .standard 2 0, 60⟩,
  ⟨.only 1975, .february, .last .sunday, .standard 2 0, 0⟩,
  ⟨.between 1975 1988, .october, .last .sunday, .standard 2 0, 60⟩,
  ⟨.between 1976 1989, .march, .onOrAfter .sunday 1, .standard 2 0, 0⟩,
  ⟨.only 1989, .october, .onOrAfter .sunday 8, .standard 2 0, 60⟩,
  ⟨.between 1990 2006, .october, .onOrAfter .sunday 1, .standard 2 0, 60⟩,
  ⟨.between 1990 2007, .march, .onOrAfter .sunday 15, .standard 2 0, 0⟩,
  ⟨.since 2007, .september, .last .sunday, .standard 2 0, 60⟩,
  ⟨.since 2008, .april, .onOrAfter .sunday 1, .standard 2 0, 0⟩]

/-- Summer time in Queensland. -/
def queensland : List YearlyChange := [
  ⟨.only 1971, .october, .last .sunday, .standard 2 0, 60⟩,
  ⟨.only 1972, .february, .last .sunday, .standard 2 0, 0⟩,
  ⟨.between 1989 1991, .october, .last .sunday, .standard 2 0, 60⟩,
  ⟨.between 1990 1992, .march, .onOrAfter .sunday 1, .standard 2 0, 0⟩]

/-- Summer time in Samoa. -/
def samoa : List YearlyChange := [
  ⟨.only 2010, .september, .last .sunday, .wall 0 0, 60⟩,
  ⟨.only 2011, .april, .onOrAfter .saturday 1, .wall 4 0, 0⟩,
  ⟨.only 2011, .september, .last .saturday, .wall 3 0, 60⟩,
  ⟨.between 2012 2021, .april, .onOrAfter .sunday 1, .wall 4 0, 0⟩,
  ⟨.between 2012 2020, .september, .last .sunday, .wall 3 0, 60⟩]

/-- Summer time in South Australia. -/
def southAustralia : List YearlyChange := [
  ⟨.between 1971 1985, .october, .last .sunday, .standard 2 0, 60⟩,
  ⟨.only 1986, .october, .on 19, .standard 2 0, 60⟩,
  ⟨.between 1987 2007, .october, .last .sunday, .standard 2 0, 60⟩,
  ⟨.only 1972, .february, .on 27, .standard 2 0, 0⟩,
  ⟨.between 1973 1985, .march, .onOrAfter .sunday 1, .standard 2 0, 0⟩,
  ⟨.between 1986 1990, .march, .onOrAfter .sunday 15, .standard 2 0, 0⟩,
  ⟨.only 1991, .march, .on 3, .standard 2 0, 0⟩,
  ⟨.only 1992, .march, .on 22, .standard 2 0, 0⟩,
  ⟨.only 1993, .march, .on 7, .standard 2 0, 0⟩,
  ⟨.only 1994, .march, .on 20, .standard 2 0, 0⟩,
  ⟨.between 1995 2005, .march, .last .sunday, .standard 2 0, 0⟩,
  ⟨.only 2006, .april, .on 2, .standard 2 0, 0⟩,
  ⟨.only 2007, .march, .last .sunday, .standard 2 0, 0⟩,
  ⟨.since 2008, .april, .onOrAfter .sunday 1, .standard 2 0, 0⟩,
  ⟨.since 2008, .october, .onOrAfter .sunday 1, .standard 2 0, 60⟩]

/-- Summer time in Tasmania. -/
def tasmania : List YearlyChange := [
  ⟨.only 1916, .october, .onOrAfter .sunday 1, .standard 2 0, 60⟩,
  ⟨.only 1917, .march, .last .sunday, .standard 2 0, 0⟩,
  ⟨.between 1917 1918, .october, .onOrAfter .sunday 22, .standard 2 0, 60⟩,
  ⟨.between 1918 1919, .march, .onOrAfter .sunday 1, .standard 2 0, 0⟩,
  ⟨.only 1967, .october, .onOrAfter .sunday 1, .standard 2 0, 60⟩,
  ⟨.only 1968, .march, .onOrAfter .sunday 29, .standard 2 0, 0⟩,
  ⟨.between 1968 1985, .october, .last .sunday, .standard 2 0, 60⟩,
  ⟨.between 1969 1971, .march, .onOrAfter .sunday 8, .standard 2 0, 0⟩,
  ⟨.only 1972, .february, .last .sunday, .standard 2 0, 0⟩,
  ⟨.between 1973 1981, .march, .onOrAfter .sunday 1, .standard 2 0, 0⟩,
  ⟨.between 1982 1983, .march, .last .sunday, .standard 2 0, 0⟩,
  ⟨.between 1984 1986, .march, .onOrAfter .sunday 1, .standard 2 0, 0⟩,
  ⟨.only 1986, .october, .onOrAfter .sunday 15, .standard 2 0, 60⟩,
  ⟨.between 1987 1990, .march, .onOrAfter .sunday 15, .standard 2 0, 0⟩,
  ⟨.only 1987, .october, .onOrAfter .sunday 22, .standard 2 0, 60⟩,
  ⟨.between 1988 1990, .october, .last .sunday, .standard 2 0, 60⟩,
  ⟨.between 1991 1999, .october, .onOrAfter .sunday 1, .standard 2 0, 60⟩,
  ⟨.between 1991 2005, .march, .last .sunday, .standard 2 0, 0⟩,
  ⟨.only 2000, .august, .last .sunday, .standard 2 0, 60⟩,
  ⟨.since 2001, .october, .onOrAfter .sunday 1, .standard 2 0, 60⟩,
  ⟨.only 2006, .april, .onOrAfter .sunday 1, .standard 2 0, 0⟩,
  ⟨.only 2007, .march, .last .sunday, .standard 2 0, 0⟩,
  ⟨.since 2008, .april, .onOrAfter .sunday 1, .standard 2 0, 0⟩]

/-- Summer time in Tonga. -/
def tonga : List YearlyChange := [
  ⟨.only 1999, .october, .on 7, .standard 2 0, 60⟩,
  ⟨.only 2000, .march, .on 19, .standard 2 0, 0⟩,
  ⟨.between 2000 2001, .november, .onOrAfter .sunday 1, .wall 2 0, 60⟩,
  ⟨.between 2001 2002, .january, .last .sunday, .wall 2 0, 0⟩,
  ⟨.only 2016, .november, .onOrAfter .sunday 1, .wall 2 0, 60⟩,
  ⟨.only 2017, .january, .onOrAfter .sunday 15, .wall 3 0, 0⟩]

/-- Summer time in Vanuatu. -/
def vanuatu : List YearlyChange := [
  ⟨.only 1973, .december, .on 22, .universal 12 0, 60⟩,
  ⟨.only 1974, .march, .on 30, .universal 12 0, 0⟩,
  ⟨.between 1983 1991, .september, .onOrAfter .saturday 22, .wall 24 0, 60⟩,
  ⟨.between 1984 1991, .march, .onOrAfter .saturday 22, .wall 24 0, 0⟩,
  ⟨.between 1992 1993, .january, .onOrAfter .saturday 22, .wall 24 0, 0⟩,
  ⟨.only 1992, .october, .onOrAfter .saturday 22, .wall 24 0, 60⟩]

/-- Summer time in Victoria. -/
def victoria : List YearlyChange := [
  ⟨.between 1971 1985, .october, .last .sunday, .standard 2 0, 60⟩,
  ⟨.only 1972, .february, .last .sunday, .standard 2 0, 0⟩,
  ⟨.between 1973 1985, .march, .onOrAfter .sunday 1, .standard 2 0, 0⟩,
  ⟨.between 1986 1990, .march, .onOrAfter .sunday 15, .standard 2 0, 0⟩,
  ⟨.between 1986 1987, .october, .onOrAfter .sunday 15, .standard 2 0, 60⟩,
  ⟨.between 1988 1999, .october, .last .sunday, .standard 2 0, 60⟩,
  ⟨.between 1991 1994, .march, .onOrAfter .sunday 1, .standard 2 0, 0⟩,
  ⟨.between 1995 2005, .march, .last .sunday, .standard 2 0, 0⟩,
  ⟨.only 2000, .august, .last .sunday, .standard 2 0, 60⟩,
  ⟨.between 2001 2007, .october, .last .sunday, .standard 2 0, 60⟩,
  ⟨.only 2006, .april, .onOrAfter .sunday 1, .standard 2 0, 0⟩,
  ⟨.only 2007, .march, .last .sunday, .standard 2 0, 0⟩,
  ⟨.since 2008, .april, .onOrAfter .sunday 1, .standard 2 0, 0⟩,
  ⟨.since 2008, .october, .onOrAfter .sunday 1, .standard 2 0, 60⟩]

/-- Summer time in Western Australia. -/
def westernAustralia : List YearlyChange := [
  ⟨.only 1974, .october, .last .sunday, .standard 2 0, 60⟩,
  ⟨.only 1975, .march, .onOrAfter .sunday 1, .standard 2 0, 0⟩,
  ⟨.only 1983, .october, .last .sunday, .standard 2 0, 60⟩,
  ⟨.only 1984, .march, .onOrAfter .sunday 1, .standard 2 0, 0⟩,
  ⟨.only 1991, .november, .on 17, .standard 2 0, 60⟩,
  ⟨.only 1992, .march, .onOrAfter .sunday 1, .standard 2 0, 0⟩,
  ⟨.only 2006, .december, .on 3, .standard 2 0, 60⟩,
  ⟨.between 2007 2009, .march, .last .sunday, .standard 2 0, 0⟩,
  ⟨.between 2007 2008, .october, .last .sunday, .standard 2 0, 60⟩]

end ElectionReadiness.TimeZone.Rules
