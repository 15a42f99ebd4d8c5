import ElectionReadiness.TimeZone.YearlyChange

/-!
# Summer time rules of South America

The yearly changes of the clock that places in South America have followed.  Every line is
one rule: its years, month, day, time of day, and the minutes the clock is then
put ahead of standard time.
-/

set_option autoImplicit false

namespace ElectionReadiness.TimeZone.Rules

/-- Summer time in Argentina. -/
def argentina : List YearlyChange := [
  ⟨.only 1930, .december, .on 1, .wall 0 0, 60⟩,
  ⟨.only 1931, .april, .on 1, .wall 0 0, 0⟩,
  ⟨.only 1931, .october, .on 15, .wall 0 0, 60⟩,
  ⟨.between 1932 1940, .march, .on 1, .wall 0 0, 0⟩,
  ⟨.between 1932 1939, .november, .on 1, .wall 0 0, 60⟩,
  ⟨.only 1940, .july, .on 1, .wall 0 0, 60⟩,
  ⟨.only 1941, .june, .on 15, .wall 0 0, 0⟩,
  ⟨.only 1941, .october, .on 15, .wall 0 0, 60⟩,
  ⟨.only 1943, .august, .on 1, .wall 0 0, 0⟩,
  ⟨.only 1943, .october, .on 15, .wall 0 0, 60⟩,
  ⟨.only 1946, .march, .on 1, .wall 0 0, 0⟩,
  ⟨.only 1946, .october, .on 1, .wall 0 0, 60⟩,
  ⟨.only 1963, .october, .on 1, .wall 0 0, 0⟩,
  ⟨.only 1963, .december, .on 15, .wall 0 0, 60⟩,
  ⟨.between 1964 1966, .march, .on 1, .wall 0 0, 0⟩,
  ⟨.between 1964 1966, .october, .on 15, .wall 0 0, 60⟩,
  ⟨.only 1967, .april, .on 2, .wall 0 0, 0⟩,
  ⟨.between 1967 1968, .october, .onOrAfter .sunday 1, .wall 0 0, 60⟩,
  ⟨.between 1968 1969, .april, .onOrAfter .sunday 1, .wall 0 0, 0⟩,
  ⟨.only 1974, .january, .on 23, .wall 0 0, 60⟩,
  ⟨.only 1974, .may, .on 1, .wall 0 0, 0⟩,
  ⟨.only 1988, .december, .on 1, .wall 0 0, 60⟩,
  ⟨.between 1989 1993, .march, .onOrAfter .sunday 1, .wall 0 0, 0⟩,
  ⟨.between 1989 1992, .october, .onOrAfter .sunday 15, .wall 0 0, 60⟩,
  ⟨.only 1999, .october, .onOrAfter .sunday 1, .wall 0 0, 60⟩,
  ⟨.only 2000, .march, .on 3, .wall 0 0, 0⟩,
  ⟨.only 2007, .december, .on 30, .wall 0 0, 60⟩,
  ⟨.between 2008 2009, .march, .onOrAfter .sunday 15, .wall 0 0, 0⟩,
  ⟨.only 2008, .october, .onOrAfter .sunday 15, .wall 0 0, 60⟩]

/-- Summer time in Brazil. -/
def brazil : List YearlyChange := [
  ⟨.only 1931, .october, .on 3, .wall 11 0, 60⟩,
  ⟨.between 1932 1933, .april, .on 1, .wall 0 0, 0⟩,
  ⟨.only 1932, .october, .on 3, .wall 0 0, 60⟩,
  ⟨.between 1949 1952, .december, .on 1, .wall 0 0, 60⟩,
  ⟨.only 1950, .april, .on 16, .wall 1 0, 0⟩,
  ⟨.between 1951 1952, .april, .on 1, .wall 0 0, 0⟩,
  ⟨.only 1953, .march, .on 1, .wall 0 0, 0⟩,
  ⟨.only 1963, .december, .on 9, .wall 0 0, 60⟩,
  ⟨.only 1964, .march, .on 1, .wall 0 0, 0⟩,
  ⟨.only 1965, .january, .on 31, .wall 0 0, 60⟩,
  ⟨.only 1965, .march, .on 31, .wall 0 0, 0⟩,
  ⟨.only 1965, .december, .on 1, .wall 0 0, 60⟩,
  ⟨.between 1966 1968, .march, .on 1, .wall 0 0, 0⟩,
  ⟨.between 1966 1967, .november, .on 1, .wall 0 0, 60⟩,
  ⟨.only 1985, .november, .on 2, .wall 0 0, 60⟩,
  ⟨.only 1986, .march, .on 15, .wall 0 0, 0⟩,
  ⟨.only 1986, .october, .on 25, .wall 0 0, 60⟩,
  ⟨.only 1987, .february, .on 14, .wall 0 0, 0⟩,
  ⟨.only 1987, .october, .on 25, .wall 0 0, 60⟩,
  ⟨.only 1988, .february, .on 7, .wall 0 0, 0⟩,
  ⟨.only 1988, .october, .on 16, .wall 0 0, 60⟩,
  ⟨.only 1989, .january, .on 29, .wall 0 0, 0⟩,
  ⟨.only 1989, .october, .on 15, .wall 0 0, 60⟩,
  ⟨.only 1990, .february, .on 11, .wall 0 0, 0⟩,
  ⟨.only 1990, .october, .on 21, .wall 0 0, 60⟩,
  ⟨.only 1991, .february, .on 17, .wall 0 0, 0⟩,
  ⟨.only 1991, .october, .on 20, .wall 0 0, 60⟩,
  ⟨.only 1992, .february, .on 9, .wall 0 0, 0⟩,
  ⟨.only 1992, .october, .on 25, .wall 0 0, 60⟩,
  ⟨.only 1993, .january, .on 31, .wall 0 0, 0⟩,
  ⟨.between 1993 1995, .october, .onOrAfter .sunday 11, .wall 0 0, 60⟩,
  ⟨.between 1994 1995, .february, .onOrAfter .sunday 15, .wall 0 0, 0⟩,
  ⟨.only 1996, .february, .on 11, .wall 0 0, 0⟩,
  ⟨.only 1996, .october, .on 6, .wall 0 0, 60⟩,
  ⟨.only 1997, .february, .on 16, .wall 0 0, 0⟩,
  ⟨.only 1997, .october, .on 6, .wall 0 0, 60⟩,
  ⟨.only 1998, .march, .on 1, .wall 0 0, 0⟩,
  ⟨.only 1998, .october, .on 11, .wall 0 0, 60⟩,
  ⟨.only 1999, .february, .on 21, .wall 0 0, 0⟩,
  ⟨.only 1999, .october, .on 3, .wall 0 0, 60⟩,
  ⟨.only 2000, .february, .on 27, .wall 0 0, 0⟩,
  ⟨.between 2000 2001, .october, .onOrAfter .sunday 8, .wall 0 0, 60⟩,
  ⟨.between 2001 2006, .february, .onOrAfter .sunday 15, .wall 0 0, 0⟩,
  ⟨.only 2002, .november, .on 3, .wall 0 0, 60⟩,
  ⟨.only 2003, .october, .on 19, .wall 0 0, 60⟩,
  ⟨.only 2004, .november, .on 2, .wall 0 0, 60⟩,
  ⟨.only 2005, .october, .on 16, .wall 0 0, 60⟩,
  ⟨.only 2006, .november, .on 5, .wall 0 0, 60⟩,
  ⟨.only 2007, .february, .on 25, .wall 0 0, 0⟩,
  ⟨.only 2007, .october, .onOrAfter .sunday 8, .wall 0 0, 60⟩,
  ⟨.between 2008 2017, .october, .onOrAfter .sunday 15, .wall 0 0, 60⟩,
  ⟨.between 2008 2011, .february, .onOrAfter .sunday 15, .wall 0 0, 0⟩,
  ⟨.only 2012, .february, .onOrAfter .sunday 22, .wall 0 0, 0⟩,
  ⟨.between 2013 2014, .february, .onOrAfter .sunday 15, .wall 0 0, 0⟩,
  ⟨.only 2015, .february, .onOrAfter .sunday 22, .wall 0 0, 0⟩,
  ⟨.between 2016 2019, .february, .onOrAfter .sunday 15, .wall 0 0, 0⟩,
  ⟨.only 2018, .november, .onOrAfter .sunday 1, .wall 0 0, 60⟩]

/-- Summer time in Chile. -/
def chile : List YearlyChange := [
  ⟨.between 1927 1931, .september, .on 1, .wall 0 0, 60⟩,
  ⟨.between 1928 1932, .april, .on 1, .wall 0 0, 0⟩,
  ⟨.only 1968, .november, .on 3, .universal 4 0, 60⟩,
  ⟨.only 1969, .march, .on 30, .universal 3 0, 0⟩,
  ⟨.only 1969, .november, .on 23, .universal 4 0, 60⟩,
  ⟨.only 1970, .march, .on 29, .universal 3 0, 0⟩,
  ⟨.only 1971, .march, .on 14, .universal 3 0, 0⟩,
  ⟨.between 1970 1972, .october, .onOrAfter .sunday 9, .universal 4 0, 60⟩,
  ⟨.between 1972 1986, .march, .onOrAfter .sunday 9, .universal 3 0, 0⟩,
  ⟨.only 1973, .september, .on 30, .universal 4 0, 60⟩,
  ⟨.between 1974 1987, .october, .onOrAfter .sunday 9, .universal 4 0, 60⟩,
  ⟨.only 1987, .april, .on 12, .universal 3 0, 0⟩,
  ⟨.between 1988 1990, .march, .onOrAfter .sunday 9, .universal 3 0, 0⟩,
  ⟨.between 1988 1989, .october, .onOrAfter .sunday 9, .universal 4 0, 60⟩,
  ⟨.only 1990, .september, .on 16, .universal 4 0, 60⟩,
  ⟨.between 1991 1996, .march, .onOrAfter .sunday 9, .universal 3 0, 0⟩,
  ⟨.between 1991 1997, .october, .onOrAfter .sunday 9, .universal 4 0, 60⟩,
  ⟨.only 1997, .march, .on 30, .universal 3 0, 0⟩,
  ⟨.only 1998, .march, .onOrAfter .sunday 9, .universal 3 0, 0⟩,
  ⟨.only 1998, .september, .on 27, .universal 4 0, 60⟩,
  ⟨.only 1999, .april, .on 4, .universal 3 0, 0⟩,
  ⟨.between 1999 2010, .october, .onOrAfter .sunday 9, .universal 4 0, 60⟩,
  ⟨.between 2000 2007, .march, .onOrAfter .sunday 9, .universal 3 0, 0⟩,
  ⟨.only 2008, .march, .on 30, .universal 3 0, 0⟩,
  ⟨.only 2009, .march, .onOrAfter .sunday 9, .universal 3 0, 0⟩,
  ⟨.only 2010, .april, .onOrAfter .sunday 1, .universal 3 0, 0⟩,
  ⟨.only 2011, .may, .onOrAfter .sunday 2, .universal 3 0, 0⟩,
  ⟨.only 2011, .august, .onOrAfter .sunday 16, .universal 4 0, 60⟩,
  ⟨.between 2012 2014, .april, .onOrAfter .sunday 23, .universal 3 0, 0⟩,
  ⟨.between 2012 2014, .september, .onOrAfter .sunday 2, .universal 4 0, 60⟩,
  ⟨.between 2016 2018, .may, .onOrAfter .sunday 9, .universal 3 0, 0⟩,
  ⟨.between 2016 2018, .august, .onOrAfter .sunday 9, .universal 4 0, 60⟩,
  ⟨.since 2019, .april, .onOrAfter .sunday 2, .universal 3 0, 0⟩,
  ⟨.between 2019 2021, .september, .onOrAfter .sunday 2, .universal 4 0, 60⟩,
  ⟨.only 2022, .september, .onOrAfter .sunday 9, .universal 4 0, 60⟩,
  ⟨.since 2023, .september, .onOrAfter .sunday 2, .universal 4 0, 60⟩]

/-- Summer time in Colombia. -/
def colombia : List YearlyChange := [
  ⟨.only 1992, .may, .on 3, .wall 0 0, 60⟩,
  ⟨.only 1993, .february, .on 6, .wall 24 0, 0⟩]

/-- Summer time in Ecuador. -/
def ecuador : List YearlyChange := [
  ⟨.only 1992, .november, .on 28, .wall 0 0, 60⟩,
  ⟨.only 1993, .february, .on 5, .wall 0 0, 0⟩]

/-- Summer time in the Falkland Islands. -/
def falklands : List YearlyChange := [
  ⟨.between 1937 1938, .september, .last .sunday, .wall 0 0, 60⟩,
  ⟨.between 1938 1942, .march, .onOrAfter .sunday 19, .wall 0 0, 0⟩,
  ⟨.only 1939, .october, .on 1, .wall 0 0, 60⟩,
  ⟨.between 1940 1942, .september, .last .sunday, .wall 0 0, 60⟩,
  ⟨.only 1943, .january, .on 1, .wall 0 0, 0⟩,
  ⟨.only 1983, .september, .last .sunday, .wall 0 0, 60⟩,
  ⟨.between 1984 1985, .april, .last .sunday, .wall 0 0, 0⟩,
  ⟨.only 1984, .september, .on 16, .wall 0 0, 60⟩,
  ⟨.between 1985 2000, .september, .onOrAfter .sunday 9, .wall 0 0, 60⟩,
  ⟨.between 1986 2000, .april, .onOrAfter .sunday 16, .wall 0 0, 0⟩,
  ⟨.between 2001 2010, .april, .onOrAfter .sunday 15, .wall 2 0, 0⟩,
  ⟨.between 2001 2010, .september, .onOrAfter .sunday 1, .wall 2 0, 60⟩]

/-- Summer time in Paraguay. -/
def paraguay : List YearlyChange := [
  ⟨.between 1975 1988, .october, .on 1, .wall 0 0, 60⟩,
  ⟨.between 1975 1978, .march, .on 1, .wall 0 0, 0⟩,
  ⟨.between 1979 1991, .april, .on 1, .wall 0 0, 0⟩,
  ⟨.only 1989, .october, .on 22, .wall 0 0, 60⟩,
  ⟨.only 1990, .october, .on 1, .wall 0 0, 60⟩,
  ⟨.only 1991, .october, .on 6, .wall 0 0, 60⟩,
  ⟨.only 1992, .march, .on 1, .wall 0 0, 0⟩,
  ⟨.only 1992, .october, .on 5, .wall 0 0, 60⟩,
  ⟨.only 1993, .march, .on 31, .wall 0 0, 0⟩,
  ⟨.between 1993 1995, .october, .on 1, .wall 0 0, 60⟩,
  ⟨.between 1994 1995, .february, .last .sunday, .wall 0 0, 0⟩,
  ⟨.only 1996, .march, .on 1, .wall 0 0, 0⟩,
  ⟨.between 1996 2001, .october, .onOrAfter .sunday 1, .wall 0 0, 60⟩,
  ⟨.only 1997, .february, .last .sunday, .wall 0 0, 0⟩,
  ⟨.between 1998 2001, .march, .onOrAfter .sunday 1, .wall 0 0, 0⟩,
  ⟨.between 2002 2004, .april, .onOrAfter .sunday 1, .wall 0 0, 0⟩,
  ⟨.between 2002 2003, .september, .onOrAfter .sunday 1, .wall 0 0, 60⟩,
  ⟨.between 2004 2009, .october, .onOrAfter .sunday 15, .wall 0 0, 60⟩,
  ⟨.between 2005 2009, .march, .onOrAfter .sunday 8, .wall 0 0, 0⟩,
  ⟨.since 2010, .october, .onOrAfter .sunday 1, .wall 0 0, 60⟩,
  ⟨.between 2010 2012, .april, .onOrAfter .sunday 8, .wall 0 0, 0⟩,
  ⟨.since 2013, .march, .onOrAfter .sunday 22, .wall 0 0, 0⟩]

/-- Summer time in Peru. -/
def peru : List YearlyChange := [
  ⟨.only 1938, .january, .on 1, .wall 0 0, 60⟩,
  ⟨.only 1938, .april, .on 1, .wall 0 0, 0⟩,
  ⟨.between 1938 1939, .september, .last .sunday, .wall 0 0, 60⟩,
  ⟨.between 1939 1940, .march, .onOrAfter .sunday 24, .wall 0 0, 0⟩,
  ⟨.between 1986 1987, .january, .on 1, .wall 0 0, 60⟩,
  ⟨.between 1986 1987, .april, .on 1, .wall 0 0, 0⟩,
  ⟨.only 1990, .january, .on 1, .wall 0 0, 60⟩,
  ⟨.only 1990, .april, .on 1, .wall 0 0, 0⟩,
  ⟨.only 1994, .january, .on 1, .wall 0 0, 60⟩,
  ⟨.only 1994, .april, .on 1, .wall 0 0, 0⟩]

/-- Summer time in San Luis. -/
def sanLuis : List YearlyChange := [
  ⟨.between 2008 2009, .march, .onOrAfter .sunday 8, .wall 0 0, 0⟩,
  ⟨.between 2007 2008, .october, .onOrAfter .sunday 8, .wall 0 0, 60⟩]

/-- Summer time in Uruguay. -/
def uruguay : List YearlyChange := [
  ⟨.between 1923 1925, .october, .on 1, .wall 0 0, 30⟩,
  ⟨.between 1924 1926, .april, .on 1, .wall 0 0, 0⟩,
  ⟨.between 1933 1938, .october, .last .sunday, .wall 0 0, 30⟩,
  ⟨.between 1934 1941, .march, .last .saturday, .wall 24 0, 0⟩,
  ⟨.only 1939, .october, .on 1, .wall 0 0, 30⟩,
  ⟨.only 1940, .october, .on 27, .wall 0 0, 30⟩,
  ⟨.only 1941, .august, .on 1, .wall 0 0, 30⟩,
  ⟨.only 1942, .december, .on 14, .wall 0 0, 30⟩,
  ⟨.only 1943, .march, .on 14, .wall 0 0, 0⟩,
  ⟨.only 1959, .may, .on 24, .wall 0 0, 30⟩,
  ⟨.only 1959, .november, .on 15, .wall 0 0, 0⟩,
  ⟨.only 1960, .january, .on 17, .wall 0 0, 60⟩,
  ⟨.only 1960, .march, .on 6, .wall 0 0, 0⟩,
  ⟨.only 1965, .april, .on 4, .wall 0 0, 60⟩,
  ⟨.only 1965, .september, .on 26, .wall 0 0, 0⟩,
  ⟨.only 1968, .may, .on 27, .wall 0 0, 30⟩,
  ⟨.only 1968, .december, .on 1, .wall 0 0, 0⟩,
  ⟨.only 1970, .april, .on 25, .wall 0 0, 60⟩,
  ⟨.only 1970, .june, .on 14, .wall 0 0, 0⟩,
  ⟨.only 1972, .april, .on 23, .wall 0 0, 60⟩,
  ⟨.only 1972, .july, .on 16, .wall 0 0, 0⟩,
  ⟨.only 1974, .january, .on 13, .wall 0 0, 90⟩,
  ⟨.only 1974, .march, .on 10, .wall 0 0, 30⟩,
  ⟨.only 1974, .september, .on 1, .wall 0 0, 0⟩,
  ⟨.only 1974, .december, .on 22, .wall 0 0, 60⟩,
  ⟨.only 1975, .march, .on 30, .wall 0 0, 0⟩,
  ⟨.only 1976, .december, .on 19, .wall 0 0, 60⟩,
  ⟨.only 1977, .march, .on 6, .wall 0 0, 0⟩,
  ⟨.only 1977, .december, .on 4, .wall 0 0, 60⟩,
  ⟨.between 1978 1979, .march, .onOrAfter .sunday 1, .wall 0 0, 0⟩,
  ⟨.only 1978, .december, .on 17, .wall 0 0, 60⟩,
  ⟨.only 1979, .april, .on 29, .wall 0 0, 60⟩,
  ⟨.only 1980, .march, .on 16, .wall 0 0, 0⟩,
  ⟨.only 1987, .december, .on 14, .wall 0 0, 60⟩,
  ⟨.only 1988, .february, .on 28, .wall 0 0, 0⟩,
  ⟨.only 1988, .december, .on 11, .wall 0 0, 60⟩,
  ⟨.only 1989, .march, .on 5, .wall 0 0, 0⟩,
  ⟨.only 1989, .october, .on 29, .wall 0 0, 60⟩,
  ⟨.only 1990, .february, .on 25, .wall 0 0, 0⟩,
  ⟨.between 1990 1991, .october, .onOrAfter .sunday 21, .wall 0 0, 60⟩,
  ⟨.between 1991 1992, .march, .onOrAfter .sunday 1, .wall 0 0, 0⟩,
  ⟨.only 1992, .october, .on 18, .wall 0 0, 60⟩,
  ⟨.only 1993, .february, .on 28, .wall 0 0, 0⟩,
  ⟨.only 2004, .september, .on 19, .wall 0 0, 60⟩,
  ⟨.only 2005, .march, .on 27, .wall 2 0, 0⟩,
  ⟨.only 2005, .october, .on 9, .wall 2 0, 60⟩,
  ⟨.between 2006 2015, .march, .onOrAfter .sunday 8, .wall 2 0, 0⟩,
  ⟨.between 2006 2014, .october, .onOrAfter .sunday 1, .wall 2 0, 60⟩]

end ElectionReadiness.TimeZone.Rules
