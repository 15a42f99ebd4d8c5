import ElectionReadiness.TimeZone.YearlyChange

/-!
# Summer time rules of Africa

The yearly changes of the clock that places in Africa have followed.  Every line is
one rule: its years, month, day, time of day, and the minutes the clock is then
put ahead of standard time.
-/

set_option autoImplicit false

namespace ElectionReadiness.TimeZone.Rules

/-- Summer time in Algeria. -/
def algeria : List YearlyChange := [
  ⟨.only 1916, .june, .on 14, .standard 23 0, 60⟩,
  ⟨.between 1916 1919, .october, .onOrAfter .sunday 1, .standard 23 0, 0⟩,
  ⟨.only 1917, .march, .on 24, .standard 23 0, 60⟩,
  ⟨.only 1918, .march, .on 9, .standard 23 0, 60⟩,
  ⟨.only 1919, .march, .on 1, .standard 23 0, 60⟩,
  ⟨.only 1920, .february, .on 14, .standard 23 0, 60⟩,
  ⟨.only 1920, .october, .on 23, .standard 23 0, 0⟩,
  ⟨.only 1921, .march, .on 14, .standard 23 0, 60⟩,
  ⟨.only 1921, .june, .on 21, .standard 23 0, 0⟩,
  ⟨.only 1939, .september, .on 11, .standard 23 0, 60⟩,
  ⟨.only 1939, .november, .on 19, .wall 1 0, 0⟩,
  ⟨.between 1944 1945, .april, .onOrAfter .monday 1, .wall 2 0, 60⟩,
  ⟨.only 1944, .october, .on 8, .wall 2 0, 0⟩,
  ⟨.only 1945, .september, .on 16, .wall 1 0, 0⟩,
  ⟨.only 1971, .april, .on 25, .standard 23 0, 60⟩,
  ⟨.only 1971, .september, .on 26, .standard 23 0, 0⟩,
  ⟨.only 1977, .may, .on 6, .wall 0 0, 60⟩,
  ⟨.only 1977, .october, .on 21, .wall 0 0, 0⟩,
  ⟨.only 1978, .march, .on 24, .wall 1 0, 60⟩,
  ⟨.only 1978, .september, .on 22, .wall 3 0, 0⟩,
  ⟨.only 1980, .april, .on 25, .wall 0 0, 60⟩,
  ⟨.only 1980, .october, .on 31, .wall 2 0, 0⟩]

/-- Summer time in Egypt. -/
def egypt : List YearlyChange := [
  ⟨.only 1940, .july, .on 15, .wall 0 0, 60⟩,
  ⟨.only 1940, .october, .on 1, .wall 0 0, 0⟩,
  ⟨.only 1941, .april, .on 15, .wall 0 0, 60⟩,
  ⟨.only 1941, .september, .on 16, .wall 0 0, 0⟩,
  ⟨.between 1942 1944, .april, .on 1, .wall 0 0, 60⟩,
  ⟨.only 1942, .october, .on 27, .wall 0 0, 0⟩,
  ⟨.between 1943 1945, .november, .on 1, .wall 0 0, 0⟩,
  ⟨.only 1945, .april, .on 16, .wall 0 0, 60⟩,
  ⟨.only 1957, .may, .on 10, .wall 0 0, 60⟩,
  ⟨.between 1957 1958, .october, .on 1, .wall 0 0, 0⟩,
  ⟨.only 1958, .may, .on 1, .wall 0 0, 60⟩,
  ⟨.between 1959 1981, .may, .on 1, .wall 1 0, 60⟩,
  ⟨.between 1959 1965, .september, .on 30, .wall 3 0, 0⟩,
  ⟨.between 1966 1994, .october, .on 1, .wall 3 0, 0⟩,
  ⟨.only 1982, .july, .on 25, .wall 1 0, 60⟩,
  ⟨.only 1983, .july, .on 12, .wall 1 0, 60⟩,
  ⟨.between 1984 1988, .may, .on 1, .wall 1 0, 60⟩,
  ⟨.only 1989, .may, .on 6, .wall 1 0, 60⟩,
  ⟨.between 1990 1994, .may, .on 1, .wall 1 0, 60⟩,
  ⟨.between 1995 2010, .april, .last .friday, .standard 0 0, 60⟩,
  ⟨.between 1995 2005, .september, .last .thursday, .wall 24 0, 0⟩,
  ⟨.only 2006, .september, .on 21, .wall 24 0, 0⟩,
  ⟨.only 2007, .september, .onOrAfter .thursday 1, .wall 24 0, 0⟩,
  ⟨.only 2008, .august, .last .thursday, .wall 24 0, 0⟩,
  ⟨.only 2009, .august, .on 20, .wall 24 0, 0⟩,
  ⟨.only 2010, .august, .on 10, .wall 24 0, 0⟩,
  ⟨.only 2010, .september, .on 9, .wall 24 0, 60⟩,
  ⟨.only 2010, .september, .last .thursday, .wall 24 0, 0⟩,
  ⟨.only 2014, .may, .on 15, .wall 24 0, 60⟩,
  ⟨.only 2014, .june, .on 26, .wall 24 0, 0⟩,
  ⟨.only 2014, .july, .on 31, .wall 24 0, 60⟩,
  ⟨.only 2014, .september, .last .thursday, .wall 24 0, 0⟩,
  ⟨.since 2023, .april, .last .friday, .wall 0 0, 60⟩,
  ⟨.since 2023, .october, .last .thursday, .wall 24 0, 0⟩]

/-- Summer time in Libya. -/
def libya : List YearlyChange := [
  ⟨.only 1951, .october, .on 14, .wall 2 0, 60⟩,
  ⟨.only 1952, .january, .on 1, .wall 0 0, 0⟩,
  ⟨.only 1953, .october, .on 9, .wall 2 0, 60⟩,
  ⟨.only 1954, .january, .on 1, .wall 0 0, 0⟩,
  ⟨.only 1955, .september, .on 30, .wall 0 0, 60⟩,
  ⟨.only 1956, .january, .on 1, .wall 0 0, 0⟩,
  ⟨.between 1982 1984, .april, .on 1, .wall 0 0, 60⟩,
  ⟨.between 1982 1985, .october, .on 1, .wall 0 0, 0⟩,
  ⟨.only 1985, .april, .on 6, .wall 0 0, 60⟩,
  ⟨.only 1986, .april, .on 4, .wall 0 0, 60⟩,
  ⟨.only 1986, .october, .on 3, .wall 0 0, 0⟩,
  ⟨.between 1987 1989, .april, .on 1, .wall 0 0, 60⟩,
  ⟨.between 1987 1989, .october, .on 1, .wall 0 0, 0⟩,
  ⟨.only 1997, .april, .on 4, .wall 0 0, 60⟩,
  ⟨.only 1997, .october, .on 4, .wall 0 0, 0⟩,
  ⟨.only 2013, .march, .last .friday, .wall 1 0, 60⟩,
  ⟨.only 2013, .october, .last .friday, .wall 2 0, 0⟩]

/-- Summer time in Mauritius. -/
def mauritius : List YearlyChange := [
  ⟨.only 1982, .october, .on 10, .wall 0 0, 60⟩,
  ⟨.only 1983, .march, .on 21, .wall 0 0, 0⟩,
  ⟨.only 2008, .october, .last .sunday, .wall 2 0, 60⟩,
  ⟨.only 2009, .march, .last .sunday, .wall 2 0, 0⟩]

/-- Summer time in Morocco. -/
def morocco : List YearlyChange := [
  ⟨.only 1939, .september, .on 12, .wall 0 0, 60⟩,
  ⟨.only 1939, .november, .on 19, .wall 0 0, 0⟩,
  ⟨.only 1940, .february, .on 25, .wall 0 0, 60⟩,
  ⟨.only 1945, .november, .on 18, .wall 0 0, 0⟩,
  ⟨.only 1950, .june, .on 11, .wall 0 0, 60⟩,
  ⟨.only 1950, .october, .on 29, .wall 0 0, 0⟩,
  ⟨.only 1967, .june, .on 3, .wall 12 0, 60⟩,
  ⟨.only 1967, .october, .on 1, .wall 0 0, 0⟩,
  ⟨.only 1974, .june, .on 24, .wall 0 0, 60⟩,
  ⟨.only 1974, .september, .on 1, .wall 0 0, 0⟩,
  ⟨.between 1976 1977, .may, .on 1, .wall 0 0, 60⟩,
  ⟨.only 1976, .august, .on 1, .wall 0 0, 0⟩,
  ⟨.only 1977, .september, .on 28, .wall 0 0, 0⟩,
  ⟨.only 1978, .june, .on 1, .wall 0 0, 60⟩,
  ⟨.only 1978, .august, .on 4, .wall 0 0, 0⟩,
  ⟨.only 2008, .june, .on 1, .wall 0 0, 60⟩,
  ⟨.only 2008, .september, .on 1, .wall 0 0, 0⟩,
  ⟨.only 2009, .june, .on 1, .wall 0 0, 60⟩,
  ⟨.only 2009, .august, .on 21, .wall 0 0, 0⟩,
  ⟨.only 2010, .may, .on 2, .wall 0 0, 60⟩,
  ⟨.only 2010, .august, .on 8, .wall 0 0, 0⟩,
  ⟨.only 2011, .april, .on 3, .wall 0 0, 60⟩,
  ⟨.only 2011, .july, .on 31, .wall 0 0, 0⟩,
  ⟨.between 2012 2013, .april, .last .sunday, .wall 2 0, 60⟩,
  ⟨.only 2012, .july, .on 20, .wall 3 0, 0⟩,
  ⟨.only 2012, .august, .on 20, .wall 2 0, 60⟩,
  ⟨.only 2012, .september, .on 30, .wall 3 0, 0⟩,
  ⟨.only 2013, .july, .on 7, .wall 3 0, 0⟩,
  ⟨.only 2013, .august, .on 10, .wall 2 0, 60⟩,
  ⟨.between 2013 2018, .october, .last .sunday, .wall 3 0, 0⟩,
  ⟨.between 2014 2018, .march, .last .sunday, .wall 2 0, 60⟩,
  ⟨.only 2014, .june, .on 28, .wall 3 0, 0⟩,
  ⟨.only 2014, .august, .on 2, .wall 2 0, 60⟩,
  ⟨.only 2015, .june, .on 14, .wall 3 0, 0⟩,
  ⟨.only 2015, .july, .on 19, .wall 2 0, 60⟩,
  ⟨.only 2016, .june, .on 5, .wall 3 0, 0⟩,
  ⟨.only 2016, .july, .on 10, .wall 2 0, 60⟩,
  ⟨.only 2017, .may, .on 21, .wall 3 0, 0⟩,
  ⟨.only 2017, .july, .on 2, .wall 2 0, 60⟩,
  ⟨.only 2018, .may, .on 13, .wall 3 0, 0⟩,
  ⟨.only 2018, .june, .on 17, .wall 2 0, 60⟩,
  ⟨.only 2019, .may, .on 5, .wall 3 0, -60⟩,
  ⟨.only 2019, .june, .on 9, .wall 2 0, 0⟩,
  ⟨.only 2020, .april, .on 19, .wall 3 0, -60⟩,
  ⟨.only 2020, .may, .on 31, .wall 2 0, 0⟩,
  ⟨.only 2021, .april, .on 11, .wall 3 0, -60⟩,
  ⟨.only 2021, .may, .on 16, .wall 2 0, 0⟩,
  ⟨.only 2022, .march, .on 27, .wall 3 0, -60⟩,
  ⟨.only 2022, .may, .on 8, .wall 2 0, 0⟩,
  ⟨.only 2023, .march, .on 19, .wall 3 0, -60⟩,
  ⟨.only 2023, .april, .on 23, .wall 2 0, 0⟩,
  ⟨.only 2024, .march, .on 10, .wall 3 0, -60⟩,
  ⟨.only 2024, .april, .on 14, .wall 2 0, 0⟩,
  ⟨.only 2025, .february, .on 23, .wall 3 0, -60⟩,
  ⟨.only 2025, .april, .on 6, .wall 2 0, 0⟩,
  ⟨.only 2026, .february, .on 15, .wall 3 0, -60⟩,
  ⟨.only 2026, .march, .on 22, .wall 2 0, 0⟩,
  ⟨.only 2027, .february, .on 7, .wall 3 0, -60⟩,
  ⟨.only 2027, .march, .on 14, .wall 2 0, 0⟩,
  ⟨.only 2028, .january, .on 23, .wall 3 0, -60⟩,
  ⟨.only 2028, .march, .on 5, .wall 2 0, 0⟩,
  ⟨.only 2029, .january, .on 14, .wall 3 0, -60⟩,
  ⟨.only 2029, .february, .on 18, .wall 2 0, 0⟩,
  ⟨.only 2029, .december, .on 30, .wall 3 0, -60⟩,
  ⟨.only 2030, .february, .on 10, .wall 2 0, 0⟩,
  ⟨.only 2030, .december, .on 22, .wall 3 0, -60⟩,
  ⟨.only 2031, .january, .on 26, .wall 2 0, 0⟩,
  ⟨.only 2031, .december, .on 14, .wall 3 0, -60⟩,
  ⟨.only 2032, .january, .on 18, .wall 2 0, 0⟩,
  ⟨.only 2032, .november, .on 28, .wall 3 0, -60⟩,
  ⟨.only 2033, .january, .on 9, .wall 2 0, 0⟩,
  ⟨.only 2033, .november, .on 20, .wall 3 0, -60⟩,
  ⟨.only 2033, .december, .on 25, .wall 2 0, 0⟩,
  ⟨.only 2034, .november, .on 5, .wall 3 0, -60⟩,
  ⟨.only 2034, .december, .on 17, .wall 2 0, 0⟩,
  ⟨.only 2035, .october, .on 28, .wall 3 0, -60⟩,
  ⟨.only 2035, .december, .on 9, .wall 2 0, 0⟩,
  ⟨.only 2036, .october, .on 19, .wall 3 0, -60⟩,
  ⟨.only 2036, .november, .on 23, .wall 2 0, 0⟩,
  ⟨.only 2037, .october, .on 4, .wall 3 0, -60⟩,
  ⟨.only 2037, .november, .on 15, .wall 2 0, 0⟩,
  ⟨.only 2038, .september, .on 26, .wall 3 0, -60⟩,
  ⟨.only 2038, .october, .on 31, .wall 2 0, 0⟩,
  ⟨.only 2039, .september, .on 18, .wall 3 0, -60⟩,
  ⟨.only 2039, .october, .on 23, .wall 2 0, 0⟩,
  ⟨.only 2040, .september, .on 2, .wall 3 0, -60⟩,
  ⟨.only 2040, .october, .on 14, .wall 2 0, 0⟩,
  ⟨.only 2041, .august, .on 25, .wall 3 0, -60⟩,
  ⟨.only 2041, .september, .on 29, .wall 2 0, 0⟩,
  ⟨.only 2042, .august, .on 10, .wall 3 0, -60⟩,
  ⟨.only 2042, .september, .on 21, .wall 2 0, 0⟩,
  ⟨.only 2043, .august, .on 2, .wall 3 0, -60⟩,
  ⟨.only 2043, .september, .on 13, .wall 2 0, 0⟩,
  ⟨.only 2044, .july, .on 24, .wall 3 0, -60⟩,
  ⟨.only 2044, .august, .on 28, .wall 2 0, 0⟩,
  ⟨.only 2045, .july, .on 9, .wall 3 0, -60⟩,
  ⟨.only 2045, .august, .on 20, .wall 2 0, 0⟩,
  ⟨.only 2046, .july, .on 1, .wall 3 0, -60⟩,
  ⟨.only 2046, .august, .on 5, .wall 2 0, 0⟩,
  ⟨.only 2047, .june, .on 23, .wall 3 0, -60⟩,
  ⟨.only 2047, .july, .on 28, .wall 2 0, 0⟩,
  ⟨.only 2048, .june, .on 7, .wall 3 0, -60⟩,
  ⟨.only 2048, .july, .on 19, .wall 2 0, 0⟩,
  ⟨.only 2049, .may, .on 30, .wall 3 0, -60⟩,
  ⟨.only 2049, .july, .on 4, .wall 2 0, 0⟩,
  ⟨.only 2050, .may, .on 15, .wall 3 0, -60⟩,
  ⟨.only 2050, .june, .on 26, .wall 2 0, 0⟩,
  ⟨.only 2051, .may, .on 7, .wall 3 0, -60⟩,
  ⟨.only 2051, .june, .on 18, .wall 2 0, 0⟩,
  ⟨.only 2052, .april, .on 28, .wall 3 0, -60⟩,
  ⟨.only 2052, .june, .on 2, .wall 2 0, 0⟩,
  ⟨.only 2053, .april, .on 13, .wall 3 0, -60⟩,
  ⟨.only 2053, .may, .on 25, .wall 2 0, 0⟩,
  ⟨.only 2054, .april, .on 5, .wall 3 0, -60⟩,
  ⟨.only 2054, .may, .on 10, .wall 2 0, 0⟩,
  ⟨.only 2055, .march, .on 28, .wall 3 0, -60⟩,
  ⟨.only 2055, .may, .on 2, .wall 2 0, 0⟩,
  ⟨.only 2056, .march, .on 12, .wall 3 0, -60⟩,
  ⟨.only 2056, .april, .on 23, .wall 2 0, 0⟩,
  ⟨.only 2057, .march, .on 4, .wall 3 0, -60⟩,
  ⟨.only 2057, .april, .on 8, .wall 2 0, 0⟩,
  ⟨.only 2058, .february, .on 17, .wall 3 0, -60⟩,
  ⟨.only 2058, .march, .on 31, .wall 2 0, 0⟩,
  ⟨.only 2059, .february, .on 9, .wall 3 0, -60⟩,
  ⟨.only 2059, .march, .on 23, .wall 2 0, 0⟩,
  ⟨.only 2060, .february, .on 1, .wall 3 0, -60⟩,
  ⟨.only 2060, .march, .on 7, .wall 2 0, 0⟩,
  ⟨.only 2061, .january, .on 16, .wall 3 0, -60⟩,
  ⟨.only 2061, .february, .on 27, .wall 2 0, 0⟩,
  ⟨.only 2062, .january, .on 8, .wall 3 0, -60⟩,
  ⟨.only 2062, .february, .on 12, .wall 2 0, 0⟩,
  ⟨.only 2062, .december, .on 31, .wall 3 0, -60⟩,
  ⟨.only 2063, .february, .on 4, .wall 2 0, 0⟩,
  ⟨.only 2063, .december, .on 16, .wall 3 0, -60⟩,
  ⟨.only 2064, .january, .on 27, .wall 2 0, 0⟩,
  ⟨.only 2064, .december, .on 7, .wall 3 0, -60⟩,
  ⟨.only 2065, .january, .on 11, .wall 2 0, 0⟩,
  ⟨.only 2065, .november, .on 22, .wall 3 0, -60⟩,
  ⟨.only 2066, .january, .on 3, .wall 2 0, 0⟩,
  ⟨.only 2066, .november, .on 14, .wall 3 0, -60⟩,
  ⟨.only 2066, .december, .on 26, .wall 2 0, 0⟩,
  ⟨.only 2067, .november, .on 6, .wall 3 0, -60⟩,
  ⟨.only 2067, .december, .on 11, .wall 2 0, 0⟩,
  ⟨.only 2068, .october, .on 21, .wall 3 0, -60⟩,
  ⟨.only 2068, .december, .on 2, .wall 2 0, 0⟩,
  ⟨.only 2069, .october, .on 13, .wall 3 0, -60⟩,
  ⟨.only 2069, .november, .on 17, .wall 2 0, 0⟩,
  ⟨.only 2070, .october, .on 5, .wall 3 0, -60⟩,
  ⟨.only 2070, .november, .on 9, .wall 2 0, 0⟩,
  ⟨.only 2071, .september, .on 20, .wall 3 0, -60⟩,
  ⟨.only 2071, .november, .on 1, .wall 2 0, 0⟩,
  ⟨.only 2072, .september, .on 11, .wall 3 0, -60⟩,
  ⟨.only 2072, .october, .on 16, .wall 2 0, 0⟩,
  ⟨.only 2073, .august, .on 27, .wall 3 0, -60⟩,
  ⟨.only 2073, .october, .on 8, .wall 2 0, 0⟩,
  ⟨.only 2074, .august, .on 19, .wall 3 0, -60⟩,
  ⟨.only 2074, .september, .on 30, .wall 2 0, 0⟩,
  ⟨.only 2075, .august, .on 11, .wall 3 0, -60⟩,
  ⟨.only 2075, .september, .on 15, .wall 2 0, 0⟩,
  ⟨.only 2076, .july, .on 26, .wall 3 0, -60⟩,
  ⟨.only 2076, .september, .on 6, .wall 2 0, 0⟩,
  ⟨.only 2077, .july, .on 18, .wall 3 0, -60⟩,
  ⟨.only 2077, .august, .on 22, .wall 2 0, 0⟩,
  ⟨.only 2078, .july, .on 10, .wall 3 0, -60⟩,
  ⟨.only 2078, .august, .on 14, .wall 2 0, 0⟩,
  ⟨.only 2079, .june, .on 25, .wall 3 0, -60⟩,
  ⟨.only 2079, .august, .on 6, .wall 2 0, 0⟩,
  ⟨.only 2080, .june, .on 16, .wall 3 0, -60⟩,
  ⟨.only 2080, .july, .on 21, .wall 2 0, 0⟩,
  ⟨.only 2081, .june, .on 1, .wall 3 0, -60⟩,
  ⟨.only 2081, .july, .on 13, .wall 2 0, 0⟩,
  ⟨.only 2082, .may, .on 24, .wall 3 0, -60⟩,
  ⟨.only 2082, .june, .on 28, .wall 2 0, 0⟩,
  ⟨.only 2083, .may, .on 16, .wall 3 0, -60⟩,
  ⟨.only 2083, .june, .on 20, .wall 2 0, 0⟩,
  ⟨.only 2084, .april, .on 30, .wall 3 0, -60⟩,
  ⟨.only 2084, .june, .on 11, .wall 2 0, 0⟩,
  ⟨.only 2085, .april, .on 22, .wall 3 0, -60⟩,
  ⟨.only 2085, .may, .on 27, .wall 2 0, 0⟩,
  ⟨.only 2086, .april, .on 14, .wall 3 0, -60⟩,
  ⟨.only 2086, .may, .on 19, .wall 2 0, 0⟩,
  ⟨.only 2087, .march, .on 30, .wall 3 0, -60⟩,
  ⟨.only 2087, .may, .on 11, .wall 2 0, 0⟩]

/-- Summer time in Namibia. -/
def namibia : List YearlyChange := [
  ⟨.only 1994, .march, .on 21, .wall 0 0, -60⟩,
  ⟨.between 1994 2017, .september, .onOrAfter .sunday 1, .wall 2 0, 0⟩,
  ⟨.between 1995 2017, .april, .onOrAfter .sunday 1, .wall 2 0, -60⟩]

/-- Summer time in South Africa. -/
def southAfrica : List YearlyChange := [
  ⟨.between 1942 1943, .september, .onOrAfter .sunday 15, .wall 2 0, 60⟩,
  ⟨.between 1943 1944, .march, .onOrAfter .sunday 15, .wall 2 0, 0⟩]

/-- Summer time in the Spanish towns in Africa. -/
def spanishAfrica : List YearlyChange := [
  ⟨.only 1967, .june, .on 3, .wall 12 0, 60⟩,
  ⟨.only 1967, .october, .on 1, .wall 0 0, 0⟩,
  ⟨.only 1974, .june, .on 24, .wall 0 0, 60⟩,
  ⟨.only 1974, .september, .on 1, .wall 0 0, 0⟩,
  ⟨.between 1976 1977, .may, .on 1, .wall 0 0, 60⟩,
  ⟨.only 1976, .august, .on 1, .wall 0 0, 0⟩,
  ⟨.only 1977, .september, .on 28, .wall 0 0, 0⟩,
  ⟨.only 1978, .june, .on 1, .wall 0 0, 60⟩,
  ⟨.only 1978, .august, .on 4, .wall 0 0, 0⟩]

/-- Summer time in Sudan. -/
def sudan : List YearlyChange := [
  ⟨.only 1970, .may, .on 1, .wall 0 0, 60⟩,
  ⟨.between 1970 1985, .october, .on 15, .wall 0 0, 0⟩,
  ⟨.only 1971, .april, .on 30, .wall 0 0, 60⟩,
  ⟨.between 1972 1985, .april, .last .sunday, .wall 0 0, 60⟩]

/-- Summer time in Tunisia. -/
def tunisia : List YearlyChange := [
  ⟨.only 1939, .april, .on 15, .standard 23 0, 60⟩,
  ⟨.only 1939, .november, .on 18, .standard 23 0, 0⟩,
  ⟨.only 1940, .february, .on 25, .standard 23 0, 60⟩,
  ⟨.only 1941, .october, .on 6, .wall 0 0, 0⟩,
  ⟨.only 1942, .march, .on 9, .wall 0 0, 60⟩,
  ⟨.only 1942, .november, .on 2, .wall 3 0, 0⟩,
  ⟨.only 1943, .march, .on 29, .wall 2 0, 60⟩,
  ⟨.only 1943, .april, .on 17, .wall 2 0, 0⟩,
  ⟨.only 1943, .april, .on 25, .wall 2 0, 60⟩,
  ⟨.only 1943, .october, .on 4, .wall 2 0, 0⟩,
  ⟨.between 1944 1945, .april, .onOrAfter .monday 1, .wall 2 0, 60⟩,
  ⟨.only 1944, .october, .on 8, .wall 0 0, 0⟩,
  ⟨.only 1945, .september, .on 16, .wall 0 0, 0⟩,
  ⟨.only 1977, .april, .on 30, .standard 0 0, 60⟩,
  ⟨.only 1977, .september, .on 24, .standard 0 0, 0⟩,
  ⟨.only 1978, .may, .on 1, .standard 0 0, 60⟩,
  ⟨.only 1978, .october, .on 1, .standard 0 0, 0⟩,
  ⟨.only 1988, .june, .on 1, .standard 0 0, 60⟩,
  ⟨.between 1988 1990, .september, .last .sunday, .standard 0 0, 0⟩,
  ⟨.only 1989, .march, .on 26, .standard 0 0, 60⟩,
  ⟨.only 1990, .may, .on 1, .standard 0 0, 60⟩,
  ⟨.only 2005, .may, .on 1, .standard 0 0, 60⟩,
  ⟨.only 2005, .september, .on 30, .standard 1 0, 0⟩,
  ⟨.between 2006 2008, .march, .last .sunday, .standard 2 0, 60⟩,
  ⟨.between 2006 2008, .october, .last .sunday, .standard 2 0, 0⟩]

end ElectionReadiness.TimeZone.Rules
