import ElectionReadiness.TimeZone.YearlyChange

/-!
# Summer time rules of Asia

The yearly changes of the clock that places in Asia have followed.  Every line is
one rule: its years, month, day, time of day, and the minutes the clock is then
put ahead of standard time.
-/

set_option autoImplicit false

namespace ElectionReadiness.TimeZone.Rules

/-- Summer time in Armenia. -/
def armenia : List YearlyChange := [
  ⟨.only 2011, .march, .last .sunday, .standard 2 0, 60⟩,
  ⟨.only 2011, .october, .last .sunday, .standard 2 0, 0⟩]

/-- Summer time in Azerbaijan. -/
def azerbaijan : List YearlyChange := [
  ⟨.between 1997 2015, .march, .last .sunday, .wall 4 0, 60⟩,
  ⟨.between 1997 2015, .october, .last .sunday, .wall 5 0, 0⟩]

/-- Summer time in Bangladesh. -/
def bangladesh : List YearlyChange := [
  ⟨.only 2009, .june, .on 19, .wall 23 0, 60⟩,
  ⟨.only 2009, .december, .on 31, .wall 24 0, 0⟩]

/-- Summer time in North Borneo. -/
def borneo : List YearlyChange := [
  ⟨.between 1935 1941, .september, .on 14, .wall 0 0, 20⟩,
  ⟨.between 1935 1941, .december, .on 14, .wall 0 0, 0⟩]

/-- Summer time in China. -/
def china : List YearlyChange := [
  ⟨.only 1986, .may, .on 4, .wall 2 0, 60⟩,
  ⟨.between 1986 1991, .september, .onOrAfter .sunday 11, .wall 2 0, 0⟩,
  ⟨.between 1987 1991, .april, .onOrAfter .sunday 11, .wall 2 0, 60⟩]

/-- Summer time in Cyprus. -/
def cyprus : List YearlyChange := [
  ⟨.only 1975, .april, .on 13, .wall 0 0, 60⟩,
  ⟨.only 1975, .october, .on 12, .wall 0 0, 0⟩,
  ⟨.only 1976, .may, .on 15, .wall 0 0, 60⟩,
  ⟨.only 1976, .october, .on 11, .wall 0 0, 0⟩,
  ⟨.between 1977 1980, .april, .onOrAfter .sunday 1, .wall 0 0, 60⟩,
  ⟨.only 1977, .september, .on 25, .wall 0 0, 0⟩,
  ⟨.only 1978, .october, .on 2, .wall 0 0, 0⟩,
  ⟨.between 1979 1997, .september, .last .sunday, .wall 0 0, 0⟩,
  ⟨.between 1981 1998, .march, .last .sunday, .wall 0 0, 60⟩]

/-- Summer time in Hong Kong. -/
def hongKong : List YearlyChange := [
  ⟨.only 1946, .april, .on 21, .wall 0 0, 60⟩,
  ⟨.only 1946, .december, .on 1, .standard 3 30, 0⟩,
  ⟨.only 1947, .april, .on 13, .standard 3 30, 60⟩,
  ⟨.only 1947, .november, .on 30, .standard 3 30, 0⟩,
  ⟨.only 1948, .may, .on 2, .standard 3 30, 60⟩,
  ⟨.between 1948 1952, .october, .onOrAfter .sunday 28, .standard 3 30, 0⟩,
  ⟨.between 1949 1953, .april, .onOrAfter .sunday 1, .wall 3 30, 60⟩,
  ⟨.between 1953 1964, .october, .onOrAfter .sunday 31, .wall 3 30, 0⟩,
  ⟨.between 1954 1964, .march, .onOrAfter .sunday 18, .wall 3 30, 60⟩,
  ⟨.between 1965 1976, .april, .onOrAfter .sunday 16, .wall 3 30, 60⟩,
  ⟨.between 1965 1976, .october, .onOrAfter .sunday 16, .wall 3 30, 0⟩,
  ⟨.only 1973, .december, .on 30, .wall 3 30, 60⟩,
  ⟨.only 1979, .may, .on 13, .wall 3 30, 60⟩,
  ⟨.only 1979, .october, .on 21, .wall 3 30, 0⟩]

/-- Summer time in Iran. -/
def iran : List YearlyChange := [
  ⟨.only 1910, .january, .on 1, .wall 0 0, 0⟩,
  ⟨.only 1977, .march, .on 21, .wall 23 0, 60⟩,
  ⟨.only 1977, .october, .on 20, .wall 24 0, 0⟩,
  ⟨.only 1978, .march, .on 24, .wall 24 0, 60⟩,
  ⟨.only 1978, .august, .on 5, .wall 1 0, 0⟩,
  ⟨.only 1979, .may, .on 26, .wall 24 0, 60⟩,
  ⟨.only 1979, .september, .on 18, .wall 24 0, 0⟩,
  ⟨.only 1980, .march, .on 20, .wall 24 0, 60⟩,
  ⟨.only 1980, .september, .on 22, .wall 24 0, 0⟩,
  ⟨.only 1991, .may, .on 2, .wall 24 0, 60⟩,
  ⟨.between 1992 1995, .march, .on 21, .wall 24 0, 60⟩,
  ⟨.between 1991 1995, .september, .on 21, .wall 24 0, 0⟩,
  ⟨.only 1996, .march, .on 20, .wall 24 0, 60⟩,
  ⟨.only 1996, .september, .on 20, .wall 24 0, 0⟩,
  ⟨.between 1997 1999, .march, .on 21, .wall 24 0, 60⟩,
  ⟨.between 1997 1999, .september, .on 21, .wall 24 0, 0⟩,
  ⟨.only 2000, .march, .on 20, .wall 24 0, 60⟩,
  ⟨.only 2000, .september, .on 20, .wall 24 0, 0⟩,
  ⟨.between 2001 2003, .march, .on 21, .wall 24 0, 60⟩,
  ⟨.between 2001 2003, .september, .on 21, .wall 24 0, 0⟩,
  ⟨.only 2004, .march, .on 20, .wall 24 0, 60⟩,
  ⟨.only 2004, .september, .on 20, .wall 24 0, 0⟩,
  ⟨.only 2005, .march, .on 21, .wall 24 0, 60⟩,
  ⟨.only 2005, .september, .on 21, .wall 24 0, 0⟩,
  ⟨.only 2008, .march, .on 20, .wall 24 0, 60⟩,
  ⟨.only 2008, .september, .on 20, .wall 24 0, 0⟩,
  ⟨.between 2009 2011, .march, .on 21, .wall 24 0, 60⟩,
  ⟨.between 2009 2011, .september, .on 21, .wall 24 0, 0⟩,
  ⟨.only 2012, .march, .on 20, .wall 24 0, 60⟩,
  ⟨.only 2012, .september, .on 20, .wall 24 0, 0⟩,
  ⟨.between 2013 2015, .march, .on 21, .wall 24 0, 60⟩,
  ⟨.between 2013 2015, .september, .on 21, .wall 24 0, 0⟩,
  ⟨.only 2016, .march, .on 20, .wall 24 0, 60⟩,
  ⟨.only 2016, .september, .on 20, .wall 24 0, 0⟩,
  ⟨.between 2017 2019, .march, .on 21, .wall 24 0, 60⟩,
  ⟨.between 2017 2019, .september, .on 21, .wall 24 0, 0⟩,
  ⟨.only 2020, .march, .on 20, .wall 24 0, 60⟩,
  ⟨.only 2020, .september, .on 20, .wall 24 0, 0⟩,
  ⟨.between 2021 2022, .march, .on 21, .wall 24 0, 60⟩,
  ⟨.between 2021 2022, .september, .on 21, .wall 24 0, 0⟩]

/-- Summer time in Iraq. -/
def iraq : List YearlyChange := [
  ⟨.only 1982, .may, .on 1, .wall 0 0, 60⟩,
  ⟨.between 1982 1984, .october, .on 1, .wall 0 0, 0⟩,
  ⟨.only 1983, .march, .on 31, .wall 0 0, 60⟩,
  ⟨.between 1984 1985, .april, .on 1, .wall 0 0, 60⟩,
  ⟨.between 1985 1990, .september, .last .sunday, .standard 1 0, 0⟩,
  ⟨.between 1986 1990, .march, .last .sunday, .standard 1 0, 60⟩,
  ⟨.between 1991 2007, .april, .on 1, .standard 3 0, 60⟩,
  ⟨.between 1991 2007, .october, .on 1, .standard 3 0, 0⟩]

/-- Summer time in Israel. -/
def israel : List YearlyChange := [
  ⟨.only 1940, .may, .on 31, .universal 24 0, 60⟩,
  ⟨.only 1940, .september, .on 30, .universal 24 0, 0⟩,
  ⟨.only 1940, .november, .on 16, .universal 24 0, 60⟩,
  ⟨.between 1942 1946, .october, .on 31, .universal 24 0, 0⟩,
  ⟨.between 1943 1944, .march, .on 31, .universal 24 0, 60⟩,
  ⟨.between 1945 1946, .april, .on 15, .universal 24 0, 60⟩,
  ⟨.only 1948, .may, .on 22, .universal 24 0, 120⟩,
  ⟨.only 1948, .august, .on 31, .universal 24 0, 60⟩,
  ⟨.between 1948 1949, .october, .on 31, .universal 24 0, 0⟩,
  ⟨.only 1949, .april, .on 30, .universal 24 0, 60⟩,
  ⟨.only 1950, .april, .on 15, .universal 24 0, 60⟩,
  ⟨.only 1950, .september, .on 14, .universal 24 0, 0⟩,
  ⟨.only 1951, .march, .on 31, .universal 24 0, 60⟩,
  ⟨.only 1951, .november, .on 10, .universal 24 0, 0⟩,
  ⟨.only 1952, .april, .on 19, .universal 24 0, 60⟩,
  ⟨.only 1952, .october, .on 18, .universal 24 0, 0⟩,
  ⟨.only 1953, .april, .on 11, .universal 24 0, 60⟩,
  ⟨.only 1953, .september, .on 12, .universal 24 0, 0⟩,
  ⟨.only 1954, .june, .on 12, .universal 24 0, 60⟩,
  ⟨.only 1954, .september, .on 11, .universal 24 0, 0⟩,
  ⟨.only 1955, .june, .on 11, .universal 24 0, 60⟩,
  ⟨.only 1955, .september, .on 10, .universal 24 0, 0⟩,
  ⟨.only 1956, .june, .on 2, .universal 24 0, 60⟩,
  ⟨.only 1956, .september, .on 29, .universal 24 0, 0⟩,
  ⟨.only 1957, .april, .on 27, .universal 24 0, 60⟩,
  ⟨.only 1957, .september, .on 21, .universal 24 0, 0⟩,
  ⟨.only 1974, .july, .on 6, .wall 24 0, 60⟩,
  ⟨.only 1974, .october, .on 12, .wall 24 0, 0⟩,
  ⟨.only 1975, .april, .on 19, .wall 24 0, 60⟩,
  ⟨.only 1975, .august, .on 30, .wall 24 0, 0⟩,
  ⟨.only 1980, .august, .on 2, .standard 24 0, 60⟩,
  ⟨.only 1980, .september, .on 13, .standard 24 0, 0⟩,
  ⟨.only 1984, .may, .on 5, .standard 24 0, 60⟩,
  ⟨.only 1984, .august, .on 25, .standard 24 0, 0⟩,
  ⟨.only 1985, .april, .on 13, .wall 24 0, 60⟩,
  ⟨.only 1985, .august, .on 31, .wall 24 0, 0⟩,
  ⟨.only 1986, .may, .on 17, .wall 24 0, 60⟩,
  ⟨.only 1986, .september, .on 6, .wall 24 0, 0⟩,
  ⟨.only 1987, .april, .on 14, .wall 24 0, 60⟩,
  ⟨.only 1987, .september, .on 12, .wall 24 0, 0⟩,
  ⟨.only 1988, .april, .on 9, .wall 24 0, 60⟩,
  ⟨.only 1988, .september, .on 3, .wall 24 0, 0⟩,
  ⟨.only 1989, .april, .on 29, .wall 24 0, 60⟩,
  ⟨.only 1989, .september, .on 2, .wall 24 0, 0⟩,
  ⟨.only 1990, .march, .on 24, .wall 24 0, 60⟩,
  ⟨.only 1990, .august, .on 25, .wall 24 0, 0⟩,
  ⟨.only 1991, .march, .on 23, .wall 24 0, 60⟩,
  ⟨.only 1991, .august, .on 31, .wall 24 0, 0⟩,
  ⟨.only 1992, .march, .on 28, .wall 24 0, 60⟩,
  ⟨.only 1992, .september, .on 5, .wall 24 0, 0⟩,
  ⟨.only 1993, .april, .on 2, .wall 0 0, 60⟩,
  ⟨.only 1993, .september, .on 5, .wall 0 0, 0⟩,
  ⟨.only 1994, .april, .on 1, .wall 0 0, 60⟩,
  ⟨.only 1994, .august, .on 28, .wall 0 0, 0⟩,
  ⟨.only 1995, .march, .on 31, .wall 0 0, 60⟩,
  ⟨.only 1995, .september, .on 3, .wall 0 0, 0⟩,
  ⟨.only 1996, .march, .on 14, .wall 24 0, 60⟩,
  ⟨.only 1996, .september, .on 15, .wall 24 0, 0⟩,
  ⟨.only 1997, .march, .on 20, .wall 24 0, 60⟩,
  ⟨.only 1997, .september, .on 13, .wall 24 0, 0⟩,
  ⟨.only 1998, .march, .on 20, .wall 0 0, 60⟩,
  ⟨.only 1998, .september, .on 6, .wall 0 0, 0⟩,
  ⟨.only 1999, .april, .on 2, .wall 2 0, 60⟩,
  ⟨.only 1999, .september, .on 3, .wall 2 0, 0⟩,
  ⟨.only 2000, .april, .on 14, .wall 2 0, 60⟩,
  ⟨.only 2000, .october, .on 6, .wall 1 0, 0⟩,
  ⟨.only 2001, .april, .on 9, .wall 1 0, 60⟩,
  ⟨.only 2001, .september, .on 24, .wall 1 0, 0⟩,
  ⟨.only 2002, .march, .on 29, .wall 1 0, 60⟩,
  ⟨.only 2002, .october, .on 7, .wall 1 0, 0⟩,
  ⟨.only 2003, .march, .on 28, .wall 1 0, 60⟩,
  ⟨.only 2003, .october, .on 3, .wall 1 0, 0⟩,
  ⟨.only 2004, .april, .on 7, .wall 1 0, 60⟩,
  ⟨.only 2004, .september, .on 22, .wall 1 0, 0⟩,
  ⟨.between 2005 2012, .april, .onOrBefore .friday 1, .wall 2 0, 60⟩,
  ⟨.only 2005, .october, .on 9, .wall 2 0, 0⟩,
  ⟨.only 2006, .october, .on 1, .wall 2 0, 0⟩,
  ⟨.only 2007, .september, .on 16, .wall 2 0, 0⟩,
  ⟨.only 2008, .october, .on 5, .wall 2 0, 0⟩,
  ⟨.only 2009, .september, .on 27, .wall 2 0, 0⟩,
  ⟨.only 2010, .september, .on 12, .wall 2 0, 0⟩,
  ⟨.only 2011, .october, .on 2, .wall 2 0, 0⟩,
  ⟨.only 2012, .september, .on 23, .wall 2 0, 0⟩,
  ⟨.since 2013, .march, .onOrAfter .friday 23, .wall 2 0, 60⟩,
  ⟨.since 2013, .october, .last .sunday, .wall 2 0, 0⟩]

/-- Summer time in Japan. -/
def japan : List YearlyChange := [
  ⟨.only 1948, .may, .onOrAfter .saturday 1, .wall 24 0, 60⟩,
  ⟨.between 1948 1951, .september, .onOrAfter .sunday 9, .wall 1 0, 0⟩,
  ⟨.only 1949, .april, .onOrAfter .saturday 1, .wall 24 0, 60⟩,
  ⟨.between 1950 1951, .may, .onOrAfter .saturday 1, .wall 24 0, 60⟩]

/-- Summer time in Jordan. -/
def jordan : List YearlyChange := [
  ⟨.only 1973, .june, .on 6, .wall 0 0, 60⟩,
  ⟨.between 1973 1975, .october, .on 1, .wall 0 0, 0⟩,
  ⟨.between 1974 1977, .may, .on 1, .wall 0 0, 60⟩,
  ⟨.only 1976, .november, .on 1, .wall 0 0, 0⟩,
  ⟨.only 1977, .october, .on 1, .wall 0 0, 0⟩,
  ⟨.only 1978, .april, .on 30, .wall 0 0, 60⟩,
  ⟨.only 1978, .september, .on 30, .wall 0 0, 0⟩,
  ⟨.only 1985, .april, .on 1, .wall 0 0, 60⟩,
  ⟨.only 1985, .october, .on 1, .wall 0 0, 0⟩,
  ⟨.between 1986 1988, .april, .onOrAfter .friday 1, .wall 0 0, 60⟩,
  ⟨.between 1986 1990, .october, .onOrAfter .friday 1, .wall 0 0, 0⟩,
  ⟨.only 1989, .may, .on 8, .wall 0 0, 60⟩,
  ⟨.only 1990, .april, .on 27, .wall 0 0, 60⟩,
  ⟨.only 1991, .april, .on 17, .wall 0 0, 60⟩,
  ⟨.only 1991, .september, .on 27, .wall 0 0, 0⟩,
  ⟨.only 1992, .april, .on 10, .wall 0 0, 60⟩,
  ⟨.between 1992 1993, .october, .onOrAfter .friday 1, .wall 0 0, 0⟩,
  ⟨.between 1993 1998, .april, .onOrAfter .friday 1, .wall 0 0, 60⟩,
  ⟨.only 1994, .september, .onOrAfter .friday 15, .wall 0 0, 0⟩,
  ⟨.between 1995 1998, .september, .onOrAfter .friday 15, .standard 0 0, 0⟩,
  ⟨.only 1999, .july, .on 1, .standard 0 0, 60⟩,
  ⟨.between 1999 2002, .september, .last .friday, .standard 0 0, 0⟩,
  ⟨.between 2000 2001, .march, .last .thursday, .standard 0 0, 60⟩,
  ⟨.between 2002 2012, .march, .last .thursday, .wall 24 0, 60⟩,
  ⟨.only 2003, .october, .on 24, .standard 0 0, 0⟩,
  ⟨.only 2004, .october, .on 15, .standard 0 0, 0⟩,
  ⟨.only 2005, .september, .last .friday, .standard 0 0, 0⟩,
  ⟨.between 2006 2011, .october, .last .friday, .standard 0 0, 0⟩,
  ⟨.only 2013, .december, .on 20, .wall 0 0, 0⟩,
  ⟨.between 2014 2021, .march, .last .thursday, .wall 24 0, 60⟩,
  ⟨.between 2014 2022, .october, .last .friday, .standard 0 0, 0⟩,
  ⟨.only 2022, .february, .last .thursday, .wall 24 0, 60⟩]

/-- Summer time in Korea. -/
def korea : List YearlyChange := [
  ⟨.only 1948, .june, .on 1, .wall 0 0, 60⟩,
  ⟨.only 1948, .september, .on 12, .wall 24 0, 0⟩,
  ⟨.only 1949, .april, .on 3, .wall 0 0, 60⟩,
  ⟨.between 1949 1951, .september, .onOrAfter .saturday 7, .wall 24 0, 0⟩,
  ⟨.only 1950, .april, .on 1, .wall 0 0, 60⟩,
  ⟨.only 1951, .may, .on 6, .wall 0 0, 60⟩,
  ⟨.only 1955, .may, .on 5, .wall 0 0, 60⟩,
  ⟨.only 1955, .september, .on 8, .wall 24 0, 0⟩,
  ⟨.only 1956, .may, .on 20, .wall 0 0, 60⟩,
  ⟨.only 1956, .september, .on 29, .wall 24 0, 0⟩,
  ⟨.between 1957 1960, .may, .onOrAfter .sunday 1, .wall 0 0, 60⟩,
  ⟨.between 1957 1960, .september, .onOrAfter .saturday 17, .wall 24 0, 0⟩,
  ⟨.between 1987 1988, .may, .onOrAfter .sunday 8, .wall 2 0, 60⟩,
  ⟨.between 1987 1988, .october, .onOrAfter .sunday 8, .wall 3 0, 0⟩]

/-- Summer time in Kyrgyzstan. -/
def kyrgyzstan : List YearlyChange := [
  ⟨.between 1992 1996, .april, .onOrAfter .sunday 7, .standard 0 0, 60⟩,
  ⟨.between 1992 1996, .september, .last .sunday, .wall 0 0, 0⟩,
  ⟨.between 1997 2005, .march, .last .sunday, .wall 2 30, 60⟩,
  ⟨.between 1997 2004, .october, .last .sunday, .wall 2 30, 0⟩]

/-- Summer time in Lebanon. -/
def lebanon : List YearlyChange := [
  ⟨.only 1920, .march, .on 28, .wall 0 0, 60⟩,
  ⟨.only 1920, .october, .on 25, .wall 0 0, 0⟩,
  ⟨.only 1921, .april, .on 3, .wall 0 0, 60⟩,
  ⟨.only 1921, .october, .on 3, .wall 0 0, 0⟩,
  ⟨.only 1922, .march, .on 26, .wall 0 0, 60⟩,
  ⟨.only 1922, .october, .on 8, .wall 0 0, 0⟩,
  ⟨.only 1923, .april, .on 22, .wall 0 0, 60⟩,
  ⟨.only 1923, .september, .on 16, .wall 0 0, 0⟩,
  ⟨.between 1957 1961, .may, .on 1, .wall 0 0, 60⟩,
  ⟨.between 1957 1961, .october, .on 1, .wall 0 0, 0⟩,
  ⟨.only 1972, .june, .on 22, .wall 0 0, 60⟩,
  ⟨.between 1972 1977, .october, .on 1, .wall 0 0, 0⟩,
  ⟨.between 1973 1977, .may, .on 1, .wall 0 0, 60⟩,
  ⟨.only 1978, .april, .on 30, .wall 0 0, 60⟩,
  ⟨.only 1978, .september, .on 30, .wall 0 0, 0⟩,
  ⟨.between 1984 1987, .may, .on 1, .wall 0 0, 60⟩,
  ⟨.between 1984 1991, .october, .on 16, .wall 0 0, 0⟩,
  ⟨.only 1988, .june, .on 1, .wall 0 0, 60⟩,
  ⟨.only 1989, .may, .on 10, .wall 0 0, 60⟩,
  ⟨.between 1990 1992, .may, .on 1, .wall 0 0, 60⟩,
  ⟨.only 1992, .october, .on 4, .wall 0 0, 0⟩,
  ⟨.since 1993, .march, .last .sunday, .wall 0 0, 60⟩,
  ⟨.between 1993 1998, .september, .last .sunday, .wall 0 0, 0⟩,
  ⟨.since 1999, .october, .last .sunday, .wall 0 0, 0⟩]

/-- Summer time in Macau. -/
def macau : List YearlyChange := [
  ⟨.between 1942 1943, .april, .on 30, .wall 23 0, 60⟩,
  ⟨.only 1942, .november, .on 17, .wall 23 0, 0⟩,
  ⟨.only 1943, .september, .on 30, .wall 23 0, 0⟩,
  ⟨.only 1946, .april, .on 30, .standard 23 0, 60⟩,
  ⟨.only 1946, .september, .on 30, .standard 23 0, 0⟩,
  ⟨.only 1947, .april, .on 19, .standard 23 0, 60⟩,
  ⟨.only 1947, .november, .on 30, .standard 23 0, 0⟩,
  ⟨.only 1948, .may, .on 2, .standard 23 0, 60⟩,
  ⟨.only 1948, .october, .on 31, .standard 23 0, 0⟩,
  ⟨.between 1949 1950, .april, .onOrAfter .saturday 1, .standard 23 0, 60⟩,
  ⟨.between 1949 1950, .october, .last .saturday, .standard 23 0, 0⟩,
  ⟨.only 1951, .march, .on 31, .standard 23 0, 60⟩,
  ⟨.only 1951, .october, .on 28, .standard 23 0, 0⟩,
  ⟨.between 1952 1953, .april, .onOrAfter .saturday 1, .standard 23 0, 60⟩,
  ⟨.only 1952, .november, .on 1, .standard 23 0, 0⟩,
  ⟨.between 1953 1954, .october, .last .saturday, .standard 23 0, 0⟩,
  ⟨.between 1954 1956, .march, .onOrAfter .saturday 17, .standard 23 0, 60⟩,
  ⟨.only 1955, .november, .on 5, .standard 23 0, 0⟩,
  ⟨.between 1956 1964, .november, .onOrAfter .sunday 1, .wall 3 30, 0⟩,
  ⟨.between 1957 1964, .march, .onOrAfter .sunday 18, .wall 3 30, 60⟩,
  ⟨.between 1965 1973, .april, .onOrAfter .sunday 16, .wall 3 30, 60⟩,
  ⟨.between 1965 1966, .october, .onOrAfter .sunday 16, .wall 2 30, 0⟩,
  ⟨.between 1967 1976, .october, .onOrAfter .sunday 16, .wall 3 30, 0⟩,
  ⟨.only 1973, .december, .on 30, .wall 3 30, 60⟩,
  ⟨.between 1975 1976, .april, .onOrAfter .sunday 16, .wall 3 30, 60⟩,
  ⟨.only 1979, .may, .on 13, .wall 3 30, 60⟩,
  ⟨.only 1979, .october, .onOrAfter .sunday 16, .wall 3 30, 0⟩]

/-- Summer time in Mongolia. -/
def mongolia : List YearlyChange := [
  ⟨.between 1983 1984, .april, .on 1, .wall 0 0, 60⟩,
  ⟨.only 1983, .october, .on 1, .wall 0 0, 0⟩,
  ⟨.between 1985 1998, .march, .last .sunday, .wall 0 0, 60⟩,
  ⟨.between 1984 1998, .september, .last .sunday, .wall 0 0, 0⟩,
  ⟨.only 2001, .april, .last .saturday, .wall 2 0, 60⟩,
  ⟨.between 2001 2006, .september, .last .saturday, .wall 2 0, 0⟩,
  ⟨.between 2002 2006, .march, .last .saturday, .wall 2 0, 60⟩,
  ⟨.between 2015 2016, .march, .last .saturday, .wall 2 0, 60⟩,
  ⟨.between 2015 2016, .september, .last .saturday, .wall 0 0, 0⟩]

/-- Summer time in Pakistan. -/
def pakistan : List YearlyChange := [
  ⟨.only 2002, .april, .onOrAfter .sunday 2, .wall 0 0, 60⟩,
  ⟨.only 2002, .october, .onOrAfter .sunday 2, .wall 0 0, 0⟩,
  ⟨.only 2008, .june, .on 1, .wall 0 0, 60⟩,
  ⟨.between 2008 2009, .november, .on 1, .wall 0 0, 0⟩,
  ⟨.only 2009, .april, .on 15, .wall 0 0, 60⟩]

/-- Summer time in Palestine. -/
def palestine : List YearlyChange := [
  ⟨.between 1999 2005, .april, .onOrAfter .friday 15, .wall 0 0, 60⟩,
  ⟨.between 1999 2003, .october, .onOrAfter .friday 15, .wall 0 0, 0⟩,
  ⟨.only 2004, .october, .on 1, .wall 1 0, 0⟩,
  ⟨.only 2005, .october, .on 4, .wall 2 0, 0⟩,
  ⟨.between 2006 2007, .april, .on 1, .wall 0 0, 60⟩,
  ⟨.only 2006, .september, .on 22, .wall 0 0, 0⟩,
  ⟨.only 2007, .september, .on 13, .wall 2 0, 0⟩,
  ⟨.between 2008 2009, .march, .last .friday, .wall 0 0, 60⟩,
  ⟨.only 2008, .september, .on 1, .wall 0 0, 0⟩,
  ⟨.only 2009, .september, .on 4, .wall 1 0, 0⟩,
  ⟨.only 2010, .march, .on 26, .wall 0 0, 60⟩,
  ⟨.only 2010, .august, .on 11, .wall 0 0, 0⟩,
  ⟨.only 2011, .april, .on 1, .wall 0 1, 60⟩,
  ⟨.only 2011, .august, .on 1, .wall 0 0, 0⟩,
  ⟨.only 2011, .august, .on 30, .wall 0 0, 60⟩,
  ⟨.only 2011, .september, .on 30, .wall 0 0, 0⟩,
  ⟨.between 2012 2014, .march, .last .thursday, .wall 24 0, 60⟩,
  ⟨.only 2012, .september, .on 21, .wall 1 0, 0⟩,
  ⟨.only 2013, .september, .on 27, .wall 0 0, 0⟩,
  ⟨.only 2014, .october, .on 24, .wall 0 0, 0⟩,
  ⟨.only 2015, .march, .on 28, .wall 0 0, 60⟩,
  ⟨.only 2015, .october, .on 23, .wall 1 0, 0⟩,
  ⟨.between 2016 2018, .march, .onOrBefore .saturday 30, .wall 1 0, 60⟩,
  ⟨.between 2016 2018, .october, .onOrBefore .saturday 30, .wall 1 0, 0⟩,
  ⟨.only 2019, .march, .on 29, .wall 0 0, 60⟩,
  ⟨.only 2019, .october, .onOrBefore .saturday 30, .wall 0 0, 0⟩,
  ⟨.between 2020 2021, .march, .onOrBefore .saturday 30, .wall 0 0, 60⟩,
  ⟨.only 2020, .october, .on 24, .wall 1 0, 0⟩,
  ⟨.only 2021, .october, .on 29, .wall 1 0, 0⟩,
  ⟨.only 2022, .march, .on 27, .wall 0 0, 60⟩,
  ⟨.between 2022 2035, .october, .onOrBefore .saturday 30, .wall 2 0, 0⟩,
  ⟨.only 2023, .april, .on 29, .wall 2 0, 60⟩,
  ⟨.only 2024, .april, .on 20, .wall 2 0, 60⟩,
  ⟨.only 2025, .april, .on 12, .wall 2 0, 60⟩,
  ⟨.between 2026 2054, .march, .onOrBefore .saturday 30, .wall 2 0, 60⟩,
  ⟨.only 2036, .october, .on 18, .wall 2 0, 0⟩,
  ⟨.only 2037, .october, .on 10, .wall 2 0, 0⟩,
  ⟨.only 2038, .september, .on 25, .wall 2 0, 0⟩,
  ⟨.only 2039, .september, .on 17, .wall 2 0, 0⟩,
  ⟨.only 2040, .september, .on 1, .wall 2 0, 0⟩,
  ⟨.only 2040, .october, .on 20, .wall 2 0, 60⟩,
  ⟨.between 2040 2067, .october, .onOrBefore .saturday 30, .wall 2 0, 0⟩,
  ⟨.only 2041, .august, .on 24, .wall 2 0, 0⟩,
  ⟨.only 2041, .october, .on 5, .wall 2 0, 60⟩,
  ⟨.only 2042, .august, .on 16, .wall 2 0, 0⟩,
  ⟨.only 2042, .september, .on 27, .wall 2 0, 60⟩,
  ⟨.only 2043, .august, .on 1, .wall 2 0, 0⟩,
  ⟨.only 2043, .september, .on 19, .wall 2 0, 60⟩,
  ⟨.only 2044, .july, .on 23, .wall 2 0, 0⟩,
  ⟨.only 2044, .september, .on 3, .wall 2 0, 60⟩,
  ⟨.only 2045, .july, .on 15, .wall 2 0, 0⟩,
  ⟨.only 2045, .august, .on 26, .wall 2 0, 60⟩,
  ⟨.only 2046, .june, .on 30, .wall 2 0, 0⟩,
  ⟨.only 2046, .august, .on 18, .wall 2 0, 60⟩,
  ⟨.only 2047, .june, .on 22, .wall 2 0, 0⟩,
  ⟨.only 2047, .august, .on 3, .wall 2 0, 60⟩,
  ⟨.only 2048, .june, .on 6, .wall 2 0, 0⟩,
  ⟨.only 2048, .july, .on 25, .wall 2 0, 60⟩,
  ⟨.only 2049, .may, .on 29, .wall 2 0, 0⟩,
  ⟨.only 2049, .july, .on 10, .wall 2 0, 60⟩,
  ⟨.only 2050, .may, .on 21, .wall 2 0, 0⟩,
  ⟨.only 2050, .july, .on 2, .wall 2 0, 60⟩,
  ⟨.only 2051, .may, .on 6, .wall 2 0, 0⟩,
  ⟨.only 2051, .june, .on 24, .wall 2 0, 60⟩,
  ⟨.only 2052, .april, .on 27, .wall 2 0, 0⟩,
  ⟨.only 2052, .june, .on 8, .wall 2 0, 60⟩,
  ⟨.only 2053, .april, .on 12, .wall 2 0, 0⟩,
  ⟨.only 2053, .may, .on 31, .wall 2 0, 60⟩,
  ⟨.only 2054, .april, .on 4, .wall 2 0, 0⟩,
  ⟨.only 2054, .may, .on 23, .wall 2 0, 60⟩,
  ⟨.only 2055, .may, .on 8, .wall 2 0, 60⟩,
  ⟨.only 2056, .april, .on 29, .wall 2 0, 60⟩,
  ⟨.only 2057, .april, .on 14, .wall 2 0, 60⟩,
  ⟨.only 2058, .april, .on 6, .wall 2 0, 60⟩,
  ⟨.since 2059, .march, .onOrBefore .saturday 30, .wall 2 0, 60⟩,
  ⟨.only 2068, .october, .on 20, .wall 2 0, 0⟩,
  ⟨.only 2069, .october, .on 12, .wall 2 0, 0⟩,
  ⟨.only 2070, .october, .on 4, .wall 2 0, 0⟩,
  ⟨.only 2071, .september, .on 19, .wall 2 0, 0⟩,
  ⟨.only 2072, .september, .on 10, .wall 2 0, 0⟩,
  ⟨.only 2072, .october, .on 22, .wall 2 0, 60⟩,
  ⟨.since 2072, .october, .onOrBefore .saturday 30, .wall 2 0, 0⟩,
  ⟨.only 2073, .september, .on 2, .wall 2 0, 0⟩,
  ⟨.only 2073, .october, .on 14, .wall 2 0, 60⟩,
  ⟨.only 2074, .august, .on 18, .wall 2 0, 0⟩,
  ⟨.only 2074, .october, .on 6, .wall 2 0, 60⟩,
  ⟨.only 2075, .august, .on 10, .wall 2 0, 0⟩,
  ⟨.only 2075, .september, .on 21, .wall 2 0, 60⟩,
  ⟨.only 2076, .july, .on 25, .wall 2 0, 0⟩,
  ⟨.only 2076, .september, .on 12, .wall 2 0, 60⟩,
  ⟨.only 2077, .july, .on 17, .wall 2 0, 0⟩,
  ⟨.only 2077, .september, .on 4, .wall 2 0, 60⟩,
  ⟨.only 2078, .july, .on 9, .wall 2 0, 0⟩,
  ⟨.only 2078, .august, .on 20, .wall 2 0, 60⟩,
  ⟨.only 2079, .june, .on 24, .wall 2 0, 0⟩,
  ⟨.only 2079, .august, .on 12, .wall 2 0, 60⟩,
  ⟨.only 2080, .june, .on 15, .wall 2 0, 0⟩,
  ⟨.only 2080, .july, .on 27, .wall 2 0, 60⟩,
  ⟨.only 2081, .june, .on 7, .wall 2 0, 0⟩,
  ⟨.only 2081, .july, .on 19, .wall 2 0, 60⟩,
  ⟨.only 2082, .may, .on 23, .wall 2 0, 0⟩,
  ⟨.only 2082, .july, .on 11, .wall 2 0, 60⟩,
  ⟨.only 2083, .may, .on 15, .wall 2 0, 0⟩,
  ⟨.only 2083, .june, .on 26, .wall 2 0, 60⟩,
  ⟨.only 2084, .april, .on 29, .wall 2 0, 0⟩,
  ⟨.only 2084, .june, .on 17, .wall 2 0, 60⟩,
  ⟨.only 2085, .april, .on 21, .wall 2 0, 0⟩,
  ⟨.only 2085, .june, .on 9, .wall 2 0, 60⟩,
  ⟨.only 2086, .april, .on 13, .wall 2 0, 0⟩,
  ⟨.only 2086, .may, .on 25, .wall 2 0, 60⟩]

/-- Summer time in the Philippines. -/
def philippines : List YearlyChange := [
  ⟨.only 1936, .november, .on 1, .wall 0 0, 60⟩,
  ⟨.only 1937, .february, .on 1, .wall 0 0, 0⟩,
  ⟨.only 1954, .april, .on 12, .wall 0 0, 60⟩,
  ⟨.only 1954, .july, .on 1, .wall 0 0, 0⟩,
  ⟨.only 1978, .march, .on 22, .wall 0 0, 60⟩,
  ⟨.only 1978, .september, .on 21, .wall 0 0, 0⟩]

/-- Summer time in Shanghai. -/
def shanghai : List YearlyChange := [
  ⟨.only 1919, .april, .on 12, .wall 24 0, 60⟩,
  ⟨.only 1919, .september, .on 30, .wall 24 0, 0⟩,
  ⟨.only 1940, .june, .on 1, .wall 0 0, 60⟩,
  ⟨.only 1940, .october, .on 12, .wall 24 0, 0⟩,
  ⟨.only 1941, .march, .on 15, .wall 0 0, 60⟩,
  ⟨.only 1941, .november, .on 1, .wall 24 0, 0⟩,
  ⟨.only 1942, .january, .on 31, .wall 0 0, 60⟩,
  ⟨.only 1945, .september, .on 1, .wall 24 0, 0⟩,
  ⟨.only 1946, .may, .on 15, .wall 0 0, 60⟩,
  ⟨.only 1946, .september, .on 30, .wall 24 0, 0⟩,
  ⟨.only 1947, .april, .on 15, .wall 0 0, 60⟩,
  ⟨.only 1947, .october, .on 31, .wall 24 0, 0⟩,
  ⟨.between 1948 1949, .may, .on 1, .wall 0 0, 60⟩,
  ⟨.between 1948 1949, .september, .on 30, .wall 24 0, 0⟩]

/-- Summer time in Syria. -/
def syria : List YearlyChange := [
  ⟨.between 1920 1923, .april, .onOrAfter .sunday 15, .wall 2 0, 60⟩,
  ⟨.between 1920 1923, .october, .onOrAfter .sunday 1, .wall 2 0, 0⟩,
  ⟨.only 1962, .april, .on 29, .wall 2 0, 60⟩,
  ⟨.only 1962, .october, .on 1, .wall 2 0, 0⟩,
  ⟨.between 1963 1965, .may, .on 1, .wall 2 0, 60⟩,
  ⟨.only 1963, .september, .on 30, .wall 2 0, 0⟩,
  ⟨.only 1964, .october, .on 1, .wall 2 0, 0⟩,
  ⟨.only 1965, .september, .on 30, .wall 2 0, 0⟩,
  ⟨.only 1966, .april, .on 24, .wall 2 0, 60⟩,
  ⟨.between 1966 1976, .october, .on 1, .wall 2 0, 0⟩,
  ⟨.between 1967 1978, .may, .on 1, .wall 2 0, 60⟩,
  ⟨.between 1977 1978, .september, .on 1, .wall 2 0, 0⟩,
  ⟨.between 1983 1984, .april, .on 9, .wall 2 0, 60⟩,
  ⟨.between 1983 1984, .october, .on 1, .wall 2 0, 0⟩,
  ⟨.only 1986, .february, .on 16, .wall 2 0, 60⟩,
  ⟨.only 1986, .october, .on 9, .wall 2 0, 0⟩,
  ⟨.only 1987, .march, .on 1, .wall 2 0, 60⟩,
  ⟨.between 1987 1988, .october, .on 31, .wall 2 0, 0⟩,
  ⟨.only 1988, .march, .on 15, .wall 2 0, 60⟩,
  ⟨.only 1989, .march, .on 31, .wall 2 0, 60⟩,
  ⟨.only 1989, .october, .on 1, .wall 2 0, 0⟩,
  ⟨.only 1990, .april, .on 1, .wall 2 0, 60⟩,
  ⟨.only 1990, .september, .on 30, .wall 2 0, 0⟩,
  ⟨.only 1991, .april, .on 1, .wall 0 0, 60⟩,
  ⟨.between 1991 1992, .october, .on 1, .wall 0 0, 0⟩,
  ⟨.only 1992, .april, .on 8, .wall 0 0, 60⟩,
  ⟨.only 1993, .march, .on 26, .wall 0 0, 60⟩,
  ⟨.only 1993, .september, .on 25, .wall 0 0, 0⟩,
  ⟨.between 1994 1996, .april, .on 1, .wall 0 0, 60⟩,
  ⟨.between 1994 2005, .october, .on 1, .wall 0 0, 0⟩,
  ⟨.between 1997 1998, .march, .last .monday, .wall 0 0, 60⟩,
  ⟨.between 1999 2006, .april, .on 1, .wall 0 0, 60⟩,
  ⟨.only 2006, .september, .on 22, .wall 0 0, 0⟩,
  ⟨.only 2007, .march, .last .friday, .wall 0 0, 60⟩,
  ⟨.only 2007, .november, .onOrAfter .friday 1, .wall 0 0, 0⟩,
  ⟨.only 2008, .april, .onOrAfter .friday 1, .wall 0 0, 60⟩,
  ⟨.only 2008, .november, .on 1, .wall 0 0, 0⟩,
  ⟨.only 2009, .march, .last .friday, .wall 0 0, 60⟩,
  ⟨.between 2010 2011, .april, .onOrAfter .friday 1, .wall 0 0, 60⟩,
  ⟨.between 2012 2022, .march, .last .friday, .wall 0 0, 60⟩,
  ⟨.between 2009 2022, .october, .last .friday, .wall 0 0, 0⟩]

/-- Summer time in Taiwan. -/
def taiwan : List YearlyChange := [
  ⟨.only 1946, .may, .on 15, .wall 0 0, 60⟩,
  ⟨.only 1946, .october, .on 1, .wall 0 0, 0⟩,
  ⟨.only 1947, .april, .on 15, .wall 0 0, 60⟩,
  ⟨.only 1947, .november, .on 1, .wall 0 0, 0⟩,
  ⟨.between 1948 1951, .may, .on 1, .wall 0 0, 60⟩,
  ⟨.between 1948 1951, .october, .on 1, .wall 0 0, 0⟩,
  ⟨.only 1952, .march, .on 1, .wall 0 0, 60⟩,
  ⟨.between 1952 1954, .november, .on 1, .wall 0 0, 0⟩,
  ⟨.between 1953 1959, .april, .on 1, .wall 0 0, 60⟩,
  ⟨.between 1955 1961, .october, .on 1, .wall 0 0, 0⟩,
  ⟨.between 1960 1961, .june, .on 1, .wall 0 0, 60⟩,
  ⟨.between 1974 1975, .april, .on 1, .wall 0 0, 60⟩,
  ⟨.between 1974 1975, .october, .on 1, .wall 0 0, 0⟩,
  ⟨.only 1979, .july, .on 1, .wall 0 0, 60⟩,
  ⟨.only 1979, .october, .on 1, .wall 0 0, 0⟩]

end ElectionReadiness.TimeZone.Rules
