import ElectionReadiness.TimeZone.YearlyChange

/-!
# Summer time rules of North America

The yearly changes of the clock that places in North America have followed.  Every line is
one rule: its years, month, day, time of day, and the minutes the clock is then
put ahead of standard time.
-/

set_option autoImplicit false

namespace ElectionReadiness.TimeZone.Rules

/-- Summer time in Barbados. -/
def barbados : List YearlyChange := [
  ⟨.only 1942, .april, .on 19, .universal 5 0, 60⟩,
  ⟨.only 1942, .august, .on 31, .universal 6 0, 0⟩,
  ⟨.only 1943, .may, .on 2, .universal 5 0, 60⟩,
  ⟨.only 1943, .september, .on 5, .universal 6 0, 0⟩,
  ⟨.only 1944, .april, .on 10, .universal 5 0, 30⟩,
  ⟨.only 1944, .september, .on 10, .universal 6 0, 0⟩,
  ⟨.only 1977, .june, .on 12, .wall 2 0, 60⟩,
  ⟨.between 1977 1978, .october, .onOrAfter .sunday 1, .wall 2 0, 0⟩,
  ⟨.between 1978 1980, .april, .onOrAfter .sunday 15, .wall 2 0, 60⟩,
  ⟨.only 1979, .september, .on 30, .wall 2 0, 0⟩,
  ⟨.only 1980, .september, .on 25, .wall 2 0, 0⟩]

/-- Summer time in Belize. -/
def belize : List YearlyChange := [
  ⟨.between 1918 1941, .october, .onOrAfter .saturday 1, .wall 24 0, 30⟩,
  ⟨.between 1919 1942, .february, .onOrAfter .saturday 8, .wall 24 0, 0⟩,
  ⟨.only 1942, .june, .on 27, .wall 24 0, 60⟩,
  ⟨.only 1945, .august, .on 14, .universal 23 0, 60⟩,
  ⟨.only 1945, .december, .on 15, .wall 24 0, 0⟩,
  ⟨.between 1947 1967, .october, .onOrAfter .saturday 1, .wall 24 0, 30⟩,
  ⟨.between 1948 1968, .february, .onOrAfter .saturday 8, .wall 24 0, 0⟩,
  ⟨.only 1973, .december, .on 5, .wall 0 0, 60⟩,
  ⟨.only 1974, .february, .on 9, .wall 0 0, 0⟩,
  ⟨.only 1982, .december, .on 18, .wall 0 0, 60⟩,
  ⟨.only 1983, .february, .on 12, .wall 0 0, 0⟩]

/-- Summer time in Bermuda. -/
def bermuda : List YearlyChange := [
  ⟨.only 1917, .april, .on 5, .wall 24 0, 60⟩,
  ⟨.only 1917, .september, .on 30, .wall 24 0, 0⟩,
  ⟨.only 1918, .april, .on 13, .wall 24 0, 60⟩,
  ⟨.only 1918, .september, .on 15, .wall 24 0, 0⟩,
  ⟨.only 1942, .january, .on 11, .wall 2 0, 60⟩,
  ⟨.only 1942, .october, .on 18, .wall 2 0, 0⟩,
  ⟨.only 1943, .march, .on 21, .wall 2 0, 60⟩,
  ⟨.only 1943, .october, .on 31, .wall 2 0, 0⟩,
  ⟨.between 1944 1945, .march, .onOrAfter .sunday 8, .wall 2 0, 60⟩,
  ⟨.between 1944 1945, .november, .onOrAfter .sunday 1, .wall 2 0, 0⟩,
  ⟨.only 1947, .may, .onOrAfter .sunday 15, .wall 2 0, 60⟩,
  ⟨.only 1947, .september, .onOrAfter .sunday 8, .wall 2 0, 0⟩,
  ⟨.between 1948 1952, .may, .onOrAfter .sunday 22, .wall 2 0, 60⟩,
  ⟨.between 1948 1952, .september, .onOrAfter .sunday 1, .wall 2 0, 0⟩,
  ⟨.only 1956, .may, .onOrAfter .sunday 22, .wall 2 0, 60⟩,
  ⟨.only 1956, .october, .last .sunday, .wall 2 0, 0⟩]

/-- Summer time in California. -/
def california : List YearlyChange := [
  ⟨.only 1948, .march, .on 14, .wall 2 1, 60⟩,
  ⟨.only 1949, .january, .on 1, .wall 2 0, 0⟩,
  ⟨.between 1950 1966, .april, .last .sunday, .wall 1 0, 60⟩,
  ⟨.between 1950 1961, .september, .last .sunday, .wall 2 0, 0⟩,
  ⟨.between 1962 1966, .october, .last .sunday, .wall 2 0, 0⟩]

/-- Summer time in Canada. -/
def canada : List YearlyChange := [
  ⟨.only 1918, .april, .on 14, .wall 2 0, 60⟩,
  ⟨.only 1918, .october, .on 27, .wall 2 0, 0⟩,
  ⟨.only 1942, .february, .on 9, .wall 2 0, 60⟩,
  ⟨.only 1945, .august, .on 14, .universal 23 0, 60⟩,
  ⟨.only 1945, .september, .on 30, .wall 2 0, 0⟩,
  ⟨.between 1974 1986, .april, .last .sunday, .wall 2 0, 60⟩,
  ⟨.between 1974 2006, .october, .last .sunday, .wall 2 0, 0⟩,
  ⟨.between 1987 2006, .april, .onOrAfter .sunday 1, .wall 2 0, 60⟩,
  ⟨.since 2007, .march, .onOrAfter .sunday 8, .wall 2 0, 60⟩,
  ⟨.since 2007, .november, .onOrAfter .sunday 1, .wall 2 0, 0⟩]

/-- Summer time in Chicago. -/
def chicago : List YearlyChange := [
  ⟨.only 1920, .june, .on 13, .wall 2 0, 60⟩,
  ⟨.between 1920 1921, .october, .last .sunday, .wall 2 0, 0⟩,
  ⟨.only 1921, .march, .last .sunday, .wall 2 0, 60⟩,
  ⟨.between 1922 1966, .april, .last .sunday, .wall 2 0, 60⟩,
  ⟨.between 1922 1954, .september, .last .sunday, .wall 2 0, 0⟩,
  ⟨.between 1955 1966, .october, .last .sunday, .wall 2 0, 0⟩]

/-- Summer time in Costa Rica. -/
def costaRica : List YearlyChange := [
  ⟨.between 1979 1980, .february, .last .sunday, .wall 0 0, 60⟩,
  ⟨.between 1979 1980, .june, .onOrAfter .sunday 1, .wall 0 0, 0⟩,
  ⟨.between 1991 1992, .january, .onOrAfter .saturday 15, .wall 0 0, 60⟩,
  ⟨.only 1991, .july, .on 1, .wall 0 0, 0⟩,
  ⟨.only 1992, .march, .on 15, .wall 0 0, 0⟩]

/-- Summer time in Cuba. -/
def cuba : List YearlyChange := [
  ⟨.only 1928, .june, .on 10, .wall 0 0, 60⟩,
  ⟨.only 1928, .october, .on 10, .wall 0 0, 0⟩,
  ⟨.between 1940 1942, .june, .onOrAfter .sunday 1, .wall 0 0, 60⟩,
  ⟨.between 1940 1942, .september, .onOrAfter .sunday 1, .wall 0 0, 0⟩,
  ⟨.between 1945 1946, .june, .onOrAfter .sunday 1, .wall 0 0, 60⟩,
  ⟨.between 1945 1946, .september, .onOrAfter .sunday 1, .wall 0 0, 0⟩,
  ⟨.only 1965, .june, .on 1, .wall 0 0, 60⟩,
  ⟨.only 1965, .september, .on 30, .wall 0 0, 0⟩,
  ⟨.only 1966, .may, .on 29, .wall 0 0, 60⟩,
  ⟨.only 1966, .october, .on 2, .wall 0 0, 0⟩,
  ⟨.only 1967, .april, .on 8, .wall 0 0, 60⟩,
  ⟨.between 1967 1968, .september, .onOrAfter .sunday 8, .wall 0 0, 0⟩,
  ⟨.only 1968, .april, .on 14, .wall 0 0, 60⟩,
  ⟨.between 1969 1977, .april, .last .sunday, .wall 0 0, 60⟩,
  ⟨.between 1969 1971, .october, .last .sunday, .wall 0 0, 0⟩,
  ⟨.between 1972 1974, .october, .on 8, .wall 0 0, 0⟩,
  ⟨.between 1975 1977, .october, .last .sunday, .wall 0 0, 0⟩,
  ⟨.only 1978, .may, .on 7, .wall 0 0, 60⟩,
  ⟨.between 1978 1990, .october, .onOrAfter .sunday 8, .wall 0 0, 0⟩,
  ⟨.between 1979 1980, .march, .onOrAfter .sunday 15, .wall 0 0, 60⟩,
  ⟨.between 1981 1985, .may, .onOrAfter .sunday 5, .wall 0 0, 60⟩,
  ⟨.between 1986 1989, .march, .onOrAfter .sunday 14, .wall 0 0, 60⟩,
  ⟨.between 1990 1997, .april, .onOrAfter .sunday 1, .wall 0 0, 60⟩,
  ⟨.between 1991 1995, .october, .onOrAfter .sunday 8, .standard 0 0, 0⟩,
  ⟨.only 1996, .october, .on 6, .standard 0 0, 0⟩,
  ⟨.only 1997, .october, .on 12, .standard 0 0, 0⟩,
  ⟨.between 1998 1999, .march, .last .sunday, .standard 0 0, 60⟩,
  ⟨.between 1998 2003, .october, .last .sunday, .standard 0 0, 0⟩,
  ⟨.between 2000 2003, .april, .onOrAfter .sunday 1, .standard 0 0, 60⟩,
  ⟨.only 2004, .march, .last .sunday, .standard 0 0, 60⟩,
  ⟨.between 2006 2010, .october, .last .sunday, .standard 0 0, 0⟩,
  ⟨.only 2007, .march, .onOrAfter .sunday 8, .standard 0 0, 60⟩,
  ⟨.only 2008, .march, .onOrAfter .sunday 15, .standard 0 0, 60⟩,
  ⟨.between 2009 2010, .march, .onOrAfter .sunday 8, .standard 0 0, 60⟩,
  ⟨.only 2011, .march, .onOrAfter .sunday 15, .standard 0 0, 60⟩,
  ⟨.only 2011, .november, .on 13, .standard 0 0, 0⟩,
  ⟨.only 2012, .april, .on 1, .standard 0 0, 60⟩,
  ⟨.since 2012, .november, .onOrAfter .sunday 1, .standard 0 0, 0⟩,
  ⟨.since 2013, .march, .onOrAfter .sunday 8, .standard 0 0, 60⟩]

/-- Summer time in Denver. -/
def denver : List YearlyChange := [
  ⟨.between 1920 1921, .march, .last .sunday, .wall 2 0, 60⟩,
  ⟨.only 1920, .october, .last .sunday, .wall 2 0, 0⟩,
  ⟨.only 1921, .may, .on 22, .wall 2 0, 0⟩,
  ⟨.between 1965 1966, .april, .last .sunday, .wall 2 0, 60⟩,
  ⟨.between 1965 1966, .october, .last .sunday, .wall 2 0, 0⟩]

/-- Summer time in Detroit. -/
def detroit : List YearlyChange := [
  ⟨.only 1948, .april, .last .sunday, .wall 2 0, 60⟩,
  ⟨.only 1948, .september, .last .sunday, .wall 2 0, 0⟩]

/-- Summer time in the Dominican Republic. -/
def dominicanRepublic : List YearlyChange := [
  ⟨.only 1966, .october, .on 30, .wall 0 0, 60⟩,
  ⟨.only 1967, .february, .on 28, .wall 0 0, 0⟩,
  ⟨.between 1969 1973, .october, .last .sunday, .wall 0 0, 30⟩,
  ⟨.only 1970, .february, .on 21, .wall 0 0, 0⟩,
  ⟨.only 1971, .january, .on 20, .wall 0 0, 0⟩,
  ⟨.between 1972 1974, .january, .on 21, .wall 0 0, 0⟩]

/-- Summer time in Edmonton. -/
def edmonton : List YearlyChange := [
  ⟨.between 1918 1919, .april, .onOrAfter .sunday 8, .wall 2 0, 60⟩,
  ⟨.only 1918, .october, .on 27, .wall 2 0, 0⟩,
  ⟨.only 1919, .may, .on 27, .wall 2 0, 0⟩,
  ⟨.between 1920 1923, .april, .last .sunday, .wall 2 0, 60⟩,
  ⟨.only 1920, .october, .last .sunday, .wall 2 0, 0⟩,
  ⟨.between 1921 1923, .september, .last .sunday, .wall 2 0, 0⟩,
  ⟨.only 1942, .february, .on 9, .wall 2 0, 60⟩,
  ⟨.only 1945, .august, .on 14, .universal 23 0, 60⟩,
  ⟨.only 1945, .september, .last .sunday, .wall 2 0, 0⟩,
  ⟨.only 1947, .april, .last .sunday, .wall 2 0, 60⟩,
  ⟨.only 1947, .september, .last .sunday, .wall 2 0, 0⟩,
  ⟨.between 1972 1986, .april, .last .sunday, .wall 2 0, 60⟩,
  ⟨.between 1972 2006, .october, .last .sunday, .wall 2 0, 0⟩]

/-- Summer time in El Salvador. -/
def elSalvador : List YearlyChange := [
  ⟨.between 1987 1988, .may, .onOrAfter .sunday 1, .wall 0 0, 60⟩,
  ⟨.between 1987 1988, .september, .last .sunday, .wall 0 0, 0⟩]

/-- Summer time in Guatemala. -/
def guatemala : List YearlyChange := [
  ⟨.only 1973, .november, .on 25, .wall 0 0, 60⟩,
  ⟨.only 1974, .february, .on 24, .wall 0 0, 0⟩,
  ⟨.only 1983, .may, .on 21, .wall 0 0, 60⟩,
  ⟨.only 1983, .september, .on 22, .wall 0 0, 0⟩,
  ⟨.only 1991, .march, .on 23, .wall 0 0, 60⟩,
  ⟨.only 1991, .september, .on 7, .wall 0 0, 0⟩,
  ⟨.only 2006, .april, .on 30, .wall 0 0, 60⟩,
  ⟨.only 2006, .october, .on 1, .wall 0 0, 0⟩]

/-- Summer time in Haiti. -/
def haiti : List YearlyChange := [
  ⟨.only 1983, .may, .on 8, .wall 0 0, 60⟩,
  ⟨.between 1984 1987, .april, .last .sunday, .wall 0 0, 60⟩,
  ⟨.between 1983 1987, .october, .last .sunday, .wall 0 0, 0⟩,
  ⟨.between 1988 1997, .april, .onOrAfter .sunday 1, .standard 1 0, 60⟩,
  ⟨.between 1988 1997, .october, .last .sunday, .standard 1 0, 0⟩,
  ⟨.between 2005 2006, .april, .onOrAfter .sunday 1, .wall 0 0, 60⟩,
  ⟨.between 2005 2006, .october, .last .sunday, .wall 0 0, 0⟩,
  ⟨.between 2012 2015, .march, .onOrAfter .sunday 8, .wall 2 0, 60⟩,
  ⟨.between 2012 2015, .november, .onOrAfter .sunday 1, .wall 2 0, 0⟩,
  ⟨.since 2017, .march, .onOrAfter .sunday 8, .wall 2 0, 60⟩,
  ⟨.since 2017, .november, .onOrAfter .sunday 1, .wall 2 0, 0⟩]

/-- Summer time in Halifax. -/
def halifax : List YearlyChange := [
  ⟨.only 1916, .april, .on 1, .wall 0 0, 60⟩,
  ⟨.only 1916, .october, .on 1, .wall 0 0, 0⟩,
  ⟨.only 1920, .may, .on 9, .wall 0 0, 60⟩,
  ⟨.only 1920, .august, .on 29, .wall 0 0, 0⟩,
  ⟨.only 1921, .may, .on 6, .wall 0 0, 60⟩,
  ⟨.between 1921 1922, .september, .on 5, .wall 0 0, 0⟩,
  ⟨.only 1922, .april, .on 30, .wall 0 0, 60⟩,
  ⟨.between 1923 1925, .may, .onOrAfter .sunday 1, .wall 0 0, 60⟩,
  ⟨.only 1923, .september, .on 4, .wall 0 0, 0⟩,
  ⟨.only 1924, .september, .on 15, .wall 0 0, 0⟩,
  ⟨.only 1925, .september, .on 28, .wall 0 0, 0⟩,
  ⟨.only 1926, .may, .on 16, .wall 0 0, 60⟩,
  ⟨.only 1926, .september, .on 13, .wall 0 0, 0⟩,
  ⟨.only 1927, .may, .on 1, .wall 0 0, 60⟩,
  ⟨.only 1927, .september, .on 26, .wall 0 0, 0⟩,
  ⟨.between 1928 1931, .may, .onOrAfter .sunday 8, .wall 0 0, 60⟩,
  ⟨.only 1928, .september, .on 9, .wall 0 0, 0⟩,
  ⟨.only 1929, .september, .on 3, .wall 0 0, 0⟩,
  ⟨.only 1930, .september, .on 15, .wall 0 0, 0⟩,
  ⟨.between 1931 1932, .september, .onOrAfter .monday 24, .wall 0 0, 0⟩,
  ⟨.only 1932, .may, .on 1, .wall 0 0, 60⟩,
  ⟨.only 1933, .april, .on 30, .wall 0 0, 60⟩,
  ⟨.only 1933, .october, .on 2, .wall 0 0, 0⟩,
  ⟨.only 1934, .may, .on 20, .wall 0 0, 60⟩,
  ⟨.only 1934, .september, .on 16, .wall 0 0, 0⟩,
  ⟨.only 1935, .june, .on 2, .wall 0 0, 60⟩,
  ⟨.only 1935, .september, .on 30, .wall 0 0, 0⟩,
  ⟨.only 1936, .june, .on 1, .wall 0 0, 60⟩,
  ⟨.only 1936, .september, .on 14, .wall 0 0, 0⟩,
  ⟨.between 1937 1938, .may, .onOrAfter .sunday 1, .wall 0 0, 60⟩,
  ⟨.between 1937 1941, .september, .onOrAfter .monday 24, .wall 0 0, 0⟩,
  ⟨.only 1939, .may, .on 28, .wall 0 0, 60⟩,
  ⟨.between 1940 1941, .may, .onOrAfter .sunday 1, .wall 0 0, 60⟩,
  ⟨.between 1946 1949, .april, .last .sunday, .wall 2 0, 60⟩,
  ⟨.between 1946 1949, .september, .last .sunday, .wall 2 0, 0⟩,
  ⟨.between 1951 1954, .april, .last .sunday, .wall 2 0, 60⟩,
  ⟨.between 1951 1954, .september, .last .sunday, .wall 2 0, 0⟩,
  ⟨.between 1956 1959, .april, .last .sunday, .wall 2 0, 60⟩,
  ⟨.between 1956 1959, .september, .last .sunday, .wall 2 0, 0⟩,
  ⟨.between 1962 1973, .april, .last .sunday, .wall 2 0, 60⟩,
  ⟨.between 1962 1973, .october, .last .sunday, .wall 2 0, 0⟩]

/-- Summer time in Honduras. -/
def honduras : List YearlyChange := [
  ⟨.between 1987 1988, .may, .onOrAfter .sunday 1, .wall 0 0, 60⟩,
  ⟨.between 1987 1988, .september, .last .sunday, .wall 0 0, 0⟩,
  ⟨.only 2006, .may, .onOrAfter .sunday 1, .wall 0 0, 60⟩,
  ⟨.only 2006, .august, .onOrAfter .monday 1, .wall 0 0, 0⟩]

/-- Summer time in Indianapolis. -/
def indianapolis : List YearlyChange := [
  ⟨.only 1941, .june, .on 22, .wall 2 0, 60⟩,
  ⟨.between 1941 1954, .september, .last .sunday, .wall 2 0, 0⟩,
  ⟨.between 1946 1954, .april, .last .sunday, .wall 2 0, 60⟩]

/-- Summer time in Louisville. -/
def louisville : List YearlyChange := [
  ⟨.only 1921, .may, .on 1, .wall 2 0, 60⟩,
  ⟨.only 1921, .september, .on 1, .wall 2 0, 0⟩,
  ⟨.only 1941, .april, .last .sunday, .wall 2 0, 60⟩,
  ⟨.only 1941, .september, .last .sunday, .wall 2 0, 0⟩,
  ⟨.only 1946, .april, .last .sunday, .wall 0 1, 60⟩,
  ⟨.only 1946, .june, .on 2, .wall 2 0, 0⟩,
  ⟨.between 1950 1961, .april, .last .sunday, .wall 2 0, 60⟩,
  ⟨.between 1950 1955, .september, .last .sunday, .wall 2 0, 0⟩,
  ⟨.between 1956 1961, .october, .last .sunday, .wall 2 0, 0⟩]

/-- Summer time in Marengo. -/
def marengo : List YearlyChange := [
  ⟨.only 1951, .april, .last .sunday, .wall 2 0, 60⟩,
  ⟨.only 1951, .september, .last .sunday, .wall 2 0, 0⟩,
  ⟨.between 1954 1960, .april, .last .sunday, .wall 2 0, 60⟩,
  ⟨.between 1954 1960, .september, .last .sunday, .wall 2 0, 0⟩]

/-- Summer time in Menominee. -/
def menominee : List YearlyChange := [
  ⟨.only 1946, .april, .last .sunday, .wall 2 0, 60⟩,
  ⟨.only 1946, .september, .last .sunday, .wall 2 0, 0⟩,
  ⟨.only 1966, .april, .last .sunday, .wall 2 0, 60⟩,
  ⟨.only 1966, .october, .last .sunday, .wall 2 0, 0⟩]

/-- Summer time in Mexico. -/
def mexico : List YearlyChange := [
  ⟨.only 1931, .may, .on 1, .wall 23 0, 60⟩,
  ⟨.only 1931, .october, .on 1, .wall 0 0, 0⟩,
  ⟨.only 1939, .february, .on 5, .wall 0 0, 60⟩,
  ⟨.only 1939, .june, .on 25, .wall 0 0, 0⟩,
  ⟨.only 1940, .december, .on 9, .wall 0 0, 60⟩,
  ⟨.only 1941, .april, .on 1, .wall 0 0, 0⟩,
  ⟨.only 1943, .december, .on 16, .wall 0 0, 60⟩,
  ⟨.only 1944, .may, .on 1, .wall 0 0, 0⟩,
  ⟨.only 1950, .february, .on 12, .wall 0 0, 60⟩,
  ⟨.only 1950, .july, .on 30, .wall 0 0, 0⟩,
  ⟨.between 1996 2000, .april, .onOrAfter .sunday 1, .wall 2 0, 60⟩,
  ⟨.between 1996 2000, .october, .last .sunday, .wall 2 0, 0⟩,
  ⟨.only 2001, .may, .onOrAfter .sunday 1, .wall 2 0, 60⟩,
  ⟨.only 2001, .september, .last .sunday, .wall 2 0, 0⟩,
  ⟨.between 2002 2022, .april, .onOrAfter .sunday 1, .wall 2 0, 60⟩,
  ⟨.between 2002 2022, .october, .last .sunday, .wall 2 0, 0⟩]

/-- Summer time in Moncton. -/
def moncton : List YearlyChange := [
  ⟨.between 1933 1935, .june, .onOrAfter .sunday 8, .wall 1 0, 60⟩,
  ⟨.between 1933 1935, .september, .onOrAfter .sunday 8, .wall 1 0, 0⟩,
  ⟨.between 1936 1938, .june, .onOrAfter .sunday 1, .wall 1 0, 60⟩,
  ⟨.between 1936 1938, .september, .onOrAfter .sunday 1, .wall 1 0, 0⟩,
  ⟨.only 1939, .may, .on 27, .wall 1 0, 60⟩,
  ⟨.between 1939 1941, .september, .onOrAfter .saturday 21, .wall 1 0, 0⟩,
  ⟨.only 1940, .may, .on 19, .wall 1 0, 60⟩,
  ⟨.only 1941, .may, .on 4, .wall 1 0, 60⟩,
  ⟨.between 1946 1972, .april, .last .sunday, .wall 2 0, 60⟩,
  ⟨.between 1946 1956, .september, .last .sunday, .wall 2 0, 0⟩,
  ⟨.between 1957 1972, .october, .last .sunday, .wall 2 0, 0⟩,
  ⟨.between 1993 2006, .april, .onOrAfter .sunday 1, .wall 0 1, 60⟩,
  ⟨.between 1993 2006, .october, .last .sunday, .wall 0 1, 0⟩]

/-- Summer time in New York. -/
def newYork : List YearlyChange := [
  ⟨.only 1920, .march, .last .sunday, .wall 2 0, 60⟩,
  ⟨.only 1920, .october, .last .sunday, .wall 2 0, 0⟩,
  ⟨.between 1921 1966, .april, .last .sunday, .wall 2 0, 60⟩,
  ⟨.between 1921 1954, .september, .last .sunday, .wall 2 0, 0⟩,
  ⟨.between 1955 1966, .october, .last .sunday, .wall 2 0, 0⟩]

/-- Summer time in Nicaragua. -/
def nicaragua : List YearlyChange := [
  ⟨.between 1979 1980, .march, .onOrAfter .sunday 16, .wall 0 0, 60⟩,
  ⟨.between 1979 1980, .june, .onOrAfter .monday 23, .wall 0 0, 0⟩,
  ⟨.only 2005, .april, .on 10, .wall 0 0, 60⟩,
  ⟨.only 2005, .october, .onOrAfter .sunday 1, .wall 0 0, 0⟩,
  ⟨.only 2006, .april, .on 30, .wall 2 0, 60⟩,
  ⟨.only 2006, .october, .onOrAfter .sunday 1, .wall 1 0, 0⟩]

/-- Summer time in the Northwest Territories. -/
def northwestTerritories : List YearlyChange := [
  ⟨.only 1918, .april, .on 14, .wall 2 0, 60⟩,
  ⟨.only 1918, .october, .on 27, .wall 2 0, 0⟩,
  ⟨.only 1919, .may, .on 25, .wall 2 0, 60⟩,
  ⟨.only 1919, .november, .on 1, .wall 0 0, 0⟩,
  ⟨.only 1942, .february, .on 9, .wall 2 0, 60⟩,
  ⟨.only 1945, .august, .on 14, .universal 23 0, 60⟩,
  ⟨.only 1945, .september, .on 30, .wall 2 0, 0⟩,
  ⟨.between 1972 1986, .april, .last .sunday, .wall 2 0, 60⟩,
  ⟨.between 1972 2006, .october, .last .sunday, .wall 2 0, 0⟩,
  ⟨.between 1987 2006, .april, .onOrAfter .sunday 1, .wall 2 0, 60⟩]

/-- Summer time in Perry County. -/
def perryCounty : List YearlyChange := [
  ⟨.only 1955, .may, .on 1, .wall 0 0, 60⟩,
  ⟨.between 1955 1960, .september, .last .sunday, .wall 2 0, 0⟩,
  ⟨.between 1956 1963, .april, .last .sunday, .wall 2 0, 60⟩,
  ⟨.between 1961 1963, .october, .last .sunday, .wall 2 0, 0⟩]

/-- Summer time in Pike County. -/
def pikeCounty : List YearlyChange := [
  ⟨.only 1955, .may, .on 1, .wall 0 0, 60⟩,
  ⟨.between 1955 1960, .september, .last .sunday, .wall 2 0, 0⟩,
  ⟨.between 1956 1964, .april, .last .sunday, .wall 2 0, 60⟩,
  ⟨.between 1961 1964, .october, .last .sunday, .wall 2 0, 0⟩]

/-- Summer time in Pulaski County. -/
def pulaskiCounty : List YearlyChange := [
  ⟨.between 1946 1960, .april, .last .sunday, .wall 2 0, 60⟩,
  ⟨.between 1946 1954, .september, .last .sunday, .wall 2 0, 0⟩,
  ⟨.between 1955 1956, .october, .last .sunday, .wall 2 0, 0⟩,
  ⟨.between 1957 1960, .september, .last .sunday, .wall 2 0, 0⟩]

/-- Summer time in Regina. -/
def regina : List YearlyChange := [
  ⟨.only 1918, .april, .on 14, .wall 2 0, 60⟩,
  ⟨.only 1918, .october, .on 27, .wall 2 0, 0⟩,
  ⟨.between 1930 1934, .may, .onOrAfter .sunday 1, .wall 0 0, 60⟩,
  ⟨.between 1930 1934, .october, .onOrAfter .sunday 1, .wall 0 0, 0⟩,
  ⟨.between 1937 1941, .april, .onOrAfter .sunday 8, .wall 0 0, 60⟩,
  ⟨.only 1937, .october, .onOrAfter .sunday 8, .wall 0 0, 0⟩,
  ⟨.only 1938, .october, .onOrAfter .sunday 1, .wall 0 0, 0⟩,
  ⟨.between 1939 1941, .october, .onOrAfter .sunday 8, .wall 0 0, 0⟩,
  ⟨.only 1942, .february, .on 9, .wall 2 0, 60⟩,
  ⟨.only 1945, .august, .on 14, .universal 23 0, 60⟩,
  ⟨.only 1945, .september, .last .sunday, .wall 2 0, 0⟩,
  ⟨.only 1946, .april, .onOrAfter .sunday 8, .wall 2 0, 60⟩,
  ⟨.only 1946, .october, .onOrAfter .sunday 8, .wall 2 0, 0⟩,
  ⟨.between 1947 1957, .april, .last .sunday, .wall 2 0, 60⟩,
  ⟨.between 1947 1957, .september, .last .sunday, .wall 2 0, 0⟩,
  ⟨.only 1959, .april, .last .sunday, .wall 2 0, 60⟩,
  ⟨.only 1959, .october, .last .sunday, .wall 2 0, 0⟩]

/-- Summer time in St. John and the rest of Newfoundland. -/
def stJohns : List YearlyChange := [
  ⟨.only 1917, .april, .on 8, .wall 2 0, 60⟩,
  ⟨.only 1917, .september, .on 17, .wall 2 0, 0⟩,
  ⟨.only 1919, .may, .on 5, .wall 23 0, 60⟩,
  ⟨.only 1919, .august, .on 12, .wall 23 0, 0⟩,
  ⟨.between 1920 1935, .may, .onOrAfter .sunday 1, .wall 23 0, 60⟩,
  ⟨.between 1920 1935, .october, .last .sunday, .wall 23 0, 0⟩,
  ⟨.between 1936 1941, .may, .onOrAfter .monday 9, .wall 0 0, 60⟩,
  ⟨.between 1936 1941, .october, .onOrAfter .monday 2, .wall 0 0, 0⟩,
  ⟨.between 1946 1950, .may, .onOrAfter .sunday 8, .wall 2 0, 60⟩,
  ⟨.between 1946 1950, .october, .onOrAfter .sunday 2, .wall 2 0, 0⟩,
  ⟨.between 1951 1986, .april, .last .sunday, .wall 2 0, 60⟩,
  ⟨.between 1951 1959, .september, .last .sunday, .wall 2 0, 0⟩,
  ⟨.between 1960 1986, .october, .last .sunday, .wall 2 0, 0⟩,
  ⟨.only 1987, .april, .onOrAfter .sunday 1, .wall 0 1, 60⟩,
  ⟨.between 1987 2006, .october, .last .sunday, .wall 0 1, 0⟩,
  ⟨.only 1988, .april, .onOrAfter .sunday 1, .wall 0 1, 120⟩,
  ⟨.between 1989 2006, .april, .onOrAfter .sunday 1, .wall 0 1, 60⟩,
  ⟨.between 2007 2011, .march, .onOrAfter .sunday 8, .wall 0 1, 60⟩,
  ⟨.between 2007 2010, .november, .onOrAfter .sunday 1, .wall 0 1, 0⟩]

/-- Summer time in Starke County. -/
def starkeCounty : List YearlyChange := [
  ⟨.between 1947 1961, .april, .last .sunday, .wall 2 0, 60⟩,
  ⟨.between 1947 1954, .september, .last .sunday, .wall 2 0, 0⟩,
  ⟨.between 1955 1956, .october, .last .sunday, .wall 2 0, 0⟩,
  ⟨.between 1957 1958, .september, .last .sunday, .wall 2 0, 0⟩,
  ⟨.between 1959 1961, .october, .last .sunday, .wall 2 0, 0⟩]

/-- Summer time in Swift Current. -/
def swiftCurrent : List YearlyChange := [
  ⟨.only 1957, .april, .last .sunday, .wall 2 0, 60⟩,
  ⟨.only 1957, .october, .last .sunday, .wall 2 0, 0⟩,
  ⟨.between 1959 1961, .april, .last .sunday, .wall 2 0, 60⟩,
  ⟨.only 1959, .october, .last .sunday, .wall 2 0, 0⟩,
  ⟨.between 1960 1961, .september, .last .sunday, .wall 2 0, 0⟩]

/-- Summer time in Thule. -/
def thule : List YearlyChange := [
  ⟨.between 1991 1992, .march, .last .sunday, .wall 2 0, 60⟩,
  ⟨.between 1991 1992, .september, .last .sunday, .wall 2 0, 0⟩,
  ⟨.between 1993 2006, .april, .onOrAfter .sunday 1, .wall 2 0, 60⟩,
  ⟨.between 1993 2006, .october, .last .sunday, .wall 2 0, 0⟩,
  ⟨.since 2007, .march, .onOrAfter .sunday 8, .wall 2 0, 60⟩,
  ⟨.since 2007, .november, .onOrAfter .sunday 1, .wall 2 0, 0⟩]

/-- Summer time in Toronto. -/
def toronto : List YearlyChange := [
  ⟨.only 1919, .march, .on 30, .wall 23 30, 60⟩,
  ⟨.only 1919, .october, .on 26, .wall 0 0, 0⟩,
  ⟨.only 1920, .may, .on 2, .wall 2 0, 60⟩,
  ⟨.only 1920, .september, .on 26, .wall 0 0, 0⟩,
  ⟨.only 1921, .may, .on 15, .wall 2 0, 60⟩,
  ⟨.only 1921, .september, .on 15, .wall 2 0, 0⟩,
  ⟨.between 1922 1923, .may, .onOrAfter .sunday 8, .wall 2 0, 60⟩,
  ⟨.between 1922 1926, .september, .onOrAfter .sunday 15, .wall 2 0, 0⟩,
  ⟨.between 1924 1927, .may, .onOrAfter .sunday 1, .wall 2 0, 60⟩,
  ⟨.between 1927 1937, .september, .onOrAfter .sunday 25, .wall 2 0, 0⟩,
  ⟨.between 1928 1937, .april, .onOrAfter .sunday 25, .wall 2 0, 60⟩,
  ⟨.between 1938 1940, .april, .last .sunday, .wall 2 0, 60⟩,
  ⟨.between 1938 1939, .september, .last .sunday, .wall 2 0, 0⟩,
  ⟨.between 1945 1948, .september, .last .sunday, .wall 2 0, 0⟩,
  ⟨.between 1946 1973, .april, .last .sunday, .wall 2 0, 60⟩,
  ⟨.between 1949 1950, .november, .last .sunday, .wall 2 0, 0⟩,
  ⟨.between 1951 1956, .september, .last .sunday, .wall 2 0, 0⟩,
  ⟨.between 1957 1973, .october, .last .sunday, .wall 2 0, 0⟩]

/-- Summer time in the United States. -/
def unitedStates : List YearlyChange := [
  ⟨.between 1918 1919, .march, .last .sunday, .wall 2 0, 60⟩,
  ⟨.between 1918 1919, .october, .last .sunday, .wall 2 0, 0⟩,
  ⟨.only 1942, .february, .on 9, .wall 2 0, 60⟩,
  ⟨.only 1945, .august, .on 14, .universal 23 0, 60⟩,
  ⟨.only 1945, .september, .on 30, .wall 2 0, 0⟩,
  ⟨.between 1967 2006, .october, .last .sunday, .wall 2 0, 0⟩,
  ⟨.between 1967 1973, .april, .last .sunday, .wall 2 0, 60⟩,
  ⟨.only 1974, .january, .on 6, .wall 2 0, 60⟩,
  ⟨.only 1975, .february, .last .sunday, .wall 2 0, 60⟩,
  ⟨.between 1976 1986, .april, .last .sunday, .wall 2 0, 60⟩,
  ⟨.between 1987 2006, .april, .onOrAfter .sunday 1, .wall 2 0, 60⟩,
  ⟨.since 2007, .march, .onOrAfter .sunday 8, .wall 2 0, 60⟩,
  ⟨.since 2007, .november, .onOrAfter .sunday 1, .wall 2 0, 0⟩]

/-- Summer time in Vancouver. -/
def vancouver : List YearlyChange := [
  ⟨.only 1918, .april, .on 14, .wall 2 0, 60⟩,
  ⟨.only 1918, .october, .on 27, .wall 2 0, 0⟩,
  ⟨.only 1942, .february, .on 9, .wall 2 0, 60⟩,
  ⟨.only 1945, .august, .on 14, .universal 23 0, 60⟩,
  ⟨.only 1945, .september, .on 30, .wall 2 0, 0⟩,
  ⟨.between 1946 1986, .april, .last .sunday, .wall 2 0, 60⟩,
  ⟨.only 1946, .september, .on 29, .wall 2 0, 0⟩,
  ⟨.between 1947 1961, .september, .last .sunday, .wall 2 0, 0⟩,
  ⟨.between 1962 2006, .october, .last .sunday, .wall 2 0, 0⟩]

/-- Summer time in Vincennes. -/
def vincennes : List YearlyChange := [
  ⟨.only 1946, .april, .last .sunday, .wall 2 0, 60⟩,
  ⟨.only 1946, .september, .last .sunday, .wall 2 0, 0⟩,
  ⟨.between 1953 1954, .april, .last .sunday, .wall 2 0, 60⟩,
  ⟨.between 1953 1959, .september, .last .sunday, .wall 2 0, 0⟩,
  ⟨.only 1955, .may, .on 1, .wall 0 0, 60⟩,
  ⟨.between 1956 1963, .april, .last .sunday, .wall 2 0, 60⟩,
  ⟨.only 1960, .october, .last .sunday, .wall 2 0, 0⟩,
  ⟨.only 1961, .september, .last .sunday, .wall 2 0, 0⟩,
  ⟨.between 1962 1963, .october, .last .sunday, .wall 2 0, 0⟩]

/-- Summer time in Winnipeg. -/
def winnipeg : List YearlyChange := [
  ⟨.only 1916, .april, .on 23, .wall 0 0, 60⟩,
  ⟨.only 1916, .september, .on 17, .wall 0 0, 0⟩,
  ⟨.only 1918, .april, .on 14, .wall 2 0, 60⟩,
  ⟨.only 1918, .october, .on 27, .wall 2 0, 0⟩,
  ⟨.only 1937, .may, .on 16, .wall 2 0, 60⟩,
  ⟨.only 1937, .september, .on 26, .wall 2 0, 0⟩,
  ⟨.only 1942, .february, .on 9, .wall 2 0, 60⟩,
  ⟨.only 1945, .august, .on 14, .universal 23 0, 60⟩,
  ⟨.only 1945, .september, .last .sunday, .wall 2 0, 0⟩,
  ⟨.only 1946, .may, .on 12, .wall 2 0, 60⟩,
  ⟨.only 1946, .october, .on 13, .wall 2 0, 0⟩,
  ⟨.between 1947 1949, .april, .last .sunday, .wall 2 0, 60⟩,
  ⟨.between 1947 1949, .september, .last .sunday, .wall 2 0, 0⟩,
  ⟨.only 1950, .may, .on 1, .wall 2 0, 60⟩,
  ⟨.only 1950, .september, .on 30, .wall 2 0, 0⟩,
  ⟨.between 1951 1960, .april, .last .sunday, .wall 2 0, 60⟩,
  ⟨.between 1951 1958, .september, .last .sunday, .wall 2 0, 0⟩,
  ⟨.only 1959, .october, .last .sunday, .wall 2 0, 0⟩,
  ⟨.only 1960, .september, .last .sunday, .wall 2 0, 0⟩,
  ⟨.only 1963, .april, .last .sunday, .wall 2 0, 60⟩,
  ⟨.only 1963, .september, .on 22, .wall 2 0, 0⟩,
  ⟨.between 1966 1986, .april, .last .sunday, .standard 2 0, 60⟩,
  ⟨.between 1966 2005, .october, .last .sunday, .standard 2 0, 0⟩,
  ⟨.between 1987 2005, .april, .onOrAfter .sunday 1, .standard 2 0, 60⟩]

/-- Summer time in Yukon. -/
def yukon : List YearlyChange := [
  ⟨.only 1965, .april, .last .sunday, .wall 0 0, 120⟩,
  ⟨.only 1965, .october, .last .sunday, .wall 2 0, 0⟩]

end ElectionReadiness.TimeZone.Rules
