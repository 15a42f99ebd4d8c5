import ElectionReadiness.TimeZone.YearlyChange

/-!
# Summer time rules of Europe

The yearly changes of the clock that places in Europe have followed.  Every line is
one rule: its years, month, day, time of day, and the minutes the clock is then
put ahead of standard time.
-/

set_option autoImplicit false

namespace ElectionReadiness.TimeZone.Rules

/-- Summer time in Albania. -/
def albania : List YearlyChange := [
  ⟨.only 1940, .june, .on 16, .wall 0 0, 60⟩,
  ⟨.only 1942, .november, .on 2, .wall 3 0, 0⟩,
  ⟨.only 1943, .march, .on 29, .wall 2 0, 60⟩,
  ⟨.only 1943, .april, .on 10, .wall 3 0, 0⟩,
  ⟨.only 1974, .may, .on 4, .wall 0 0, 60⟩,
  ⟨.only 1974, .october, .on 2, .wall 0 0, 0⟩,
  ⟨.only 1975, .may, .on 1, .wall 0 0, 60⟩,
  ⟨.only 1975, .october, .on 2, .wall 0 0, 0⟩,
  ⟨.only 1976, .may, .on 2, .wall 0 0, 60⟩,
  ⟨.only 1976, .october, .on 3, .wall 0 0, 0⟩,
  ⟨.only 1977, .may, .on 8, .wall 0 0, 60⟩,
  ⟨.only 1977, .october, .on 2, .wall 0 0, 0⟩,
  ⟨.only 1978, .may, .on 6, .wall 0 0, 60⟩,
  ⟨.only 1978, .october, .on 1, .wall 0 0, 0⟩,
  ⟨.only 1979, .may, .on 5, .wall 0 0, 60⟩,
  ⟨.only 1979, .september, .on 30, .wall 0 0, 0⟩,
  ⟨.only 1980, .may, .on 3, .wall 0 0, 60⟩,
  ⟨.only 1980, .october, .on 4, .wall 0 0, 0⟩,
  ⟨.only 1981, .april, .on 26, .wall 0 0, 60⟩,
  ⟨.only 1981, .september, .on 27, .wall 0 0, 0⟩,
  ⟨.only 1982, .may, .on 2, .wall 0 0, 60⟩,
  ⟨.only 1982, .october, .on 3, .wall 0 0, 0⟩,
  ⟨.only 1983, .april, .on 18, .wall 0 0, 60⟩,
  ⟨.only 1983, .october, .on 1, .wall 0 0, 0⟩,
  ⟨.only 1984, .april, .on 1, .wall 0 0, 60⟩]

/-- Summer time in Austria. -/
def austria : List YearlyChange := [
  ⟨.only 1920, .april, .on 5, .standard 2 0, 60⟩,
  ⟨.only 1920, .september, .on 13, .standard 2 0, 0⟩,
  ⟨.only 1946, .april, .on 14, .standard 2 0, 60⟩,
  ⟨.only 1946, .october, .on 7, .standard 2 0, 0⟩,
  ⟨.between 1947 1948, .october, .onOrAfter .sunday 1, .standard 2 0, 0⟩,
  ⟨.only 1947, .april, .on 6, .standard 2 0, 60⟩,
  ⟨.only 1948, .april, .on 18, .standard 2 0, 60⟩,
  ⟨.only 1980, .april, .on 6, .wall 0 0, 60⟩,
  ⟨.only 1980, .september, .on 28, .wall 0 0, 0⟩]

/-- Summer time in Belgium. -/
def belgium : List YearlyChange := [
  ⟨.only 1918, .march, .on 9, .standard 0 0, 60⟩,
  ⟨.between 1918 1919, .october, .onOrAfter .saturday 1, .standard 23 0, 0⟩,
  ⟨.only 1919, .march, .on 1, .standard 23 0, 60⟩,
  ⟨.only 1920, .february, .on 14, .standard 23 0, 60⟩,
  ⟨.only 1920, .october, .on 23, .standard 23 0, 0⟩,
  ⟨.only 1921, .march, .on 14, .standard 23 0, 60⟩,
  ⟨.only 1921, .october, .on 25, .standard 23 0, 0⟩,
  ⟨.only 1922, .march, .on 25, .standard 23 0, 60⟩,
  ⟨.between 1922 1927, .october, .onOrAfter .saturday 1, .standard 23 0, 0⟩,
  ⟨.only 1923, .april, .on 21, .standard 23 0, 60⟩,
  ⟨.only 1924, .march, .on 29, .standard 23 0, 60⟩,
  ⟨.only 1925, .april, .on 4, .standard 23 0, 60⟩,
  ⟨.only 1926, .april, .on 17, .standard 23 0, 60⟩,
  ⟨.only 1927, .april, .on 9, .standard 23 0, 60⟩,
  ⟨.only 1928, .april, .on 14, .standard 23 0, 60⟩,
  ⟨.between 1928 1938, .october, .onOrAfter .sunday 2, .standard 2 0, 0⟩,
  ⟨.only 1929, .april, .on 21, .standard 2 0, 60⟩,
  ⟨.only 1930, .april, .on 13, .standard 2 0, 60⟩,
  ⟨.only 1931, .april, .on 19, .standard 2 0, 60⟩,
  ⟨.only 1932, .april, .on 3, .standard 2 0, 60⟩,
  ⟨.only 1933, .march, .on 26, .standard 2 0, 60⟩,
  ⟨.only 1934, .april, .on 8, .standard 2 0, 60⟩,
  ⟨.only 1935, .march, .on 31, .standard 2 0, 60⟩,
  ⟨.only 1936, .april, .on 19, .standard 2 0, 60⟩,
  ⟨.only 1937, .april, .on 4, .standard 2 0, 60⟩,
  ⟨.only 1938, .march, .on 27, .standard 2 0, 60⟩,
  ⟨.only 1939, .april, .on 16, .standard 2 0, 60⟩,
  ⟨.only 1939, .november, .on 19, .standard 2 0, 0⟩,
  ⟨.only 1940, .february, .on 25, .standard 2 0, 60⟩,
  ⟨.only 1944, .september, .on 17, .standard 2 0, 0⟩,
  ⟨.only 1945, .april, .on 2, .standard 2 0, 60⟩,
  ⟨.only 1945, .september, .on 16, .standard 2 0, 0⟩,
  ⟨.only 1946, .may, .on 19, .standard 2 0, 60⟩,
  ⟨.only 1946, .october, .on 7, .standard 2 0, 0⟩]

/-- Summer time in Britain. -/
def britain : List YearlyChange := [
  ⟨.only 1916, .may, .on 21, .standard 2 0, 60⟩,
  ⟨.only 1916, .october, .on 1, .standard 2 0, 0⟩,
  ⟨.only 1917, .april, .on 8, .standard 2 0, 60⟩,
  ⟨.only 1917, .september, .on 17, .standard 2 0, 0⟩,
  ⟨.only 1918, .march, .on 24, .standard 2 0, 60⟩,
  ⟨.only 1918, .september, .on 30, .standard 2 0, 0⟩,
  ⟨.only 1919, .march, .on 30, .standard 2 0, 60⟩,
  ⟨.only 1919, .september, .on 29, .standard 2 0, 0⟩,
  ⟨.only 1920, .march, .on 28, .standard 2 0, 60⟩,
  ⟨.only 1920, .october, .on 25, .standard 2 0, 0⟩,
  ⟨.only 1921, .april, .on 3, .standard 2 0, 60⟩,
  ⟨.only 1921, .october, .on 3, .standard 2 0, 0⟩,
  ⟨.only 1922, .march, .on 26, .standard 2 0, 60⟩,
  ⟨.only 1922, .october, .on 8, .standard 2 0, 0⟩,
  ⟨.only 1923, .april, .onOrAfter .sunday 16, .standard 2 0, 60⟩,
  ⟨.between 1923 1924, .september, .onOrAfter .sunday 16, .standard 2 0, 0⟩,
  ⟨.only 1924, .april, .onOrAfter .sunday 9, .standard 2 0, 60⟩,
  ⟨.between 1925 1926, .april, .onOrAfter .sunday 16, .standard 2 0, 60⟩,
  ⟨.between 1925 1938, .october, .onOrAfter .sunday 2, .standard 2 0, 0⟩,
  ⟨.only 1927, .april, .onOrAfter .sunday 9, .standard 2 0, 60⟩,
  ⟨.between 1928 1929, .april, .onOrAfter .sunday 16, .standard 2 0, 60⟩,
  ⟨.only 1930, .april, .onOrAfter .sunday 9, .standard 2 0, 60⟩,
  ⟨.between 1931 1932, .april, .onOrAfter .sunday 16, .standard 2 0, 60⟩,
  ⟨.only 1933, .april, .onOrAfter .sunday 9, .standard 2 0, 60⟩,
  ⟨.only 1934, .april, .onOrAfter .sunday 16, .standard 2 0, 60⟩,
  ⟨.only 1935, .april, .onOrAfter .sunday 9, .standard 2 0, 60⟩,
  ⟨.between 1936 1937, .april, .onOrAfter .sunday 16, .standard 2 0, 60⟩,
  ⟨.only 1938, .april, .onOrAfter .sunday 9, .standard 2 0, 60⟩,
  ⟨.only 1939, .april, .onOrAfter .sunday 16, .standard 2 0, 60⟩,
  ⟨.only 1939, .november, .onOrAfter .sunday 16, .standard 2 0, 0⟩,
  ⟨.only 1940, .february, .onOrAfter .sunday 23, .standard 2 0, 60⟩,
  ⟨.only 1941, .may, .onOrAfter .sunday 2, .standard 1 0, 120⟩,
  ⟨.between 1941 1943, .august, .onOrAfter .sunday 9, .standard 1 0, 60⟩,
  ⟨.between 1942 1944, .april, .onOrAfter .sunday 2, .standard 1 0, 120⟩,
  ⟨.only 1944, .september, .onOrAfter .sunday 16, .standard 1 0, 60⟩,
  ⟨.only 1945, .april, .onOrAfter .monday 2, .standard 1 0, 120⟩,
  ⟨.only 1945, .july, .onOrAfter .sunday 9, .standard 1 0, 60⟩,
  ⟨.between 1945 1946, .october, .onOrAfter .sunday 2, .standard 2 0, 0⟩,
  ⟨.only 1946, .april, .onOrAfter .sunday 9, .standard 2 0, 60⟩,
  ⟨.only 1947, .march, .on 16, .standard 2 0, 60⟩,
  ⟨.only 1947, .april, .on 13, .standard 1 0, 120⟩,
  ⟨.only 1947, .august, .on 10, .standard 1 0, 60⟩,
  ⟨.only 1947, .november, .on 2, .standard 2 0, 0⟩,
  ⟨.only 1948, .march, .on 14, .standard 2 0, 60⟩,
  ⟨.only 1948, .october, .on 31, .standard 2 0, 0⟩,
  ⟨.only 1949, .april, .on 3, .standard 2 0, 60⟩,
  ⟨.only 1949, .october, .on 30, .standard 2 0, 0⟩,
  ⟨.between 1950 1952, .april, .onOrAfter .sunday 14, .standard 2 0, 60⟩,
  ⟨.between 1950 1952, .october, .onOrAfter .sunday 21, .standard 2 0, 0⟩,
  ⟨.only 1953, .april, .onOrAfter .sunday 16, .standard 2 0, 60⟩,
  ⟨.between 1953 1960, .october, .onOrAfter .sunday 2, .standard 2 0, 0⟩,
  ⟨.only 1954, .april, .onOrAfter .sunday 9, .standard 2 0, 60⟩,
  ⟨.between 1955 1956, .april, .onOrAfter .sunday 16, .standard 2 0, 60⟩,
  ⟨.only 1957, .april, .onOrAfter .sunday 9, .standard 2 0, 60⟩,
  ⟨.between 1958 1959, .april, .onOrAfter .sunday 16, .standard 2 0, 60⟩,
  ⟨.only 1960, .april, .onOrAfter .sunday 9, .standard 2 0, 60⟩,
  ⟨.between 1961 1963, .march, .last .sunday, .standard 2 0, 60⟩,
  ⟨.between 1961 1968, .october, .onOrAfter .sunday 23, .standard 2 0, 0⟩,
  ⟨.between 1964 1967, .march, .onOrAfter .sunday 19, .standard 2 0, 60⟩,
  ⟨.only 1968, .february, .on 18, .standard 2 0, 60⟩,
  ⟨.between 1972 1980, .march, .onOrAfter .sunday 16, .standard 2 0, 60⟩,
  ⟨.between 1972 1980, .october, .onOrAfter .sunday 23, .standard 2 0, 0⟩,
  ⟨.between 1981 1995, .march, .last .sunday, .universal 1 0, 60⟩,
  ⟨.between 1981 1989, .october, .onOrAfter .sunday 23, .universal 1 0, 0⟩,
  ⟨.between 1990 1995, .october, .onOrAfter .sunday 22, .universal 1 0, 0⟩]

/-- Summer time in Bulgaria. -/
def bulgaria : List YearlyChange := [
  ⟨.only 1979, .march, .on 31, .wall 23 0, 60⟩,
  ⟨.only 1979, .october, .on 1, .wall 1 0, 0⟩,
  ⟨.between 1980 1982, .april, .onOrAfter .saturday 1, .wall 23 0, 60⟩,
  ⟨.only 1980, .september, .on 29, .wall 1 0, 0⟩,
  ⟨.only 1981, .september, .on 27, .wall 2 0, 0⟩]

/-- Summer time in central Europe. -/
def centralEurope : List YearlyChange := [
  ⟨.only 1916, .april, .on 30, .wall 23 0, 60⟩,
  ⟨.only 1916, .october, .on 1, .wall 1 0, 0⟩,
  ⟨.between 1917 1918, .april, .onOrAfter .monday 15, .standard 2 0, 60⟩,
  ⟨.between 1917 1918, .september, .onOrAfter .monday 15, .standard 2 0, 0⟩,
  ⟨.only 1940, .april, .on 1, .standard 2 0, 60⟩,
  ⟨.only 1942, .november, .on 2, .standard 2 0, 0⟩,
  ⟨.only 1943, .march, .on 29, .standard 2 0, 60⟩,
  ⟨.only 1943, .october, .on 4, .standard 2 0, 0⟩,
  ⟨.between 1944 1945, .april, .onOrAfter .monday 1, .standard 2 0, 60⟩,
  ⟨.only 1944, .october, .on 2, .standard 2 0, 0⟩,
  ⟨.only 1945, .september, .on 16, .standard 2 0, 0⟩,
  ⟨.between 1977 1980, .april, .onOrAfter .sunday 1, .standard 2 0, 60⟩,
  ⟨.only 1977, .september, .last .sunday, .standard 2 0, 0⟩,
  ⟨.only 1978, .october, .on 1, .standard 2 0, 0⟩,
  ⟨.between 1979 1995, .september, .last .sunday, .standard 2 0, 0⟩,
  ⟨.since 1981, .march, .last .sunday, .standard 2 0, 60⟩,
  ⟨.since 1996, .october, .last .sunday, .standard 2 0, 0⟩]

/-- Summer time in Czechia. -/
def czechia : List YearlyChange := [
  ⟨.only 1945, .april, .onOrAfter .monday 1, .standard 2 0, 60⟩,
  ⟨.only 1945, .october, .on 1, .standard 2 0, 0⟩,
  ⟨.only 1946, .may, .on 6, .standard 2 0, 60⟩,
  ⟨.between 1946 1949, .october, .onOrAfter .sunday 1, .standard 2 0, 0⟩,
  ⟨.between 1947 1948, .april, .onOrAfter .sunday 15, .standard 2 0, 60⟩,
  ⟨.only 1949, .april, .on 9, .standard 2 0, 60⟩]

/-- Summer time in eastern Europe. -/
def easternEurope : List YearlyChange := [
  ⟨.between 1977 1980, .april, .onOrAfter .sunday 1, .wall 0 0, 60⟩,
  ⟨.only 1977, .september, .last .sunday, .wall 0 0, 0⟩,
  ⟨.only 1978, .october, .on 1, .wall 0 0, 0⟩,
  ⟨.between 1979 1995, .september, .last .sunday, .wall 0 0, 0⟩,
  ⟨.since 1981, .march, .last .sunday, .wall 0 0, 60⟩,
  ⟨.since 1996, .october, .last .sunday, .wall 0 0, 0⟩]

/-- Summer time in the European Union. -/
def europeanUnion : List YearlyChange := [
  ⟨.between 1977 1980, .april, .onOrAfter .sunday 1, .universal 1 0, 60⟩,
  ⟨.only 1977, .september, .last .sunday, .universal 1 0, 0⟩,
  ⟨.only 1978, .october, .on 1, .universal 1 0, 0⟩,
  ⟨.between 1979 1995, .september, .last .sunday, .universal 1 0, 0⟩,
  ⟨.since 1981, .march, .last .sunday, .universal 1 0, 60⟩,
  ⟨.since 1996, .october, .last .sunday, .universal 1 0, 0⟩]

/-- Summer time in Finland. -/
def finland : List YearlyChange := [
  ⟨.only 1942, .april, .on 2, .wall 24 0, 60⟩,
  ⟨.only 1942, .october, .on 4, .wall 1 0, 0⟩,
  ⟨.between 1981 1982, .march, .last .sunday, .wall 2 0, 60⟩,
  ⟨.between 1981 1982, .september, .last .sunday, .wall 3 0, 0⟩]

/-- Summer time in France. -/
def france : List YearlyChange := [
  ⟨.only 1916, .june, .on 14, .standard 23 0, 60⟩,
  ⟨.between 1916 1919, .october, .onOrAfter .sunday 1, .standard 23 0, 0⟩,
  ⟨.only 1917, .march, .on 24, .standard 23 0, 60⟩,
  ⟨.only 1918, .march, .on 9, .standard 23 0, 60⟩,
  ⟨.only 1919, .march, .on 1, .standard 23 0, 60⟩,
  ⟨.only 1920, .february, .on 14, .standard 23 0, 60⟩,
  ⟨.only 1920, .october, .on 23, .standard 23 0, 0⟩,
  ⟨.only 1921, .march, .on 14, .standard 23 0, 60⟩,
  ⟨.only 1921, .october, .on 25, .standard 23 0, 0⟩,
  ⟨.only 1922, .march, .on 25, .standard 23 0, 60⟩,
  ⟨.between 1922 1938, .october, .onOrAfter .saturday 1, .standard 23 0, 0⟩,
  ⟨.only 1923, .may, .on 26, .standard 23 0, 60⟩,
  ⟨.only 1924, .march, .on 29, .standard 23 0, 60⟩,
  ⟨.only 1925, .april, .on 4, .standard 23 0, 60⟩,
  ⟨.only 1926, .april, .on 17, .standard 23 0, 60⟩,
  ⟨.only 1927, .april, .on 9, .standard 23 0, 60⟩,
  ⟨.only 1928, .april, .on 14, .standard 23 0, 60⟩,
  ⟨.only 1929, .april, .on 20, .standard 23 0, 60⟩,
  ⟨.only 1930, .april, .on 12, .standard 23 0, 60⟩,
  ⟨.only 1931, .april, .on 18, .standard 23 0, 60⟩,
  ⟨.only 1932, .april, .on 2, .standard 23 0, 60⟩,
  ⟨.only 1933, .march, .on 25, .standard 23 0, 60⟩,
  ⟨.only 1934, .april, .on 7, .standard 23 0, 60⟩,
  ⟨.only 1935, .march, .on 30, .standard 23 0, 60⟩,
  ⟨.only 1936, .april, .on 18, .standard 23 0, 60⟩,
  ⟨.only 1937, .april, .on 3, .standard 23 0, 60⟩,
  ⟨.only 1938, .march, .on 26, .standard 23 0, 60⟩,
  ⟨.only 1939, .april, .on 15, .standard 23 0, 60⟩,
  ⟨.only 1939, .november, .on 18, .standard 23 0, 0⟩,
  ⟨.only 1940, .february, .on 25, .wall 2 0, 60⟩,
  ⟨.only 1941, .may, .on 5, .wall 0 0, 120⟩,
  ⟨.only 1941, .october, .on 6, .wall 0 0, 60⟩,
  ⟨.only 1942, .march, .on 9, .wall 0 0, 120⟩,
  ⟨.only 1942, .november, .on 2, .wall 3 0, 60⟩,
  ⟨.only 1943, .march, .on 29, .wall 2 0, 120⟩,
  ⟨.only 1943, .october, .on 4, .wall 3 0, 60⟩,
  ⟨.only 1944, .april, .on 3, .wall 2 0, 120⟩,
  ⟨.only 1944, .october, .on 8, .wall 1 0, 60⟩,
  ⟨.only 1945, .april, .on 2, .wall 2 0, 120⟩,
  ⟨.only 1945, .september, .on 16, .wall 3 0, 0⟩,
  ⟨.only 1976, .march, .on 28, .wall 1 0, 60⟩,
  ⟨.only 1976, .september, .on 26, .wall 1 0, 0⟩]

/-- Summer time in Germany. -/
def germany : List YearlyChange := [
  ⟨.only 1946, .april, .on 14, .standard 2 0, 60⟩,
  ⟨.only 1946, .october, .on 7, .standard 2 0, 0⟩,
  ⟨.between 1947 1949, .october, .onOrAfter .sunday 1, .standard 2 0, 0⟩,
  ⟨.only 1947, .april, .on 6, .standard 3 0, 60⟩,
  ⟨.only 1947, .may, .on 11, .standard 2 0, 120⟩,
  ⟨.only 1947, .june, .on 29, .wall 3 0, 60⟩,
  ⟨.only 1948, .april, .on 18, .standard 2 0, 60⟩,
  ⟨.only 1949, .april, .on 10, .standard 2 0, 60⟩]

/-- Summer time in Greece. -/
def greece : List YearlyChange := [
  ⟨.only 1932, .july, .on 7, .wall 0 0, 60⟩,
  ⟨.only 1932, .september, .on 1, .wall 0 0, 0⟩,
  ⟨.only 1941, .april, .on 7, .wall 0 0, 60⟩,
  ⟨.only 1942, .november, .on 2, .wall 3 0, 0⟩,
  ⟨.only 1943, .march, .on 30, .wall 0 0, 60⟩,
  ⟨.only 1943, .october, .on 4, .wall 0 0, 0⟩,
  ⟨.only 1952, .july, .on 1, .wall 0 0, 60⟩,
  ⟨.only 1952, .november, .on 2, .wall 0 0, 0⟩,
  ⟨.only 1975, .april, .on 12, .standard 0 0, 60⟩,
  ⟨.only 1975, .november, .on 26, .standard 0 0, 0⟩,
  ⟨.only 1976, .april, .on 11, .standard 2 0, 60⟩,
  ⟨.only 1976, .october, .on 10, .standard 2 0, 0⟩,
  ⟨.between 1977 1978, .april, .onOrAfter .sunday 1, .standard 2 0, 60⟩,
  ⟨.only 1977, .september, .on 26, .standard 2 0, 0⟩,
  ⟨.only 1978, .september, .on 24, .wall 4 0, 0⟩,
  ⟨.only 1979, .april, .on 1, .wall 9 0, 60⟩,
  ⟨.only 1979, .september, .on 29, .wall 2 0, 0⟩,
  ⟨.only 1980, .april, .on 1, .wall 0 0, 60⟩,
  ⟨.only 1980, .september, .on 28, .wall 0 0, 0⟩]

/-- Summer time in Hungary. -/
def hungary : List YearlyChange := [
  ⟨.between 1918 1919, .april, .on 15, .wall 2 0, 60⟩,
  ⟨.between 1918 1920, .september, .onOrAfter .monday 15, .wall 3 0, 0⟩,
  ⟨.only 1920, .april, .on 5, .wall 2 0, 60⟩,
  ⟨.only 1945, .may, .on 1, .wall 23 0, 60⟩,
  ⟨.only 1945, .november, .on 1, .wall 1 0, 0⟩,
  ⟨.only 1946, .march, .on 31, .standard 2 0, 60⟩,
  ⟨.only 1946, .october, .on 7, .wall 2 0, 0⟩,
  ⟨.between 1947 1949, .april, .onOrAfter .sunday 4, .standard 2 0, 60⟩,
  ⟨.between 1947 1949, .october, .onOrAfter .sunday 1, .standard 2 0, 0⟩,
  ⟨.only 1954, .may, .on 23, .wall 0 0, 60⟩,
  ⟨.only 1954, .october, .on 3, .wall 0 0, 0⟩,
  ⟨.only 1955, .may, .on 22, .wall 2 0, 60⟩,
  ⟨.only 1955, .october, .on 2, .wall 3 0, 0⟩,
  ⟨.between 1956 1957, .june, .onOrAfter .sunday 1, .wall 2 0, 60⟩,
  ⟨.between 1956 1957, .september, .last .sunday, .wall 3 0, 0⟩,
  ⟨.only 1980, .april, .on 6, .wall 0 0, 60⟩,
  ⟨.only 1980, .september, .on 28, .wall 1 0, 0⟩,
  ⟨.between 1981 1983, .march, .last .sunday, .wall 0 0, 60⟩,
  ⟨.between 1981 1983, .september, .last .sunday, .wall 1 0, 0⟩]

/-- Summer time in Ireland. -/
def ireland : List YearlyChange := [
  ⟨.only 1971, .october, .on 31, .universal 2 0, -60⟩,
  ⟨.between 1972 1980, .march, .onOrAfter .sunday 16, .universal 2 0, 0⟩,
  ⟨.between 1972 1980, .october, .onOrAfter .sunday 23, .universal 2 0, -60⟩,
  ⟨.since 1981, .march, .last .sunday, .universal 1 0, 0⟩,
  ⟨.between 1981 1989, .october, .onOrAfter .sunday 23, .universal 1 0, -60⟩,
  ⟨.between 1990 1995, .october, .onOrAfter .sunday 22, .universal 1 0, -60⟩,
  ⟨.since 1996, .october, .last .sunday, .universal 1 0, -60⟩]

/-- Summer time in Italy. -/
def italy : List YearlyChange := [
  ⟨.only 1916, .june, .on 3, .wall 24 0, 60⟩,
  ⟨.between 1916 1917, .september, .on 30, .wall 24 0, 0⟩,
  ⟨.only 1917, .march, .on 31, .wall 24 0, 60⟩,
  ⟨.only 1918, .march, .on 9, .wall 24 0, 60⟩,
  ⟨.only 1918, .october, .on 6, .wall 24 0, 0⟩,
  ⟨.only 1919, .march, .on 1, .wall 24 0, 60⟩,
  ⟨.only 1919, .october, .on 4, .wall 24 0, 0⟩,
  ⟨.only 1920, .march, .on 20, .wall 24 0, 60⟩,
  ⟨.only 1920, .september, .on 18, .wall 24 0, 0⟩,
  ⟨.only 1940, .june, .on 14, .wall 24 0, 60⟩,
  ⟨.only 1942, .november, .on 2, .standard 2 0, 0⟩,
  ⟨.only 1943, .march, .on 29, .standard 2 0, 60⟩,
  ⟨.only 1943, .october, .on 4, .standard 2 0, 0⟩,
  ⟨.only 1944, .april, .on 2, .standard 2 0, 60⟩,
  ⟨.only 1944, .september, .on 17, .standard 2 0, 0⟩,
  ⟨.only 1945, .april, .on 2, .wall 2 0, 60⟩,
  ⟨.only 1945, .september, .on 15, .wall 1 0, 0⟩,
  ⟨.only 1946, .march, .on 17, .standard 2 0, 60⟩,
  ⟨.only 1946, .october, .on 6, .standard 2 0, 0⟩,
  ⟨.only 1947, .march, .on 16, .standard 0 0, 60⟩,
  ⟨.only 1947, .october, .on 5, .standard 0 0, 0⟩,
  ⟨.only 1948, .february, .on 29, .standard 2 0, 60⟩,
  ⟨.only 1948, .october, .on 3, .standard 2 0, 0⟩,
  ⟨.between 1966 1968, .may, .onOrAfter .sunday 22, .standard 0 0, 60⟩,
  ⟨.only 1966, .september, .on 24, .wall 24 0, 0⟩,
  ⟨.between 1967 1969, .september, .onOrAfter .sunday 22, .standard 0 0, 0⟩,
  ⟨.only 1969, .june, .on 1, .standard 0 0, 60⟩,
  ⟨.only 1970, .may, .on 31, .standard 0 0, 60⟩,
  ⟨.only 1970, .september, .last .sunday, .standard 0 0, 0⟩,
  ⟨.between 1971 1972, .may, .onOrAfter .sunday 22, .standard 0 0, 60⟩,
  ⟨.only 1971, .september, .last .sunday, .standard 0 0, 0⟩,
  ⟨.only 1972, .october, .on 1, .standard 0 0, 0⟩,
  ⟨.only 1973, .june, .on 3, .standard 0 0, 60⟩,
  ⟨.between 1973 1974, .september, .last .sunday, .standard 0 0, 0⟩,
  ⟨.only 1974, .may, .on 26, .standard 0 0, 60⟩,
  ⟨.only 1975, .june, .on 1, .standard 0 0, 60⟩,
  ⟨.between 1975 1977, .september, .last .sunday, .standard 0 0, 0⟩,
  ⟨.only 1976, .may, .on 30, .standard 0 0, 60⟩,
  ⟨.between 1977 1979, .may, .onOrAfter .sunday 22, .standard 0 0, 60⟩,
  ⟨.only 1978, .october, .on 1, .standard 0 0, 0⟩,
  ⟨.only 1979, .september, .on 30, .standard 0 0, 0⟩]

/-- Summer time in Latvia. -/
def latvia : List YearlyChange := [
  ⟨.between 1989 1996, .march, .last .sunday, .standard 2 0, 60⟩,
  ⟨.between 1989 1996, .september, .last .sunday, .standard 2 0, 0⟩]

/-- Summer time in Malta. -/
def malta : List YearlyChange := [
  ⟨.only 1973, .march, .on 31, .standard 0 0, 60⟩,
  ⟨.only 1973, .september, .on 29, .standard 0 0, 0⟩,
  ⟨.only 1974, .april, .on 21, .standard 0 0, 60⟩,
  ⟨.only 1974, .september, .on 16, .standard 0 0, 0⟩,
  ⟨.between 1975 1979, .april, .onOrAfter .sunday 15, .wall 2 0, 60⟩,
  ⟨.between 1975 1980, .september, .onOrAfter .sunday 15, .wall 2 0, 0⟩,
  ⟨.only 1980, .march, .on 31, .wall 2 0, 60⟩]

/-- Summer time in Moldova. -/
def moldova : List YearlyChange := [
  ⟨.since 1997, .march, .last .sunday, .wall 2 0, 60⟩,
  ⟨.since 1997, .october, .last .sunday, .wall 3 0, 0⟩]

/-- Summer time in Poland. -/
def poland : List YearlyChange := [
  ⟨.between 1918 1919, .september, .on 16, .standard 2 0, 0⟩,
  ⟨.only 1919, .april, .on 15, .standard 2 0, 60⟩,
  ⟨.only 1944, .april, .on 3, .standard 2 0, 60⟩,
  ⟨.only 1944, .october, .on 4, .wall 2 0, 0⟩,
  ⟨.only 1945, .april, .on 29, .wall 0 0, 60⟩,
  ⟨.only 1945, .november, .on 1, .wall 0 0, 0⟩,
  ⟨.only 1946, .april, .on 14, .standard 0 0, 60⟩,
  ⟨.only 1946, .october, .on 7, .standard 2 0, 0⟩,
  ⟨.only 1947, .may, .on 4, .standard 2 0, 60⟩,
  ⟨.between 1947 1949, .october, .onOrAfter .sunday 1, .standard 2 0, 0⟩,
  ⟨.only 1948, .april, .on 18, .standard 2 0, 60⟩,
  ⟨.only 1949, .april, .on 10, .standard 2 0, 60⟩,
  ⟨.only 1957, .june, .on 2, .standard 1 0, 60⟩,
  ⟨.between 1957 1958, .september, .last .sunday, .standard 1 0, 0⟩,
  ⟨.only 1958, .march, .on 30, .standard 1 0, 60⟩,
  ⟨.only 1959, .may, .on 31, .standard 1 0, 60⟩,
  ⟨.between 1959 1961, .october, .onOrAfter .sunday 1, .standard 1 0, 0⟩,
  ⟨.only 1960, .april, .on 3, .standard 1 0, 60⟩,
  ⟨.between 1961 1964, .may, .last .sunday, .standard 1 0, 60⟩,
  ⟨.between 1962 1964, .september, .last .sunday, .standard 1 0, 0⟩]

/-- Summer time in Portugal. -/
def portugal : List YearlyChange := [
  ⟨.only 1916, .june, .on 17, .wall 23 0, 60⟩,
  ⟨.only 1916, .november, .on 1, .wall 1 0, 0⟩,
  ⟨.only 1917, .february, .on 28, .standard 23 0, 60⟩,
  ⟨.between 1917 1921, .october, .on 14, .standard 23 0, 0⟩,
  ⟨.only 1918, .march, .on 1, .standard 23 0, 60⟩,
  ⟨.only 1919, .february, .on 28, .standard 23 0, 60⟩,
  ⟨.only 1920, .february, .on 29, .standard 23 0, 60⟩,
  ⟨.only 1921, .february, .on 28, .standard 23 0, 60⟩,
  ⟨.only 1924, .april, .on 16, .standard 23 0, 60⟩,
  ⟨.only 1924, .october, .on 14, .standard 23 0, 0⟩,
  ⟨.only 1926, .april, .on 17, .standard 23 0, 60⟩,
  ⟨.between 1926 1929, .october, .onOrAfter .saturday 1, .standard 23 0, 0⟩,
  ⟨.only 1927, .april, .on 9, .standard 23 0, 60⟩,
  ⟨.only 1928, .april, .on 14, .standard 23 0, 60⟩,
  ⟨.only 1929, .april, .on 20, .standard 23 0, 60⟩,
  ⟨.only 1931, .april, .on 18, .standard 23 0, 60⟩,
  ⟨.between 1931 1932, .october, .onOrAfter .saturday 1, .standard 23 0, 0⟩,
  ⟨.only 1932, .april, .on 2, .standard 23 0, 60⟩,
  ⟨.only 1934, .april, .on 7, .standard 23 0, 60⟩,
  ⟨.between 1934 1938, .october, .onOrAfter .saturday 1, .standard 23 0, 0⟩,
  ⟨.only 1935, .march, .on 30, .standard 23 0, 60⟩,
  ⟨.only 1936, .april, .on 18, .standard 23 0, 60⟩,
  ⟨.only 1937, .april, .on 3, .standard 23 0, 60⟩,
  ⟨.only 1938, .march, .on 26, .standard 23 0, 60⟩,
  ⟨.only 1939, .april, .on 15, .standard 23 0, 60⟩,
  ⟨.only 1939, .november, .on 18, .standard 23 0, 0⟩,
  ⟨.only 1940, .february, .on 24, .standard 23 0, 60⟩,
  ⟨.between 1940 1941, .october, .on 5, .standard 23 0, 0⟩,
  ⟨.only 1941, .april, .on 5, .standard 23 0, 60⟩,
  ⟨.between 1942 1945, .march, .onOrAfter .saturday 8, .standard 23 0, 60⟩,
  ⟨.only 1942, .april, .on 25, .standard 22 0, 120⟩,
  ⟨.only 1942, .august, .on 15, .standard 22 0, 60⟩,
  ⟨.between 1942 1945, .october, .onOrAfter .saturday 24, .standard 23 0, 0⟩,
  ⟨.only 1943, .april, .on 17, .standard 22 0, 120⟩,
  ⟨.between 1943 1945, .august, .onOrAfter .saturday 25, .standard 22 0, 60⟩,
  ⟨.between 1944 1945, .april, .onOrAfter .saturday 21, .standard 22 0, 120⟩,
  ⟨.only 1946, .april, .onOrAfter .saturday 1, .standard 23 0, 60⟩,
  ⟨.only 1946, .october, .onOrAfter .saturday 1, .standard 23 0, 0⟩,
  ⟨.between 1947 1965, .april, .onOrAfter .sunday 1, .standard 2 0, 60⟩,
  ⟨.between 1947 1965, .october, .onOrAfter .sunday 1, .standard 2 0, 0⟩,
  ⟨.only 1977, .march, .on 27, .standard 0 0, 60⟩,
  ⟨.only 1977, .september, .on 25, .standard 0 0, 0⟩,
  ⟨.between 1978 1979, .april, .onOrAfter .sunday 1, .standard 0 0, 60⟩,
  ⟨.only 1978, .october, .on 1, .standard 0 0, 0⟩,
  ⟨.between 1979 1982, .september, .last .sunday, .standard 1 0, 0⟩,
  ⟨.only 1980, .march, .last .sunday, .standard 0 0, 60⟩,
  ⟨.between 1981 1982, .march, .last .sunday, .standard 1 0, 60⟩,
  ⟨.only 1983, .march, .last .sunday, .standard 2 0, 60⟩]

/-- Summer time in Romania. -/
def romania : List YearlyChange := [
  ⟨.only 1932, .may, .on 21, .standard 0 0, 60⟩,
  ⟨.between 1932 1939, .october, .onOrAfter .sunday 1, .standard 0 0, 0⟩,
  ⟨.between 1933 1939, .april, .onOrAfter .sunday 2, .standard 0 0, 60⟩,
  ⟨.only 1979, .may, .on 27, .wall 0 0, 60⟩,
  ⟨.only 1979, .september, .last .sunday, .wall 0 0, 0⟩,
  ⟨.only 1980, .april, .on 5, .wall 23 0, 60⟩,
  ⟨.only 1980, .september, .last .sunday, .wall 1 0, 0⟩,
  ⟨.between 1991 1993, .march, .last .sunday, .standard 0 0, 60⟩,
  ⟨.between 1991 1993, .september, .last .sunday, .standard 0 0, 0⟩]

/-- Summer time in Russia. -/
def russia : List YearlyChange := [
  ⟨.only 1917, .july, .on 1, .wall 23 0, 60⟩,
  ⟨.only 1917, .december, .on 28, .wall 0 0, 0⟩,
  ⟨.only 1918, .may, .on 31, .wall 22 0, 120⟩,
  ⟨.only 1918, .september, .on 16, .wall 1 0, 60⟩,
  ⟨.only 1919, .may, .on 31, .wall 23 0, 120⟩,
  ⟨.only 1919, .july, .on 1, .universal 0 0, 60⟩,
  ⟨.only 1919, .august, .on 16, .wall 0 0, 0⟩,
  ⟨.only 1921, .february, .on 14, .wall 23 0, 60⟩,
  ⟨.only 1921, .march, .on 20, .wall 23 0, 120⟩,
  ⟨.only 1921, .september, .on 1, .wall 0 0, 60⟩,
  ⟨.only 1921, .october, .on 1, .wall 0 0, 0⟩,
  ⟨.between 1981 1984, .april, .on 1, .wall 0 0, 60⟩,
  ⟨.between 1981 1983, .october, .on 1, .wall 0 0, 0⟩,
  ⟨.between 1984 1995, .september, .last .sunday, .standard 2 0, 0⟩,
  ⟨.between 1985 2010, .march, .last .sunday, .standard 2 0, 60⟩,
  ⟨.between 1996 2010, .october, .last .sunday, .standard 2 0, 0⟩]

/-- Summer time in Berlin under Soviet rule. -/
def sovietBerlin : List YearlyChange := [
  ⟨.only 1945, .may, .on 24, .wall 2 0, 120⟩,
  ⟨.only 1945, .september, .on 24, .wall 3 0, 60⟩,
  ⟨.only 1945, .november, .on 18, .standard 2 0, 0⟩]

/-- Summer time in Spain. -/
def spain : List YearlyChange := [
  ⟨.only 1918, .april, .on 15, .wall 23 0, 60⟩,
  ⟨.between 1918 1919, .october, .on 6, .standard 24 0, 0⟩,
  ⟨.only 1919, .april, .on 6, .wall 23 0, 60⟩,
  ⟨.only 1924, .april, .on 16, .wall 23 0, 60⟩,
  ⟨.only 1924, .october, .on 4, .standard 24 0, 0⟩,
  ⟨.only 1926, .april, .on 17, .wall 23 0, 60⟩,
  ⟨.between 1926 1929, .october, .onOrAfter .saturday 1, .standard 24 0, 0⟩,
  ⟨.only 1927, .april, .on 9, .wall 23 0, 60⟩,
  ⟨.only 1928, .april, .on 15, .wall 0 0, 60⟩,
  ⟨.only 1929, .april, .on 20, .wall 23 0, 60⟩,
  ⟨.only 1937, .june, .on 16, .wall 23 0, 60⟩,
  ⟨.only 1937, .october, .on 2, .standard 24 0, 0⟩,
  ⟨.only 1938, .april, .on 2, .wall 23 0, 60⟩,
  ⟨.only 1938, .april, .on 30, .wall 23 0, 120⟩,
  ⟨.only 1938, .october, .on 2, .wall 24 0, 60⟩,
  ⟨.only 1939, .october, .on 7, .standard 24 0, 0⟩,
  ⟨.only 1942, .may, .on 2, .wall 23 0, 60⟩,
  ⟨.only 1942, .september, .on 1, .wall 1 0, 0⟩,
  ⟨.between 1943 1946, .april, .onOrAfter .saturday 13, .wall 23 0, 60⟩,
  ⟨.between 1943 1944, .october, .onOrAfter .sunday 1, .wall 1 0, 0⟩,
  ⟨.between 1945 1946, .september, .last .sunday, .wall 1 0, 0⟩,
  ⟨.only 1949, .april, .on 30, .wall 23 0, 60⟩,
  ⟨.only 1949, .october, .on 2, .wall 1 0, 0⟩,
  ⟨.between 1974 1975, .april, .onOrAfter .saturday 12, .wall 23 0, 60⟩,
  ⟨.between 1974 1975, .october, .onOrAfter .sunday 1, .wall 1 0, 0⟩,
  ⟨.only 1976, .march, .on 27, .wall 23 0, 60⟩,
  ⟨.between 1976 1977, .september, .last .sunday, .wall 1 0, 0⟩,
  ⟨.only 1977, .april, .on 2, .wall 23 0, 60⟩,
  ⟨.only 1978, .april, .on 2, .standard 2 0, 60⟩,
  ⟨.only 1978, .october, .on 1, .standard 2 0, 0⟩]

/-- Summer time in Switzerland. -/
def switzerland : List YearlyChange := [
  ⟨.between 1941 1942, .may, .onOrAfter .monday 1, .wall 1 0, 60⟩,
  ⟨.between 1941 1942, .october, .onOrAfter .monday 1, .wall 2 0, 0⟩]

/-- Summer time in Turkey. -/
def turkey : List YearlyChange := [
  ⟨.only 1916, .may, .on 1, .wall 0 0, 60⟩,
  ⟨.only 1916, .october, .on 1, .wall 0 0, 0⟩,
  ⟨.only 1920, .march, .on 28, .wall 0 0, 60⟩,
  ⟨.only 1920, .october, .on 25, .wall 0 0, 0⟩,
  ⟨.only 1921, .april, .on 3, .wall 0 0, 60⟩,
  ⟨.only 1921, .october, .on 3, .wall 0 0, 0⟩,
  ⟨.only 1922, .march, .on 26, .wall 0 0, 60⟩,
  ⟨.only 1922, .october, .on 8, .wall 0 0, 0⟩,
  ⟨.only 1924, .may, .on 13, .wall 0 0, 60⟩,
  ⟨.between 1924 1925, .october, .on 1, .wall 0 0, 0⟩,
  ⟨.only 1925, .may, .on 1, .wall 0 0, 60⟩,
  ⟨.only 1940, .july, .on 1, .wall 0 0, 60⟩,
  ⟨.only 1940, .october, .on 6, .wall 0 0, 0⟩,
  ⟨.only 1940, .december, .on 1, .wall 0 0, 60⟩,
  ⟨.only 1941, .september, .on 21, .wall 0 0, 0⟩,
  ⟨.only 1942, .april, .on 1, .wall 0 0, 60⟩,
  ⟨.only 1945, .october, .on 8, .wall 0 0, 0⟩,
  ⟨.only 1946, .june, .on 1, .wall 0 0, 60⟩,
  ⟨.only 1946, .october, .on 1, .wall 0 0, 0⟩,
  ⟨.between 1947 1948, .april, .onOrAfter .sunday 16, .wall 0 0, 60⟩,
  ⟨.between 1947 1951, .october, .onOrAfter .sunday 2, .wall 0 0, 0⟩,
  ⟨.only 1949, .april, .on 10, .wall 0 0, 60⟩,
  ⟨.only 1950, .april, .on 16, .wall 0 0, 60⟩,
  ⟨.only 1951, .april, .on 22, .wall 0 0, 60⟩,
  ⟨.only 1962, .july, .on 15, .wall 0 0, 60⟩,
  ⟨.only 1963, .october, .on 30, .wall 0 0, 0⟩,
  ⟨.only 1964, .may, .on 15, .wall 0 0, 60⟩,
  ⟨.only 1964, .october, .on 1, .wall 0 0, 0⟩,
  ⟨.only 1973, .june, .on 3, .wall 1 0, 60⟩,
  ⟨.between 1973 1976, .october, .onOrAfter .sunday 31, .wall 2 0, 0⟩,
  ⟨.only 1974, .march, .on 31, .wall 2 0, 60⟩,
  ⟨.only 1975, .march, .on 22, .wall 2 0, 60⟩,
  ⟨.only 1976, .march, .on 21, .wall 2 0, 60⟩,
  ⟨.between 1977 1978, .april, .onOrAfter .sunday 1, .wall 2 0, 60⟩,
  ⟨.between 1977 1978, .october, .onOrAfter .sunday 15, .wall 2 0, 0⟩,
  ⟨.only 1978, .june, .on 29, .wall 0 0, 0⟩,
  ⟨.only 1983, .july, .on 31, .wall 2 0, 60⟩,
  ⟨.only 1983, .october, .on 2, .wall 2 0, 0⟩,
  ⟨.only 1985, .april, .on 20, .standard 1 0, 60⟩,
  ⟨.only 1985, .september, .on 28, .standard 1 0, 0⟩,
  ⟨.between 1986 1993, .march, .last .sunday, .standard 1 0, 60⟩,
  ⟨.between 1986 1995, .september, .last .sunday, .standard 1 0, 0⟩,
  ⟨.only 1994, .march, .on 20, .standard 1 0, 60⟩,
  ⟨.between 1995 2006, .march, .last .sunday, .standard 1 0, 60⟩,
  ⟨.between 1996 2006, .october, .last .sunday, .standard 1 0, 0⟩]

/-- Summer time in western Europe. -/
def westernEurope : List YearlyChange := [
  ⟨.between 1977 1980, .april, .onOrAfter .sunday 1, .standard 1 0, 60⟩,
  ⟨.only 1977, .september, .last .sunday, .standard 1 0, 0⟩,
  ⟨.only 1978, .october, .on 1, .standard 1 0, 0⟩,
  ⟨.between 1979 1995, .september, .last .sunday, .standard 1 0, 0⟩,
  ⟨.since 1981, .march, .last .sunday, .standard 1 0, 60⟩,
  ⟨.since 1996, .october, .last .sunday, .standard 1 0, 0⟩]

end ElectionReadiness.TimeZone.Rules
