import ElectionReadiness.TimeZone.History
import ElectionReadiness.TimeZone.Rules.SouthAmerica

/-!
# Zones of South America

The histories of the zones of South America: for every regime its
offset of standard time, its way to keep summer time, and the reading of the wall
clock at its end.
-/

set_option autoImplicit false

namespace ElectionReadiness.TimeZone.SouthAmerica

def araguaina : ZoneHistory where
  past := [(⟨west 3 12 48, .fixed 0⟩, ⟨1914, .january, .on 1, hms 0 0 0⟩),
    (⟨west 3 0 0, .following Rules.brazil⟩, ⟨1990, .september, .on 17, hms 0 0 0⟩),
    (⟨west 3 0 0, .fixed 0⟩, ⟨1995, .september, .on 14, hms 0 0 0⟩),
    (⟨west 3 0 0, .following Rules.brazil⟩, ⟨2003, .september, .on 24, hms 0 0 0⟩),
    (⟨west 3 0 0, .fixed 0⟩, ⟨2012, .october, .on 21, hms 0 0 0⟩),
    (⟨west 3 0 0, .following Rules.brazil⟩, ⟨2013, .september, .on 1, hms 0 0 0⟩)]
  present := ⟨west 3 0 0, .fixed 0⟩

def argentinaBuenosAires : ZoneHistory where
  past := [(⟨west 3 53 48, .fixed 0⟩, ⟨1894, .october, .on 31, hms 0 0 0⟩),
    (⟨west 4 16 48, .fixed 0⟩, ⟨1920, .may, .on 1, hms 0 0 0⟩),
    (⟨west 4 0 0, .fixed 0⟩, ⟨1930, .december, .on 1, hms 0 0 0⟩),
    (⟨west 4 0 0, .following Rules.argentina⟩, ⟨1969, .october, .on 5, hms 0 0 0⟩),
    (⟨west 3 0 0, .following Rules.argentina⟩, ⟨1999, .october, .on 3, hms 0 0 0⟩),
    (⟨west 4 0 0, .following Rules.argentina⟩, ⟨2000, .march, .on 3, hms 0 0 0⟩)]
  present := ⟨west 3 0 0, .following Rules.argentina⟩

def argentinaCatamarca : ZoneHistory where
  past := [(⟨west 4 23 8, .fixed 0⟩, ⟨1894, .october, .on 31, hms 0 0 0⟩),
    (⟨west 4 16 48, .fixed 0⟩, ⟨1920, .may, .on 1, hms 0 0 0⟩),
    (⟨west 4 0 0, .fixed 0⟩, ⟨1930, .december, .on 1, hms 0 0 0⟩),
    (⟨west 4 0 0, .following Rules.argentina⟩, ⟨1969, .october, .on 5, hms 0 0 0⟩),
    (⟨west 3 0 0, .following Rules.argentina⟩, ⟨1991, .march, .on 3, hms 0 0 0⟩),
    (⟨west 4 0 0, .fixed 0⟩, ⟨1991, .october, .on 20, hms 0 0 0⟩),
    (⟨west 3 0 0, .following Rules.argentina⟩, ⟨1999, .october, .on 3, hms 0 0 0⟩),
    (⟨west 4 0 0, .following Rules.argentina⟩, ⟨2000, .march, .on 3, hms 0 0 0⟩),
    (⟨west 3 0 0, .fixed 0⟩, ⟨2004, .june, .on 1, hms 0 0 0⟩),
    (⟨west 4 0 0, .fixed 0⟩, ⟨2004, .june, .on 20, hms 0 0 0⟩),
    (⟨west 3 0 0, .following Rules.argentina⟩, ⟨2008, .october, .on 18, hms 0 0 0⟩)]
  present := ⟨west 3 0 0, .fixed 0⟩

def argentinaCordoba : ZoneHistory where
  past := [(⟨west 4 16 48, .fixed 0⟩, ⟨1894, .october, .on 31, hms 0 0 0⟩),
    (⟨west 4 16 48, .fixed 0⟩, ⟨1920, .may, .on 1, hms 0 0 0⟩),
    (⟨west 4 0 0, .fixed 0⟩, ⟨1930, .december, .on 1, hms 0 0 0⟩),
    (⟨west 4 0 0, .following Rules.argentina⟩, ⟨1969, .october, .on 5, hms 0 0 0⟩),
    (⟨west 3 0 0, .following Rules.argentina⟩, ⟨1991, .march, .on 3, hms 0 0 0⟩),
    (⟨west 4 0 0, .fixed 0⟩, ⟨1991, .october, .on 20, hms 0 0 0⟩),
    (⟨west 3 0 0, .following Rules.argentina⟩, ⟨1999, .october, .on 3, hms 0 0 0⟩),
    (⟨west 4 0 0, .following Rules.argentina⟩, ⟨2000, .march, .on 3, hms 0 0 0⟩)]
  present := ⟨west 3 0 0, .following Rules.argentina⟩

def argentinaJujuy : ZoneHistory where
  past := [(⟨west 4 21 12, .fixed 0⟩, ⟨1894, .october, .on 31, hms 0 0 0⟩),
    (⟨west 4 16 48, .fixed 0⟩, ⟨1920, .may, .on 1, hms 0 0 0⟩),
    (⟨west 4 0 0, .fixed 0⟩, ⟨1930, .december, .on 1, hms 0 0 0⟩),
    (⟨west 4 0 0, .following Rules.argentina⟩, ⟨1969, .october, .on 5, hms 0 0 0⟩),
    (⟨west 3 0 0, .following Rules.argentina⟩, ⟨1990, .march, .on 4, hms 0 0 0⟩),
    (⟨west 4 0 0, .fixed 0⟩, ⟨1990, .october, .on 28, hms 0 0 0⟩),
    (⟨west 4 0 0, .fixed 60⟩, ⟨1991, .march, .on 17, hms 0 0 0⟩),
    (⟨west 4 0 0, .fixed 0⟩, ⟨1991, .october, .on 6, hms 0 0 0⟩),
    (⟨west 3 0 0, .fixed 60⟩, ⟨1992, .january, .on 1, hms 0 0 0⟩),
    (⟨west 3 0 0, .following Rules.argentina⟩, ⟨1999, .october, .on 3, hms 0 0 0⟩),
    (⟨west 4 0 0, .following Rules.argentina⟩, ⟨2000, .march, .on 3, hms 0 0 0⟩),
    (⟨west 3 0 0, .following Rules.argentina⟩, ⟨2008, .october, .on 18, hms 0 0 0⟩)]
  present := ⟨west 3 0 0, .fixed 0⟩

def argentinaLaRioja : ZoneHistory where
  past := [(⟨west 4 27 24, .fixed 0⟩, ⟨1894, .october, .on 31, hms 0 0 0⟩),
    (⟨west 4 16 48, .fixed 0⟩, ⟨1920, .may, .on 1, hms 0 0 0⟩),
    (⟨west 4 0 0, .fixed 0⟩, ⟨1930, .december, .on 1, hms 0 0 0⟩),
    (⟨west 4 0 0, .following Rules.argentina⟩, ⟨1969, .october, .on 5, hms 0 0 0⟩),
    (⟨west 3 0 0, .following Rules.argentina⟩, ⟨1991, .march, .on 1, hms 0 0 0⟩),
    (⟨west 4 0 0, .fixed 0⟩, ⟨1991, .may, .on 7, hms 0 0 0⟩),
    (⟨west 3 0 0, .following Rules.argentina⟩, ⟨1999, .october, .on 3, hms 0 0 0⟩),
    (⟨west 4 0 0, .following Rules.argentina⟩, ⟨2000, .march, .on 3, hms 0 0 0⟩),
    (⟨west 3 0 0, .fixed 0⟩, ⟨2004, .june, .on 1, hms 0 0 0⟩),
    (⟨west 4 0 0, .fixed 0⟩, ⟨2004, .june, .on 20, hms 0 0 0⟩),
    (⟨west 3 0 0, .following Rules.argentina⟩, ⟨2008, .october, .on 18, hms 0 0 0⟩)]
  present := ⟨west 3 0 0, .fixed 0⟩

def argentinaMendoza : ZoneHistory where
  past := [(⟨west 4 35 16, .fixed 0⟩, ⟨1894, .october, .on 31, hms 0 0 0⟩),
    (⟨west 4 16 48, .fixed 0⟩, ⟨1920, .may, .on 1, hms 0 0 0⟩),
    (⟨west 4 0 0, .fixed 0⟩, ⟨1930, .december, .on 1, hms 0 0 0⟩),
    (⟨west 4 0 0, .following Rules.argentina⟩, ⟨1969, .october, .on 5, hms 0 0 0⟩),
    (⟨west 3 0 0, .following Rules.argentina⟩, ⟨1990, .march, .on 4, hms 0 0 0⟩),
    (⟨west 4 0 0, .fixed 0⟩, ⟨1990, .october, .on 15, hms 0 0 0⟩),
    (⟨west 4 0 0, .fixed 60⟩, ⟨1991, .march, .on 1, hms 0 0 0⟩),
    (⟨west 4 0 0, .fixed 0⟩, ⟨1991, .october, .on 15, hms 0 0 0⟩),
    (⟨west 4 0 0, .fixed 60⟩, ⟨1992, .march, .on 1, hms 0 0 0⟩),
    (⟨west 4 0 0, .fixed 0⟩, ⟨1992, .october, .on 18, hms 0 0 0⟩),
    (⟨west 3 0 0, .following Rules.argentina⟩, ⟨1999, .october, .on 3, hms 0 0 0⟩),
    (⟨west 4 0 0, .following Rules.argentina⟩, ⟨2000, .march, .on 3, hms 0 0 0⟩),
    (⟨west 3 0 0, .fixed 0⟩, ⟨2004, .may, .on 23, hms 0 0 0⟩),
    (⟨west 4 0 0, .fixed 0⟩, ⟨2004, .september, .on 26, hms 0 0 0⟩),
    (⟨west 3 0 0, .following Rules.argentina⟩, ⟨2008, .october, .on 18, hms 0 0 0⟩)]
  present := ⟨west 3 0 0, .fixed 0⟩

def argentinaRioGallegos : ZoneHistory where
  past := [(⟨west 4 36 52, .fixed 0⟩, ⟨1894, .october, .on 31, hms 0 0 0⟩),
    (⟨west 4 16 48, .fixed 0⟩, ⟨1920, .may, .on 1, hms 0 0 0⟩),
    (⟨west 4 0 0, .fixed 0⟩, ⟨1930, .december, .on 1, hms 0 0 0⟩),
    (⟨west 4 0 0, .following Rules.argentina⟩, ⟨1969, .october, .on 5, hms 0 0 0⟩),
    (⟨west 3 0 0, .following Rules.argentina⟩, ⟨1999, .october, .on 3, hms 0 0 0⟩),
    (⟨west 4 0 0, .following Rules.argentina⟩, ⟨2000, .march, .on 3, hms 0 0 0⟩),
    (⟨west 3 0 0, .fixed 0⟩, ⟨2004, .june, .on 1, hms 0 0 0⟩),
    (⟨west 4 0 0, .fixed 0⟩, ⟨2004, .june, .on 20, hms 0 0 0⟩),
    (⟨west 3 0 0, .following Rules.argentina⟩, ⟨2008, .october, .on 18, hms 0 0 0⟩)]
  present := ⟨west 3 0 0, .fixed 0⟩

def argentinaSalta : ZoneHistory where
  past := [(⟨west 4 21 40, .fixed 0⟩, ⟨1894, .october, .on 31, hms 0 0 0⟩),
    (⟨west 4 16 48, .fixed 0⟩, ⟨1920, .may, .on 1, hms 0 0 0⟩),
    (⟨west 4 0 0, .fixed 0⟩, ⟨1930, .december, .on 1, hms 0 0 0⟩),
    (⟨west 4 0 0, .following Rules.argentina⟩, ⟨1969, .october, .on 5, hms 0 0 0⟩),
    (⟨west 3 0 0, .following Rules.argentina⟩, ⟨1991, .march, .on 3, hms 0 0 0⟩),
    (⟨west 4 0 0, .fixed 0⟩, ⟨1991, .october, .on 20, hms 0 0 0⟩),
    (⟨west 3 0 0, .following Rules.argentina⟩, ⟨1999, .october, .on 3, hms 0 0 0⟩),
    (⟨west 4 0 0, .following Rules.argentina⟩, ⟨2000, .march, .on 3, hms 0 0 0⟩),
    (⟨west 3 0 0, .following Rules.argentina⟩, ⟨2008, .october, .on 18, hms 0 0 0⟩)]
  present := ⟨west 3 0 0, .fixed 0⟩

def argentinaSanJuan : ZoneHistory where
  past := [(⟨west 4 34 4, .fixed 0⟩, ⟨1894, .october, .on 31, hms 0 0 0⟩),
    (⟨west 4 16 48, .fixed 0⟩, ⟨1920, .may, .on 1, hms 0 0 0⟩),
    (⟨west 4 0 0, .fixed 0⟩, ⟨1930, .december, .on 1, hms 0 0 0⟩),
    (⟨west 4 0 0, .following Rules.argentina⟩, ⟨1969, .october, .on 5, hms 0 0 0⟩),
    (⟨west 3 0 0, .following Rules.argentina⟩, ⟨1991, .march, .on 1, hms 0 0 0⟩),
    (⟨west 4 0 0, .fixed 0⟩, ⟨1991, .may, .on 7, hms 0 0 0⟩),
    (⟨west 3 0 0, .following Rules.argentina⟩, ⟨1999, .october, .on 3, hms 0 0 0⟩),
    (⟨west 4 0 0, .following Rules.argentina⟩, ⟨2000, .march, .on 3, hms 0 0 0⟩),
    (⟨west 3 0 0, .fixed 0⟩, ⟨2004, .may, .on 31, hms 0 0 0⟩),
    (⟨west 4 0 0, .fixed 0⟩, ⟨2004, .july, .on 25, hms 0 0 0⟩),
    (⟨west 3 0 0, .following Rules.argentina⟩, ⟨2008, .october, .on 18, hms 0 0 0⟩)]
  present := ⟨west 3 0 0, .fixed 0⟩

def argentinaSanLuis : ZoneHistory where
  past := [(⟨west 4 25 24, .fixed 0⟩, ⟨1894, .october, .on 31, hms 0 0 0⟩),
    (⟨west 4 16 48, .fixed 0⟩, ⟨1920, .may, .on 1, hms 0 0 0⟩),
    (⟨west 4 0 0, .fixed 0⟩, ⟨1930, .december, .on 1, hms 0 0 0⟩),
    (⟨west 4 0 0, .following Rules.argentina⟩, ⟨1969, .october, .on 5, hms 0 0 0⟩),
    (⟨west 3 0 0, .following Rules.argentina⟩, ⟨1990, .january, .on 1, hms 0 0 0⟩),
    (⟨west 3 0 0, .fixed 60⟩, ⟨1990, .march, .on 14, hms 0 0 0⟩),
    (⟨west 4 0 0, .fixed 0⟩, ⟨1990, .october, .on 15, hms 0 0 0⟩),
    (⟨west 4 0 0, .fixed 60⟩, ⟨1991, .march, .on 1, hms 0 0 0⟩),
    (⟨west 4 0 0, .fixed 0⟩, ⟨1991, .june, .on 1, hms 0 0 0⟩),
    (⟨west 3 0 0, .fixed 0⟩, ⟨1999, .october, .on 3, hms 0 0 0⟩),
    (⟨west 4 0 0, .fixed 60⟩, ⟨2000, .march, .on 3, hms 0 0 0⟩),
    (⟨west 3 0 0, .fixed 0⟩, ⟨2004, .may, .on 31, hms 0 0 0⟩),
    (⟨west 4 0 0, .fixed 0⟩, ⟨2004, .july, .on 25, hms 0 0 0⟩),
    (⟨west 3 0 0, .following Rules.argentina⟩, ⟨2008, .january, .on 21, hms 0 0 0⟩),
    (⟨west 4 0 0, .following Rules.sanLuis⟩, ⟨2009, .october, .on 11, hms 0 0 0⟩)]
  present := ⟨west 3 0 0, .fixed 0⟩

def argentinaTucuman : ZoneHistory where
  past := [(⟨west 4 20 52, .fixed 0⟩, ⟨1894, .october, .on 31, hms 0 0 0⟩),
    (⟨west 4 16 48, .fixed 0⟩, ⟨1920, .may, .on 1, hms 0 0 0⟩),
    (⟨west 4 0 0, .fixed 0⟩, ⟨1930, .december, .on 1, hms 0 0 0⟩),
    (⟨west 4 0 0, .following Rules.argentina⟩, ⟨1969, .october, .on 5, hms 0 0 0⟩),
    (⟨west 3 0 0, .following Rules.argentina⟩, ⟨1991, .march, .on 3, hms 0 0 0⟩),
    (⟨west 4 0 0, .fixed 0⟩, ⟨1991, .october, .on 20, hms 0 0 0⟩),
    (⟨west 3 0 0, .following Rules.argentina⟩, ⟨1999, .october, .on 3, hms 0 0 0⟩),
    (⟨west 4 0 0, .following Rules.argentina⟩, ⟨2000, .march, .on 3, hms 0 0 0⟩),
    (⟨west 3 0 0, .fixed 0⟩, ⟨2004, .june, .on 1, hms 0 0 0⟩),
    (⟨west 4 0 0, .fixed 0⟩, ⟨2004, .june, .on 13, hms 0 0 0⟩)]
  present := ⟨west 3 0 0, .following Rules.argentina⟩

def argentinaUshuaia : ZoneHistory where
  past := [(⟨west 4 33 12, .fixed 0⟩, ⟨1894, .october, .on 31, hms 0 0 0⟩),
    (⟨west 4 16 48, .fixed 0⟩, ⟨1920, .may, .on 1, hms 0 0 0⟩),
    (⟨west 4 0 0, .fixed 0⟩, ⟨1930, .december, .on 1, hms 0 0 0⟩),
    (⟨west 4 0 0, .following Rules.argentina⟩, ⟨1969, .october, .on 5, hms 0 0 0⟩),
    (⟨west 3 0 0, .following Rules.argentina⟩, ⟨1999, .october, .on 3, hms 0 0 0⟩),
    (⟨west 4 0 0, .following Rules.argentina⟩, ⟨2000, .march, .on 3, hms 0 0 0⟩),
    (⟨west 3 0 0, .fixed 0⟩, ⟨2004, .may, .on 30, hms 0 0 0⟩),
    (⟨west 4 0 0, .fixed 0⟩, ⟨2004, .june, .on 20, hms 0 0 0⟩),
    (⟨west 3 0 0, .following Rules.argentina⟩, ⟨2008, .october, .on 18, hms 0 0 0⟩)]
  present := ⟨west 3 0 0, .fixed 0⟩

def asuncion : ZoneHistory where
  past := [(⟨west 3 50 40, .fixed 0⟩, ⟨1890, .january, .on 1, hms 0 0 0⟩),
    (⟨west 3 50 40, .fixed 0⟩, ⟨1931, .october, .on 10, hms 0 0 0⟩),
    (⟨west 4 0 0, .fixed 0⟩, ⟨1972, .october, .on 1, hms 0 0 0⟩),
    (⟨west 3 0 0, .fixed 0⟩, ⟨1974, .april, .on 1, hms 0 0 0⟩)]
  present := ⟨west 4 0 0, .following Rules.paraguay⟩

def bahia : ZoneHistory where
  past := [(⟨west 2 34 4, .fixed 0⟩, ⟨1914, .january, .on 1, hms 0 0 0⟩),
    (⟨west 3 0 0, .following Rules.brazil⟩, ⟨2003, .september, .on 24, hms 0 0 0⟩),
    (⟨west 3 0 0, .fixed 0⟩, ⟨2011, .october, .on 16, hms 0 0 0⟩),
    (⟨west 3 0 0, .following Rules.brazil⟩, ⟨2012, .october, .on 21, hms 0 0 0⟩)]
  present := ⟨west 3 0 0, .fixed 0⟩

def belem : ZoneHistory where
  past := [(⟨west 3 13 56, .fixed 0⟩, ⟨1914, .january, .on 1, hms 0 0 0⟩),
    (⟨west 3 0 0, .following Rules.brazil⟩, ⟨1988, .september, .on 12, hms 0 0 0⟩)]
  present := ⟨west 3 0 0, .fixed 0⟩

def boaVista : ZoneHistory where
  past := [(⟨west 4 2 40, .fixed 0⟩, ⟨1914, .january, .on 1, hms 0 0 0⟩),
    (⟨west 4 0 0, .following Rules.brazil⟩, ⟨1988, .september, .on 12, hms 0 0 0⟩),
    (⟨west 4 0 0, .fixed 0⟩, ⟨1999, .september, .on 30, hms 0 0 0⟩),
    (⟨west 4 0 0, .following Rules.brazil⟩, ⟨2000, .october, .on 15, hms 0 0 0⟩)]
  present := ⟨west 4 0 0, .fixed 0⟩

def bogota : ZoneHistory where
  past := [(⟨west 4 56 16, .fixed 0⟩, ⟨1884, .march, .on 13, hms 0 0 0⟩),
    (⟨west 4 56 16, .fixed 0⟩, ⟨1914, .november, .on 23, hms 0 0 0⟩)]
  present := ⟨west 5 0 0, .following Rules.colombia⟩

def campoGrande : ZoneHistory where
  past := [(⟨west 3 38 28, .fixed 0⟩, ⟨1914, .january, .on 1, hms 0 0 0⟩)]
  present := ⟨west 4 0 0, .following Rules.brazil⟩

def caracas : ZoneHistory where
  past := [(⟨west 4 27 44, .fixed 0⟩, ⟨1890, .january, .on 1, hms 0 0 0⟩),
    (⟨west 4 27 40, .fixed 0⟩, ⟨1912, .february, .on 12, hms 0 0 0⟩),
    (⟨west 4 30 0, .fixed 0⟩, ⟨1965, .january, .on 1, hms 0 0 0⟩),
    (⟨west 4 0 0, .fixed 0⟩, ⟨2007, .december, .on 9, hms 3 0 0⟩),
    (⟨west 4 30 0, .fixed 0⟩, ⟨2016, .may, .on 1, hms 2 30 0⟩)]
  present := ⟨west 4 0 0, .fixed 0⟩

def cayenne : ZoneHistory where
  past := [(⟨west 3 29 20, .fixed 0⟩, ⟨1911, .july, .on 1, hms 0 0 0⟩),
    (⟨west 4 0 0, .fixed 0⟩, ⟨1967, .october, .on 1, hms 0 0 0⟩)]
  present := ⟨west 3 0 0, .fixed 0⟩

def cuiaba : ZoneHistory where
  past := [(⟨west 3 44 20, .fixed 0⟩, ⟨1914, .january, .on 1, hms 0 0 0⟩),
    (⟨west 4 0 0, .following Rules.brazil⟩, ⟨2003, .september, .on 24, hms 0 0 0⟩),
    (⟨west 4 0 0, .fixed 0⟩, ⟨2004, .october, .on 1, hms 0 0 0⟩)]
  present := ⟨west 4 0 0, .following Rules.brazil⟩

def eirunepe : ZoneHistory where
  past := [(⟨west 4 39 28, .fixed 0⟩, ⟨1914, .january, .on 1, hms 0 0 0⟩),
    (⟨west 5 0 0, .following Rules.brazil⟩, ⟨1988, .september, .on 12, hms 0 0 0⟩),
    (⟨west 5 0 0, .fixed 0⟩, ⟨1993, .september, .on 28, hms 0 0 0⟩),
    (⟨west 5 0 0, .following Rules.brazil⟩, ⟨1994, .september, .on 22, hms 0 0 0⟩),
    (⟨west 5 0 0, .fixed 0⟩, ⟨2008, .june, .on 24, hms 0 0 0⟩),
    (⟨west 4 0 0, .fixed 0⟩, ⟨2013, .november, .on 10, hms 0 0 0⟩)]
  present := ⟨west 5 0 0, .fixed 0⟩

def fortaleza : ZoneHistory where
  past := [(⟨west 2 34 0, .fixed 0⟩, ⟨1914, .january, .on 1, hms 0 0 0⟩),
    (⟨west 3 0 0, .following Rules.brazil⟩, ⟨1990, .september, .on 17, hms 0 0 0⟩),
    (⟨west 3 0 0, .fixed 0⟩, ⟨1999, .september, .on 30, hms 0 0 0⟩),
    (⟨west 3 0 0, .following Rules.brazil⟩, ⟨2000, .october, .on 22, hms 0 0 0⟩),
    (⟨west 3 0 0, .fixed 0⟩, ⟨2001, .september, .on 13, hms 0 0 0⟩),
    (⟨west 3 0 0, .following Rules.brazil⟩, ⟨2002, .october, .on 1, hms 0 0 0⟩)]
  present := ⟨west 3 0 0, .fixed 0⟩

def guayaquil : ZoneHistory where
  past := [(⟨west 5 19 20, .fixed 0⟩, ⟨1890, .january, .on 1, hms 0 0 0⟩),
    (⟨west 5 14 0, .fixed 0⟩, ⟨1931, .january, .on 1, hms 0 0 0⟩)]
  present := ⟨west 5 0 0, .following Rules.ecuador⟩

def guyana : ZoneHistory where
  past := [(⟨west 3 52 39, .fixed 0⟩, ⟨1911, .august, .on 1, hms 0 0 0⟩),
    (⟨west 4 0 0, .fixed 0⟩, ⟨1915, .march, .on 1, hms 0 0 0⟩),
    (⟨west 3 45 0, .fixed 0⟩, ⟨1975, .august, .on 1, hms 0 0 0⟩),
    (⟨west 3 0 0, .fixed 0⟩, ⟨1992, .march, .on 29, hms 1 0 0⟩)]
  present := ⟨west 4 0 0, .fixed 0⟩

def laPaz : ZoneHistory where
  past := [(⟨west 4 32 36, .fixed 0⟩, ⟨1890, .january, .on 1, hms 0 0 0⟩),
    (⟨west 4 32 36, .fixed 0⟩, ⟨1931, .october, .on 15, hms 0 0 0⟩),
    (⟨west 4 32 36, .fixed 60⟩, ⟨1932, .march, .on 21, hms 0 0 0⟩)]
  present := ⟨west 4 0 0, .fixed 0⟩

def lima : ZoneHistory where
  past := [(⟨west 5 8 12, .fixed 0⟩, ⟨1890, .january, .on 1, hms 0 0 0⟩),
    (⟨west 5 8 36, .fixed 0⟩, ⟨1908, .july, .on 28, hms 0 0 0⟩)]
  present := ⟨west 5 0 0, .following Rules.peru⟩

def maceio : ZoneHistory where
  past := [(⟨west 2 22 52, .fixed 0⟩, ⟨1914, .january, .on 1, hms 0 0 0⟩),
    (⟨west 3 0 0, .following Rules.brazil⟩, ⟨1990, .september, .on 17, hms 0 0 0⟩),
    (⟨west 3 0 0, .fixed 0⟩, ⟨1995, .october, .on 13, hms 0 0 0⟩),
    (⟨west 3 0 0, .following Rules.brazil⟩, ⟨1996, .september, .on 4, hms 0 0 0⟩),
    (⟨west 3 0 0, .fixed 0⟩, ⟨1999, .september, .on 30, hms 0 0 0⟩),
    (⟨west 3 0 0, .following Rules.brazil⟩, ⟨2000, .october, .on 22, hms 0 0 0⟩),
    (⟨west 3 0 0, .fixed 0⟩, ⟨2001, .september, .on 13, hms 0 0 0⟩),
    (⟨west 3 0 0, .following Rules.brazil⟩, ⟨2002, .october, .on 1, hms 0 0 0⟩)]
  present := ⟨west 3 0 0, .fixed 0⟩

def manaus : ZoneHistory where
  past := [(⟨west 4 0 4, .fixed 0⟩, ⟨1914, .january, .on 1, hms 0 0 0⟩),
    (⟨west 4 0 0, .following Rules.brazil⟩, ⟨1988, .september, .on 12, hms 0 0 0⟩),
    (⟨west 4 0 0, .fixed 0⟩, ⟨1993, .september, .on 28, hms 0 0 0⟩),
    (⟨west 4 0 0, .following Rules.brazil⟩, ⟨1994, .september, .on 22, hms 0 0 0⟩)]
  present := ⟨west 4 0 0, .fixed 0⟩

def montevideo : ZoneHistory where
  past := [(⟨west 3 44 51, .fixed 0⟩, ⟨1908, .june, .on 10, hms 0 0 0⟩),
    (⟨west 3 44 51, .fixed 0⟩, ⟨1920, .may, .on 1, hms 0 0 0⟩),
    (⟨west 4 0 0, .fixed 0⟩, ⟨1923, .october, .on 1, hms 0 0 0⟩),
    (⟨west 3 30 0, .following Rules.uruguay⟩, ⟨1942, .december, .on 14, hms 0 0 0⟩),
    (⟨west 3 0 0, .following Rules.uruguay⟩, ⟨1960, .january, .on 1, hms 0 0 0⟩),
    (⟨west 3 0 0, .following Rules.uruguay⟩, ⟨1968, .january, .on 1, hms 0 0 0⟩),
    (⟨west 3 0 0, .following Rules.uruguay⟩, ⟨1970, .january, .on 1, hms 0 0 0⟩),
    (⟨west 3 0 0, .following Rules.uruguay⟩, ⟨1974, .january, .on 1, hms 0 0 0⟩),
    (⟨west 3 0 0, .following Rules.uruguay⟩, ⟨1974, .march, .on 10, hms 0 0 0⟩),
    (⟨west 3 0 0, .following Rules.uruguay⟩, ⟨1974, .december, .on 22, hms 0 0 0⟩)]
  present := ⟨west 3 0 0, .following Rules.uruguay⟩

def noronha : ZoneHistory where
  past := [(⟨west 2 9 40, .fixed 0⟩, ⟨1914, .january, .on 1, hms 0 0 0⟩),
    (⟨west 2 0 0, .following Rules.brazil⟩, ⟨1990, .september, .on 17, hms 0 0 0⟩),
    (⟨west 2 0 0, .fixed 0⟩, ⟨1999, .september, .on 30, hms 0 0 0⟩),
    (⟨west 2 0 0, .following Rules.brazil⟩, ⟨2000, .october, .on 15, hms 0 0 0⟩),
    (⟨west 2 0 0, .fixed 0⟩, ⟨2001, .september, .on 13, hms 0 0 0⟩),
    (⟨west 2 0 0, .following Rules.brazil⟩, ⟨2002, .october, .on 1, hms 0 0 0⟩)]
  present := ⟨west 2 0 0, .fixed 0⟩

def paramaribo : ZoneHistory where
  past := [(⟨west 3 40 40, .fixed 0⟩, ⟨1911, .january, .on 1, hms 0 0 0⟩),
    (⟨west 3 40 52, .fixed 0⟩, ⟨1935, .january, .on 1, hms 0 0 0⟩),
    (⟨west 3 40 36, .fixed 0⟩, ⟨1945, .october, .on 1, hms 0 0 0⟩),
    (⟨west 3 30 0, .fixed 0⟩, ⟨1984, .october, .on 1, hms 0 0 0⟩)]
  present := ⟨west 3 0 0, .fixed 0⟩

def portoVelho : ZoneHistory where
  past := [(⟨west 4 15 36, .fixed 0⟩, ⟨1914, .january, .on 1, hms 0 0 0⟩),
    (⟨west 4 0 0, .following Rules.brazil⟩, ⟨1988, .september, .on 12, hms 0 0 0⟩)]
  present := ⟨west 4 0 0, .fixed 0⟩

def puntaArenas : ZoneHistory where
  past := [(⟨west 4 43 40, .fixed 0⟩, ⟨1890, .january, .on 1, hms 0 0 0⟩),
    (⟨west 4 42 45, .fixed 0⟩, ⟨1910, .january, .on 10, hms 0 0 0⟩),
    (⟨west 5 0 0, .fixed 0⟩, ⟨1916, .july, .on 1, hms 0 0 0⟩),
    (⟨west 4 42 45, .fixed 0⟩, ⟨1918, .september, .on 10, hms 0 0 0⟩),
    (⟨west 4 0 0, .fixed 0⟩, ⟨1919, .july, .on 1, hms 0 0 0⟩),
    (⟨west 4 42 45, .fixed 0⟩, ⟨1927, .september, .on 1, hms 0 0 0⟩),
    (⟨west 5 0 0, .following Rules.chile⟩, ⟨1932, .september, .on 1, hms 0 0 0⟩),
    (⟨west 4 0 0, .fixed 0⟩, ⟨1942, .june, .on 1, hms 0 0 0⟩),
    (⟨west 5 0 0, .fixed 0⟩, ⟨1942, .august, .on 1, hms 0 0 0⟩),
    (⟨west 4 0 0, .fixed 0⟩, ⟨1946, .august, .on 28, hms 24 0 0⟩),
    (⟨west 5 0 0, .fixed 60⟩, ⟨1947, .march, .on 31, hms 24 0 0⟩),
    (⟨west 5 0 0, .fixed 0⟩, ⟨1947, .may, .on 21, hms 23 0 0⟩),
    (⟨west 4 0 0, .following Rules.chile⟩, ⟨2016, .december, .on 4, hms 0 0 0⟩)]
  present := ⟨west 3 0 0, .fixed 0⟩

def recife : ZoneHistory where
  past := [(⟨west 2 19 36, .fixed 0⟩, ⟨1914, .january, .on 1, hms 0 0 0⟩),
    (⟨west 3 0 0, .following Rules.brazil⟩, ⟨1990, .september, .on 17, hms 0 0 0⟩),
    (⟨west 3 0 0, .fixed 0⟩, ⟨1999, .september, .on 30, hms 0 0 0⟩),
    (⟨west 3 0 0, .following Rules.brazil⟩, ⟨2000, .october, .on 15, hms 0 0 0⟩),
    (⟨west 3 0 0, .fixed 0⟩, ⟨2001, .september, .on 13, hms 0 0 0⟩),
    (⟨west 3 0 0, .following Rules.brazil⟩, ⟨2002, .october, .on 1, hms 0 0 0⟩)]
  present := ⟨west 3 0 0, .fixed 0⟩

def rioBranco : ZoneHistory where
  past := [(⟨west 4 31 12, .fixed 0⟩, ⟨1914, .january, .on 1, hms 0 0 0⟩),
    (⟨west 5 0 0, .following Rules.brazil⟩, ⟨1988, .september, .on 12, hms 0 0 0⟩),
    (⟨west 5 0 0, .fixed 0⟩, ⟨2008, .june, .on 24, hms 0 0 0⟩),
    (⟨west 4 0 0, .fixed 0⟩, ⟨2013, .november, .on 10, hms 0 0 0⟩)]
  present := ⟨west 5 0 0, .fixed 0⟩

def santarem : ZoneHistory where
  past := [(⟨west 3 38 48, .fixed 0⟩, ⟨1914, .january, .on 1, hms 0 0 0⟩),
    (⟨west 4 0 0, .following Rules.brazil⟩, ⟨1988, .september, .on 12, hms 0 0 0⟩),
    (⟨west 4 0 0, .fixed 0⟩, ⟨2008, .june, .on 24, hms 0 0 0⟩)]
  present := ⟨west 3 0 0, .fixed 0⟩

def santiago : ZoneHistory where
  past := [(⟨west 4 42 45, .fixed 0⟩, ⟨1890, .january, .on 1, hms 0 0 0⟩),
    (⟨west 4 42 45, .fixed 0⟩, ⟨1910, .january, .on 10, hms 0 0 0⟩),
    (⟨west 5 0 0, .fixed 0⟩, ⟨1916, .july, .on 1, hms 0 0 0⟩),
    (⟨west 4 42 45, .fixed 0⟩, ⟨1918, .september, .on 10, hms 0 0 0⟩),
    (⟨west 4 0 0, .fixed 0⟩, ⟨1919, .july, .on 1, hms 0 0 0⟩),
    (⟨west 4 42 45, .fixed 0⟩, ⟨1927, .september, .on 1, hms 0 0 0⟩),
    (⟨west 5 0 0, .following Rules.chile⟩, ⟨1932, .september, .on 1, hms 0 0 0⟩),
    (⟨west 4 0 0, .fixed 0⟩, ⟨1942, .june, .on 1, hms 0 0 0⟩),
    (⟨west 5 0 0, .fixed 0⟩, ⟨1942, .august, .on 1, hms 0 0 0⟩),
    (⟨west 4 0 0, .fixed 0⟩, ⟨1946, .july, .on 14, hms 24 0 0⟩),
    (⟨west 4 0 0, .fixed 60⟩, ⟨1946, .august, .on 28, hms 24 0 0⟩),
    (⟨west 5 0 0, .fixed 60⟩, ⟨1947, .march, .on 31, hms 24 0 0⟩),
    (⟨west 5 0 0, .fixed 0⟩, ⟨1947, .may, .on 21, hms 23 0 0⟩)]
  present := ⟨west 4 0 0, .following Rules.chile⟩

def saoPaulo : ZoneHistory where
  past := [(⟨west 3 6 28, .fixed 0⟩, ⟨1914, .january, .on 1, hms 0 0 0⟩),
    (⟨west 3 0 0, .following Rules.brazil⟩, ⟨1963, .october, .on 23, hms 0 0 0⟩),
    (⟨west 3 0 0, .fixed 60⟩, ⟨1964, .january, .on 1, hms 0 0 0⟩)]
  present := ⟨west 3 0 0, .following Rules.brazil⟩

end ElectionReadiness.TimeZone.SouthAmerica
