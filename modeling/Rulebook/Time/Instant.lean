import Rulebook.Time.Calendar

/-!
# Instants

A moment in time together with the offset from UTC that it is written with.  Instants are ordered
by the moment alone.  A leap second is the second before it with more than a billion nanoseconds.
-/

namespace Rulebook.Time

structure Instant where
  /-- seconds of UTC since 1970-01-01T00:00:00Z -/
  seconds : Int
  nanos : Nat
  /-- seconds that local time is ahead of UTC -/
  offset : Int
deriving DecidableEq, Repr

def secondsPerDay : Int := 86400

/-- a local date and time of day -/
def Instant.ofLocal (date : Date) (second : Nat) (nanos : Nat) (offset : Int) : Instant :=
  ⟨date.toDay * secondsPerDay + second - offset, nanos, offset⟩

def Instant.localSeconds (t : Instant) : Int := t.seconds + t.offset

/-- the local day -/
def Instant.day (t : Instant) : Int := t.localSeconds / secondsPerDay

/-- seconds since local midnight -/
def Instant.secondOfDay (t : Instant) : Nat := (t.localSeconds % secondsPerDay).toNat

/-- the beginning of the local day -/
def Instant.midnight (t : Instant) : Instant :=
  ⟨t.day * secondsPerDay - t.offset, 0, t.offset⟩

/-- the earlier instant first, whatever the offsets -/
def Instant.compare (a b : Instant) : Ordering :=
  (Ord.compare a.seconds b.seconds).then (Ord.compare a.nanos b.nanos)

end Rulebook.Time
