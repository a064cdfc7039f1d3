import FieldCounter.Word

/-!
# Clock readings and local time

A clock reading gives the wall clock, the time since the last boot, and what is needed to place
the wall clock in the local day. Local time is floor arithmetic on the seconds since 1970 shifted
by the offset, so times before the local epoch fall into the day they belong to.
-/

namespace FieldCounter

/-- Seconds in an hour. -/
def secsPerHour : Nat := 3600

/-- Seconds in a day. -/
def secsPerDay : Nat := 86400

/-- One reading of the device's clocks. -/
structure Moment where
  /-- Seconds since 1970 in universal time; meaningless unless `valid`. -/
  now : UInt32
  /-- Milliseconds since boot. -/
  uptimeMs : UInt64
  /-- Whether the wall clock has been synchronised. -/
  valid : Bool
  /-- Seconds by which local time is ahead of universal time. -/
  utcOffset : Int32
deriving DecidableEq, Repr

/-- Seconds from `earlier` to `later` on the wall clock, zero when the clock went back. -/
def secsBetween (earlier later : UInt32) : Nat := later.toNat - earlier.toNat

/-- Milliseconds of uptime from `earlier` to `later`, zero when `later` comes first. -/
def msBetween (earlier later : UInt64) : Nat := later.toNat - earlier.toNat

/-- The largest reading of the uptime, in milliseconds. -/
def uptimeMax : Nat := 18446744073709551615

/-- Whole seconds of uptime from `earlier` to `later`, as a word. -/
def uptimeSecs (earlier later : UInt64) : UInt32 := UInt32.ofNat (msBetween earlier later / 1000)

/-- As long as it fits into a word, the count of whole seconds is exact. -/
theorem toNat_uptimeSecs {earlier later : UInt64} (h : msBetween earlier later / 1000 ≤ wordMax) :
    (uptimeSecs earlier later).toNat = msBetween earlier later / 1000 := by
  simp only [wordMax] at h
  simp only [uptimeSecs, UInt32.toNat_ofNat']
  omega

/-- An instant in the local day. -/
structure LocalTime where
  hour : Nat
  /-- Seconds since local midnight. -/
  secondOfDay : Nat
  /-- Days since the first day of the year one, that day being number one. -/
  dayNumber : Int
deriving DecidableEq, Repr

namespace LocalTime

/-- The number of the first day of 1970. -/
def epochDay : Int := 719163

/-- The offset used for local time: one of a day or more is ignored. -/
def usableOffset (utcOffset : Int32) : Int :=
  if -(secsPerDay : Int) < utcOffset.toInt ∧ utcOffset.toInt < secsPerDay then utcOffset.toInt else 0

/-- Local seconds since 1970. -/
def shifted (unix : UInt32) (utcOffset : Int32) : Int := unix.toNat + usableOffset utcOffset

/-- Local time of a universal time. -/
def ofUnix (unix : UInt32) (utcOffset : Int32) : LocalTime :=
  let seconds := shifted unix utcOffset
  let secondOfDay := (seconds % secsPerDay).toNat
  { hour := secondOfDay / secsPerHour
    secondOfDay
    dayNumber := seconds / secsPerDay + epochDay }

/-- Local time of a clock reading. -/
def ofMoment (moment : Moment) : LocalTime := ofUnix moment.now moment.utcOffset

/-- The second of the day falls within the day, whatever the offset. -/
theorem secondOfDay_ofUnix_lt (unix : UInt32) (utcOffset : Int32) :
    (ofUnix unix utcOffset).secondOfDay < secsPerDay := by
  simp only [ofUnix, secsPerDay]
  omega

end LocalTime

end FieldCounter
