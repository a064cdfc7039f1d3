import FieldCounter.Battery
import FieldCounter.Clock

/-!
# The reporting schedule

Reports fall on the multiples of the reporting interval, counted from the start of the wall clock.
A sleep to the next boundary ends a little past it, within the tolerance in which a boundary is
recognised.
-/

namespace FieldCounter

/-- Seconds on either side of a boundary that still count as the boundary. -/
def alignmentTolerance : Nat := 30

/-- Seconds by which a sleep to a boundary ends past it. -/
def sleepMargin : Nat := 5

/-- A shorter sleep to a boundary goes on to the next one. -/
def minTimedSleep : Nat := 10

/-- The longest sleep that the platform accepts. -/
def maxSleep : Nat := 7 * secsPerDay

/-- The configured interval stretched by the tier, never zero. -/
def effectiveInterval (base : UInt32) (tier : BatteryTier) : Nat :=
  max 1 (min (base.toNat * tier.multiplier) wordMax)

/-- The instant lies within the tolerance of a multiple of the interval. -/
def isBoundaryAligned (now interval : Nat) : Bool :=
  if interval = 0 then true
  else now % interval ≤ alignmentTolerance || interval - alignmentTolerance ≤ now % interval

/-- Seconds from `now` to just past the next boundary, or one interval where the clock cannot be
trusted. -/
def intervalSleep (now interval : Nat) (timeValid : Bool) : Nat :=
  let interval := max interval 1
  let secs := interval - now % interval + sleepMargin
  if !timeValid then interval
  else if secs < minTimedSleep then min (secs + interval) wordMax
  else secs

end FieldCounter
