import FieldCounter.Clock

/-!
# Open hours

The hours of the local day in which the device is expected to count and report. Equal ends mean
always open; an opening hour after the closing hour makes the window run past midnight.
-/

namespace FieldCounter

/-- The daily window, from the opening hour up to but not including the closing hour. -/
structure OpenHours where
  opens : Nat
  closes : Nat
deriving DecidableEq, Repr

namespace OpenHours

/-- The window has no closed part. -/
def isAlwaysOpen (hours : OpenHours) : Bool := hours.opens == hours.closes

/-- The window contains the hour of the day. -/
def containsHour (hours : OpenHours) (hour : Nat) : Bool :=
  if hours.isAlwaysOpen then true
  else if hours.opens < hours.closes then hours.opens ≤ hour && hour < hours.closes
  else hours.opens ≤ hour || hour < hours.closes

/-- The window contains the local time. -/
def isOpen (hours : OpenHours) (time : LocalTime) : Bool := hours.containsHour time.hour

/-- Seconds from `time` to the next opening, zero while open. -/
def secondsUntilOpen (hours : OpenHours) (time : LocalTime) : Nat :=
  let opening := hours.opens * secsPerHour
  if hours.isOpen time then 0
  else if time.secondOfDay < opening then opening - time.secondOfDay
  else secsPerDay - time.secondOfDay + opening

/-- There is nothing to wait for while open. -/
theorem secondsUntilOpen_of_isOpen {hours : OpenHours} {time : LocalTime} (h : hours.isOpen time = true) :
    hours.secondsUntilOpen time = 0 := by
  simp [secondsUntilOpen, h]

end OpenHours

/-- The device counts as inside open hours: an unsynchronised clock cannot place it outside. -/
def Moment.inOpenHours (moment : Moment) (hours : OpenHours) : Bool :=
  !moment.valid || hours.isOpen (LocalTime.ofMoment moment)

end FieldCounter
