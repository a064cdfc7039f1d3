import FieldCounter.Clock

/-!
# Simulated surroundings

A small town on a regular day: people pass by day and trip the sensor at fixed intervals, and the
sun charges the battery around noon. Local time is universal time.
-/

namespace FieldCounter.Simulator

/-- The instant at which every simulation starts, midnight of a Monday in June. -/
def startTime : Nat := 1717372800

/-- The hour of the day. -/
def hourAt (t : Nat) : Nat := t % secsPerDay / secsPerHour

/-- People pass at this time of the day. -/
def isBusy (t : Nat) : Bool := 7 ≤ hourAt t && hourAt t < 20

/-- The sun reaches the panel. -/
def isSunny (t : Nat) : Bool := 10 ≤ hourAt t && hourAt t < 15

/-- Seconds between two detections. -/
def detectionPeriod : Nat := 97

/-- Somebody trips the sensor. -/
def isDetection (t : Nat) : Bool := t % detectionPeriod == 0 && isBusy t

/-- The first detection within so many seconds after `t`. -/
def firstDetection (t : Nat) : (secs : Nat) → Option Nat
  | 0 => none
  | secs + 1 => if isDetection (t + 1) then some (t + 1) else firstDetection (t + 1) secs

end FieldCounter.Simulator
