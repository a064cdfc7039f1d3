import FieldCounter.Device
import FieldCounter.OpenHours
import FieldCounter.Schedule

/-!
# Sleep plans

There are two ways to sleep. A deep sleep restarts the device on waking; it is used only while
closed, once in every closed time, and never again in a boot in which it failed to restart the
device. A timed sleep goes on in place and is used everywhere else. The planner only decides.
-/

namespace FieldCounter

/-- How to sleep. -/
inductive Strategy where
  | deep
  | timed
deriving DecidableEq, Repr

/-- The name of the strategy. -/
def Strategy.name : Strategy → String
  | .deep => "Deep"
  | .timed => "Timed"

/-- A sleep: how, for how long, and what may end it. -/
structure SleepPlan where
  strategy : Strategy
  seconds : Nat
  wake : WakeSources
deriving DecidableEq, Repr

/-- Why a timed sleep ended. -/
inductive WakeCause where
  | manual
  | sensor
  | timer
deriving DecidableEq, Repr

/-- The name of the cause. -/
def WakeCause.name : WakeCause → String
  | .manual => "ManualOverride"
  | .sensor => "Sensor"
  | .timer => "Timer"

/-- The cause shown by the pins: the button before the sensor, and the timer where neither is set. -/
def WakeCause.ofPins (pins : WakePins) : WakeCause :=
  if pins.manual then .manual else if pins.sensor then .sensor else .timer

/-- Everything that a sleep is sized by. -/
structure SleepInputs where
  now : UInt32
  timeValid : Bool
  /-- The reporting interval in force, in seconds. -/
  interval : Nat
  openHours : OpenHours
  localTime : LocalTime
  /-- Milliseconds left of an open occupancy session. -/
  debounceRemaining : Option Nat
  /-- The active sensor can end a sleep. -/
  sensorInterrupt : Bool
deriving DecidableEq, Repr

namespace SleepInputs

/-- Inside open hours; an unsynchronised clock cannot place the device outside. -/
def isOpen (inputs : SleepInputs) : Bool := !inputs.timeValid || inputs.openHours.isOpen inputs.localTime

/-- Seconds until the next opening. -/
def untilOpen (inputs : SleepInputs) : Nat := inputs.openHours.secondsUntilOpen inputs.localTime

end SleepInputs

/-- A length that the platform accepts: at least a second and at most a week. -/
def clampSleep (secs : Nat) : Nat := min (max secs 1) maxSleep

/-- A sleep that is cut to its limits lasts a second at least and no longer than the longest one. -/
theorem clampSleep_bounds (secs : Nat) : 1 ≤ clampSleep secs ∧ clampSleep secs ≤ maxSleep := by
  simp only [clampSleep, maxSleep, secsPerDay]
  omega

/-- A length between a second and a week is accepted as it is. -/
theorem clampSleep_eq {secs : Nat} (hleast : 1 ≤ secs) (hmost : secs ≤ maxSleep) : clampSleep secs = secs := by
  unfold clampSleep
  omega

/-- A length is not made longer than what it may be, if that is a second at least. -/
theorem clampSleep_le {secs most : Nat} (h : secs ≤ most) (hmost : 1 ≤ most) : clampSleep secs ≤ most := by
  unfold clampSleep
  omega

/-- Whole seconds that cover the milliseconds, at least one. -/
def coverSecs (ms : Nat) : Nat := max ((ms + 999) / 1000) 1

/-- What the planner remembers within one boot. -/
structure SleepPlanner where
  /-- A deep sleep did not restart the device. -/
  deepUnreliable : Bool := false
  /-- A deep sleep was planned since the device was last seen open. -/
  deepAttempted : Bool := false
deriving DecidableEq, Repr, Inhabited

namespace SleepPlanner

/-- Deep sleep has not failed in this boot. -/
def isDeepAvailable (planner : SleepPlanner) : Bool := !planner.deepUnreliable

/-- The device was seen open, so the next closed time may have its deep sleep. -/
def observeOpen (planner : SleepPlanner) : SleepPlanner := { planner with deepAttempted := false }

/-- A deep sleep did not restart the device. -/
def markDeepUnreliable (planner : SleepPlanner) : Logged SleepPlanner := do
  note .warn .sleep " Deep sleep resumed without reset, disabled until next boot"
  return { planner with deepUnreliable := true }

/-- A deep sleep until the next opening; only the button may end it before. -/
def deepPlan (inputs : SleepInputs) : Logged SleepPlan := do
  let seconds := clampSleep inputs.untilOpen
  note .debug .sleep s!" Deep sleep planned for {seconds}s"
  return ⟨.deep, seconds, ⟨true, true, false⟩⟩

/-- The length of a timed sleep: to the next boundary, but not past the opening time while closed,
and not past the end of an open occupancy session. -/
def timedSeconds (inputs : SleepInputs) : Nat :=
  let boundary := intervalSleep inputs.now.toNat inputs.interval inputs.timeValid
  let opening := if inputs.isOpen || inputs.untilOpen = 0 then boundary else min boundary inputs.untilOpen
  clampSleep (match inputs.debounceRemaining with
    | some ms => min opening (coverSecs ms)
    | none => opening)

/-- A timed sleep; the sensor may end it while open. -/
def timedPlan (inputs : SleepInputs) : Logged SleepPlan := do
  let seconds := timedSeconds inputs
  let sensorWake := inputs.isOpen && inputs.sensorInterrupt
  note .debug .sleep s!" Timed sleep planned for {seconds}s, sensor wake {sensorWake}"
  return ⟨.timed, seconds, ⟨true, true, sensorWake⟩⟩

/-- A deep sleep may be tried now: the device is closed, and none failed or was tried already. -/
def mayDeepSleep (planner : SleepPlanner) (inputs : SleepInputs) : Bool :=
  !inputs.isOpen && !planner.deepUnreliable && !planner.deepAttempted

/-- Choose the sleep; also what the planner remembers of it. -/
def plan (planner : SleepPlanner) (inputs : SleepInputs) : Logged (SleepPlan × SleepPlanner) := do
  if planner.mayDeepSleep inputs then
    return (← deepPlan inputs, { planner with deepAttempted := true })
  return (← timedPlan inputs, if inputs.isOpen then planner.observeOpen else planner)

/-- A planner that may try a deep sleep plans one until the next opening. -/
theorem value_plan_of_mayDeepSleep {planner : SleepPlanner} {inputs : SleepInputs}
    (h : planner.mayDeepSleep inputs = true) :
    (planner.plan inputs).value =
      (⟨.deep, clampSleep inputs.untilOpen, ⟨true, true, false⟩⟩, { planner with deepAttempted := true }) := by
  rw [plan, if_pos h]
  rfl

/-- Any other planner plans a timed sleep, and takes notice of open hours. -/
theorem value_plan_of_not_mayDeepSleep {planner : SleepPlanner} {inputs : SleepInputs}
    (h : planner.mayDeepSleep inputs = false) :
    (planner.plan inputs).value =
      (⟨.timed, timedSeconds inputs, ⟨true, true, inputs.isOpen && inputs.sensorInterrupt⟩⟩,
        if inputs.isOpen then planner.observeOpen else planner) := by
  rw [plan, if_neg (Bool.eq_false_iff.mp h)]
  rfl

/-- Where a deep sleep is not allowed, the plan is a timed one. -/
theorem strategy_plan_of_not_mayDeepSleep {planner : SleepPlanner} {inputs : SleepInputs}
    (h : planner.mayDeepSleep inputs = false) : (planner.plan inputs).value.1.strategy = .timed := by
  rw [value_plan_of_not_mayDeepSleep h]

/-- Planning has nothing to do with whether deep sleep has failed. -/
@[simp] theorem isDeepAvailable_plan (planner : SleepPlanner) (inputs : SleepInputs) :
    (planner.plan inputs).value.2.isDeepAvailable = planner.isDeepAvailable := by
  cases hmay : planner.mayDeepSleep inputs with
  | true =>
    rw [value_plan_of_mayDeepSleep hmay]
    rfl
  | false =>
    rw [value_plan_of_not_mayDeepSleep hmay]
    dsimp only
    split <;> rfl

end SleepPlanner

end FieldCounter
