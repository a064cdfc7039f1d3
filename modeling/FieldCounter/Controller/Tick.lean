import FieldCounter.Controller.Duty
import FieldCounter.Controller.Link
import FieldCounter.Controller.Rescue
import FieldCounter.Controller.Rest

/-!
# One tick

Detections are counted, a state that was not carried out in the last tick is entered, the state is
carried out, and the records are written if they changed.
-/

namespace FieldCounter

namespace Controller

/-- Take the mark of the sensor interrupt, or poll the sensor, and account for a detection. -/
def serviceCounting (moment : Moment) : Step Unit := do
  let marked ← call .takeSensorFlag
  let polled ← (← get).sensors.poll
  let config := (← get).config.value
  discard (onCounting fun counting status =>
    counting.service (marked || polled) config.countingMode config.debounceMs status moment)

/-- What is set up on entering the present state. -/
def prepare (controller : Controller) (uptimeMs : UInt64) : Controller :=
  match controller.runState with
  | .connecting => { controller with
      connect := {}
      actedOnline := false
      connectForReport := controller.previous = some .reporting }
  | .firmwareUpdate => { controller with connect := {}, update := { enteredAt := uptimeMs } }
  | .sleeping => { controller with disconnect := {} }
  | .error => { controller with disconnect := {}, decision := none }
  | .initialization | .idle | .reporting => controller

/-- Enter the present state, unless it was carried out in the last tick already. -/
def enterState (moment : Moment) : Step Unit := do
  let controller ← get
  if controller.previous = some controller.runState then
    return
  match controller.previous with
  | some previous => note .info .control s!" {previous.label} -> {controller.runState.label}"
  | none => note .info .control s!" Boot -> {controller.runState.label}"
  set { controller.prepare moment.uptimeMs with previous := some controller.runState }

/-- Carry out the present state. -/
def carryOut (moment : Moment) : Step Outcome := do
  match (← get).runState with
  | .initialization => startUp moment
  | .error => rescuing moment
  | .idle => idle moment
  | .sleeping => sleeping moment
  | .connecting => connecting moment
  | .reporting => reporting moment
  | .firmwareUpdate => updating moment

/-- Follow what the state decided. -/
def follow (outcome : Outcome) : Step Control := do
  match outcome with
  | .remain => return .proceed
  | .moveTo next =>
    modify fun controller => { controller with runState := next }
    return .proceed
  | .restart => return .restart

/-- One tick. The clock is read once at its beginning and the reading stands for every later look at the
clock, so time is taken to stand still in a tick but for its sleeps, after which it is read again. -/
def tick : Step Control := do
  let moment ← call .readClock
  serviceCounting moment
  enterState moment
  let control ← follow (← carryOut moment)
  flush
  return control

end Controller

end FieldCounter
