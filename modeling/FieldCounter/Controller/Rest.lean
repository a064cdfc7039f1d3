import FieldCounter.Controller

/-!
# Sleeping and waking

The radio is switched off first, in its own time. Then the planned sleep is carried out: before every
sleep the records are written, because nothing else may be left afterwards. A deep sleep that comes
back without a restart is a fault, and a timed sleep follows it in the same tick.
-/

namespace FieldCounter

namespace Controller

/-- Everything that the next sleep is sized by. -/
def sleepInputs (moment : Moment) : Step SleepInputs := do
  let controller ← get
  let config := controller.config.value
  return {
    now := moment.now
    timeValid := moment.valid
    interval := controller.interval
    openHours := config.openHours
    localTime := LocalTime.ofMoment moment
    debounceRemaining := controller.counting.debounceRemaining config.debounceMs controller.status.value
      moment.uptimeMs
    sensorInterrupt := ← controller.sensors.usesInterrupt }

/-- Account for what ended the sleep: a press is taken, and the detection that woke the device counts
once, whether or not it left its mark as well. -/
def accountForWake (cause : WakeCause) (moment : Moment) : Step Unit := do
  match cause with
  | .manual => discard (call .takeButtonFlag)
  | .sensor =>
    discard (call .takeSensorFlag)
    let mode := (← get).config.value.countingMode
    discard (onCounting fun counting status => counting.recordEvent mode status moment)
  | .timer => return

/-- Where the device goes after waking. -/
def stateAfterWake (controller : Controller) (cause : WakeCause) (moment : Moment) (wasOpen : Bool) :
    RunState :=
  let connectedMode := controller.config.value.isConnectedMode
  let scheduled := cause = .timer && moment.valid && isBoundaryAligned moment.now.toNat controller.interval
  if cause = .manual then .connecting
  else if connectedMode && wasOpen then .connecting
  else if scheduled || controller.reportDue moment.now then .reporting
  else if cause = .sensor && !connectedMode then .sleeping
  else .idle

/-- Wake up: bring the sensor up in open hours, account for the cause and choose the next state. -/
def wakeUp (pins : WakePins) : Step Outcome := do
  let moment ← call .readClock
  let cause := WakeCause.ofPins pins
  let wasOpen := (← get).isOpen moment
  note .info .control s!" Woke by {cause.name}"
  if wasOpen then
    modify fun controller => { controller with planner := controller.planner.observeOpen }
    ensureSensor moment.now
  accountForWake cause moment
  return .moveTo ((← get).stateAfterWake cause moment wasOpen)

/-- Carry out a timed sleep. -/
def timedSleep (plan : SleepPlan) : Step Outcome := do
  if !plan.wake.sensor then
    powerDownSensor
  flush
  note .info .control s!" Timed sleep for {plan.seconds}s"
  wakeUp (← call (.timedSleep plan.seconds plan.wake))

/-- A deep sleep came back: raise the fault, and sleep in place. -/
def afterFailedDeepSleep : Step Outcome := do
  let moment ← call .readClock
  raiseAlert .sleepFault moment.now
  let planner ← (← get).planner.markDeepUnreliable
  modify fun controller => { controller with planner }
  let plan ← SleepPlanner.timedPlan (← sleepInputs moment)
  timedSleep plan

/-- Carry out a deep sleep. -/
def deepSleep (plan : SleepPlan) (now : UInt32) : Step Outcome := do
  powerDownSensor
  discard (onCounting fun counting status => counting.closeOccupancy status now)
  flush
  note .info .control s!" Deep sleep for {plan.seconds}s"
  match ← call (.deepSleep plan.seconds plan.wake) with
  | .restarting => return .restart
  | .resumed => afterFailedDeepSleep

/-- Plan the next sleep and carry it out. -/
def sleepNow (moment : Moment) : Step Outcome := do
  let inputs ← sleepInputs moment
  let (plan, planner) ← (← get).planner.plan inputs
  modify fun controller => { controller with planner }
  match plan.strategy with
  | .deep => deepSleep plan moment.now
  | .timed => timedSleep plan

/-- Switch the radio off, then sleep. In connected mode open hours end the stay, and a radio that
stays up is a fault; in the other modes the device sleeps all the same. -/
def sleeping (moment : Moment) : Step Outcome := do
  let connectedMode := (← get).config.value.isConnectedMode
  if connectedMode && (← get).isOpen moment then
    note .info .control " Open hours started, not sleeping"
    return .moveTo .idle
  if ← call .isConnected <&&> (not <$> call (.isSafeToSleep true)) then
    let pending ← call .pendingCount
    note .debug .control s!" Waiting for {pending} queued events before sleep"
    return .remain
  match ← stepDisconnect moment with
  | .pending => return .remain
  | .timedOut secs =>
    if connectedMode then
      note .warn .control s!" Radio still up after {secs}s"
      raiseAlert .modemFault moment.now
      return .moveTo .error
    note .warn .control s!" Radio still up after {secs}s, sleeping anyway"
    sleepNow moment
  | .done =>
    if ← clearAlert .modemFault then
      note .info .control " Radio powered down, modem fault cleared"
    sleepNow moment

end Controller

end FieldCounter
