import FieldCounter.Controller

/-!
# Dealing with an alert

The error state switches the radio off, consults the recovery ladder once, and carries out the reset
it decides on after a pause. The reset is counted and everything is written to storage before the
call from which there is no return.
-/

namespace FieldCounter

namespace Controller

/-- Count the reset, write the records and reset the device. -/
def recover (resolution : Resolution) : Step Outcome := do
  modifyConfig DeviceConfig.incrementResetCount
  flush
  let resets := (← get).config.value.resetCount
  note .error .control s!" Recovering with {resolution.name}, reset count {resets}"
  match resolution with
  | .softReset =>
    call .softReset
    return .restart
  | .hardPowerCycle =>
    call .hardPowerCycle
    return .restart
  | .noAction => return .moveTo .idle

/-- What the ladder goes by now. -/
def recoveryContext (controller : Controller) (moment : Moment) : RecoveryContext :=
  let config := controller.config.value
  { resetCount := config.resetCount
    mode := config.operatingMode
    timeValid := moment.valid
    lastHookResponse := config.lastHookResponse
    now := moment.now }

/-- Consult the ladder: go back to idling for a while, or decide on a reset. -/
def consultLadder (moment : Moment) : Step Outcome := do
  let controller ← get
  let (resolution, alert) ← resolveAlert controller.status.value.alert (controller.recoveryContext moment)
  modifyStatus fun status => { status with alert }
  if resolution = .noAction then
    modify fun controller => { controller with
      errorRecheckAt := min (moment.uptimeMs.toNat + errorRecheckSecs * 1000) uptimeMax }
    return .moveTo .idle
  note .info .control s!" {resolution.name} in {resetSettleMs / 1000}s"
  modify fun controller => { controller with decision := some (resolution, moment.uptimeMs) }
  return .remain

/-- Switch the radio off, decide, and reset after the pause. -/
def rescuing (moment : Moment) : Step Outcome := do
  match (← get).decision with
  | some (resolution, decided) =>
    if msBetween decided moment.uptimeMs < resetSettleMs then
      return .remain
    recover resolution
  | none =>
    if (← stepDisconnect moment) = .pending then
      return .remain
    consultLadder moment

end Controller

end FieldCounter
