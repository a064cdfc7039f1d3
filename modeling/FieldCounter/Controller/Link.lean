import FieldCounter.Controller

/-!
# Connecting and updating

The states that use a connect session: coming online, with the actions that follow a connection, and
waiting online for a firmware update, which is given up after a while or when the button is pressed.
-/

namespace FieldCounter

namespace Controller

/-- How long the device waits for a firmware update, in milliseconds. -/
def updateCeilingMs : Nat := 20 * 60 * 1000

/-- The summary of the actions after a connection, as a line for the log. -/
def onlineText (status : RuntimeStatus) (summary : OnlineSummary) : String :=
  let config := match summary.config with
    | none => "not loaded"
    | some report => if report.isClean then "applied" else "partially applied"
  let data := match summary.dataPublished with
    | none => "skipped"
    | some sent => if sent then "published" else "failed"
  let health := if summary.statusPublished then "published" else "failed"
  s!" Connected: signal {status.signalQuality}, battery {status.batterySoc}%, config {config}, data {data}, " ++
    s!"status {health}, {summary.pendingEvents} events queued"

/-- The actions after a connection, at most once in a connect session. -/
def afterConnect (moment : Moment) : Step Unit := do
  let controller ← get
  if controller.actedOnline then
    return
  let healthy ← controller.sensors.isHealthy
  let summary ← onRecords fun records =>
    actOnline records healthy (!controller.connectForReport) moment.now
  modify fun controller => { controller with actedOnline := true }
  note .info .control (onlineText (← get).status.value summary)
  if !controller.connectedOnce then
    note .info .control " First connection this boot"
    modify fun controller => { controller with connectedOnce := true }

/-- Online: carry out the actions that follow, and wait for an update if there is one. -/
def online (moment : Moment) : Step Outcome := do
  afterConnect moment
  if ← call .updateOffered then
    modifyStatus fun status => { status with updatePending := true }
  return .moveTo (if (← get).updateWaiting then .firmwareUpdate else .idle)

/-- Come online, or give up and sleep once the budget is used up. -/
def connecting (moment : Moment) : Step Outcome := do
  match ← stepConnect (← get).config.value.connectSecs moment with
  | .pending => return .remain
  | .connected => online moment
  | .justConnected secs =>
    note .info .control s!" Connected after {secs}s"
    online moment
  | .timedOut secs =>
    note .warn .control s!" Connect timed out after {secs}s, radio off"
    raiseAlert .connectTimeout moment.now
    forceRadioOff
    return .moveTo .sleeping

/-- Fetch the remote settings, once in a stay in the update state. -/
def reloadOnce (now : UInt32) : Step Unit := do
  if (← get).update.reloaded then
    return
  modify fun controller => { controller with update := { controller.update with reloaded := true } }
  discard (onRecords fun records => records.reloadRemote now)

/-- Give the update up until the next restart. -/
def deferUpdate : Step Outcome := do
  modify fun controller => { controller with updateDeferred := true }
  return .moveTo .idle

/-- Wait online until no update is offered any more. -/
def updating (moment : Moment) : Step Outcome := do
  if ← call .takeButtonFlag then
    note .info .control " Manual override, leaving firmware update"
    return ← deferUpdate
  let waited := msBetween (← get).update.enteredAt moment.uptimeMs
  if updateCeilingMs < waited then
    note .warn .control s!" Firmware update not finished after {waited / 1000}s, giving up for now"
    return ← deferUpdate
  if (← stepConnect (wordOfNat (updateCeilingMs / 1000)) moment) = .pending then
    return .remain
  if !(← call .isConnected) then
    return .remain
  reloadOnce moment.now
  if ← call .updateOffered then
    return .remain
  note .info .control " No firmware update pending"
  modifyStatus fun status => { status with updatePending := false }
  return .moveTo .idle

end Controller

end FieldCounter
