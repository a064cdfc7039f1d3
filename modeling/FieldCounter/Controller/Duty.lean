import FieldCounter.Controller

/-!
# Starting, idling and reporting

The states in which the device goes about its daily work: the first tick of a boot, the wait for
something to do, and the report at the end of a period. A report closes the period whether or not
the queue takes it.
-/

namespace FieldCounter

namespace Controller

/-- Offline for longer than this, or than three intervals if they are longer, is a fault. -/
def prolongedOfflineSecs : Nat := 6 * secsPerHour

/-- The first tick of a boot: note why the device started, read the battery, bring the sensor up in
open hours, and come online where the clock, an update or the button calls for it. -/
def startUp (moment : Moment) : Step Outcome := do
  let reason ← call .resetReason
  let controller ← get
  let resets := controller.config.value.resetCount
  note .info .control
    s!" Boot: reason {reason.name}, resets {resets}, alert {controller.status.value.alert.code}"
  if reason = .powerManagement then
    note .info .control " Power-management reset, webhook staleness not checked this boot"
    modify fun controller => { controller with suppressWebhookAlert := true }
  if reason = .deepSleepWake then
    if ← clearAlert .sleepFault then
      note .info .control " Deep sleep restarted the device, sleep fault cleared"
  checkBattery moment.now
  if (← get).isOpen moment then
    ensureSensor moment.now
  let pressed ← call .takeButtonFlag
  let held ← call .overrideAsserted
  let override := pressed || held
  let updatePending := (← get).status.value.updatePending
  if moment.valid && !updatePending && !override then
    return .moveTo .idle
  note .info .control
    s!" Connecting at boot: time valid {moment.valid}, update pending {updatePending}, override {override}"
  return .moveTo .connecting

/-- The alert on show that the error state is to deal with now. -/
def alertToSupervise (controller : Controller) (moment : Moment) : Option Alert :=
  controller.status.value.alert.current.filter fun alert =>
    alert.isSystemic && controller.alertRaisedThisBoot && controller.errorRecheckAt ≤ moment.uptimeMs.toNat

/-- Nothing keeps the device from sleeping between reports. -/
def mayRest (moment : Moment) : Step Bool := do
  let controller ← get
  if controller.config.value.isConnectedMode || controller.updateWaiting then
    return false
  let online ← call .isConnected
  return (← call (.isSafeToSleep online)) && !controller.counting.inFlight moment.uptimeMs

/-- Wait for something to do: the button, an alert, an update, the end of open hours, a report, a lost
connection, or the chance to sleep. -/
def idle (moment : Moment) : Step Outcome := do
  if ← call .takeButtonFlag then
    note .info .control " Manual override, connecting"
    return .moveTo .connecting
  let controller ← get
  if let some alert := controller.alertToSupervise moment then
    note .info .control s!" Alert {alert.code} needs supervision"
    return .moveTo .error
  if ← pure (!controller.updateDeferred) <&&> (call .isConnected <&&> call .updateOffered) then
    modifyStatus fun status => { status with updatePending := true }
    return .moveTo .firmwareUpdate
  let connectedMode := controller.config.value.isConnectedMode
  if connectedMode && !controller.isOpen moment then
    return .moveTo .sleeping
  if controller.reportDue moment.now then
    return .moveTo .reporting
  if ← pure connectedMode <&&> (not <$> call .isConnected) then
    note .info .control " Offline during open hours, reconnecting"
    return .moveTo .connecting
  if ← mayRest moment then
    return .moveTo .sleeping
  note .debug .control " Idle"
  return .remain

/-- The last report fell on an earlier local day. -/
def isNewDay (controller : Controller) (moment : Moment) : Bool :=
  let lastReport := controller.config.value.lastReport
  moment.valid && lastReport != 0 &&
    (LocalTime.ofUnix lastReport moment.utcOffset).dayNumber < (LocalTime.ofMoment moment).dayNumber

/-- Raise an alert where the device has been offline, or the webhook silent, for too long. -/
def checkConnectionHealth (now : UInt32) : Step Unit := do
  let controller ← get
  let config := controller.config.value
  let offline := secsBetween config.lastConnection now
  let threshold := max prolongedOfflineSecs (min (controller.interval * 3) wordMax)
  if config.operatingMode != .disconnected && config.lastConnection != 0 && threshold < offline then
    note .warn .control s!" Offline for {offline}s (threshold {threshold}s)"
    raiseAlert .prolongedOffline now
  let silent := secsBetween config.lastHookResponse now
  if !controller.suppressWebhookAlert && config.lastHookResponse != 0 &&
      config.lastHookResponse < config.lastConnection && webhookStaleSecs < silent then
    note .warn .control s!" No webhook response for {silent}s"
    raiseAlert .webhookStale now

/-- Credit an open session to the period that ends, and start a new day where one began. -/
def closePeriod (moment : Moment) : Step Unit := do
  let (credited, status) := (← get).status.value.creditOpenOccupancy moment.now
  modifyStatus fun _ => status
  if credited ≠ 0 then
    note .debug .control s!" Occupancy still open, {credited}s credited to this period"
  if (← get).isNewDay moment then
    updateStatus fun status => status.resetDaily

/-- Hand the figures of the period to the outbound queue. -/
def queueReport (now : UInt32) : Step Unit := do
  let controller ← get
  let sample ← controller.sensors.sample
  let report := DataSnapshot.capture controller.status.value sample now
  if ← call (.enqueue report) then
    note .info .control <|
      s!" Report queued: hourly {report.hourlyCount}, daily {report.dailyCount}, " ++
        s!"occupied {report.hourlyOccupancy}s"
  else
    note .warn .control " Report could not be queued"
    raiseAlert .dataPublishFailed now

/-- Where a device that is offline after a report goes next. -/
def afterReportOffline (now : UInt32) : Step Outcome := do
  let controller ← get
  match controller.config.value.operatingMode with
  | .connected => return .moveTo .connecting
  | .disconnected => return .moveTo .idle
  | .lowPower =>
    let interval := controller.interval
    if isBoundaryAligned now.toNat interval || controller.status.value.alert.shows (· == .webhookStale) then
      return .moveTo .connecting
    note .info .control s!" Connection deferred, {now.toNat % interval}s off the {interval}s boundary"
    return .moveTo .idle

/-- Report the period that ends and start the next one. -/
def reporting (moment : Moment) : Step Outcome := do
  closePeriod moment
  checkBattery moment.now
  queueReport moment.now
  modifyStatus RuntimeStatus.resetHourly
  modifyConfig fun config => { config with lastReport := moment.now }
  if moment.valid then
    checkConnectionHealth moment.now
  if ← call .isConnected then
    return .moveTo .idle
  afterReportOffline moment.now

end Controller

end FieldCounter
