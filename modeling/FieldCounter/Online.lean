import FieldCounter.Device.Program
import FieldCounter.Recovery

/-!
# What is done once online

As soon as a connection is first seen, the battery is read, the remote settings are fetched and
applied, and the figures and the health of the device are published; no failure of one of these
keeps the next from being tried. A connection that leaves no systemic alert on show clears the count
of resets.
-/

namespace FieldCounter

/-- The values of both records. -/
structure Records where
  config : DeviceConfig
  status : RuntimeStatus
deriving DecidableEq, Repr

namespace Records

/-- Raise an alert in the status. -/
def raiseAlert (records : Records) (alert : Alert) (now : UInt32) : Logged Records := do
  return { records with status := ← records.status.raiseAlert alert now }

/-- Fetch the remote settings and apply them; a failed fetch or a refused setting raises an alert. -/
def reloadRemote (records : Records) (now : UInt32) : Program (Option ApplyReport × Records) := do
  let some remote ← call .loadRemote
    | note .warn .radio " Remote config reload failed"
      return (none, ← records.raiseAlert .configApplyFailed now)
  let (config, report) ← records.config.applyRemote remote
  let (status, report) ← records.status.applyRemotePower remote.power report
  let records : Records := { config, status }
  if report.isClean then
    return (some report, records)
  return (some report, ← records.raiseAlert .configApplyFailed now)

/-- Publish the figures of the running period; whether they went out. -/
def publishData (records : Records) (now : UInt32) : Program (Bool × Records) := do
  if ← call (.publishData (.capture records.status none now)) then
    return (true, records)
  note .warn .radio " Data snapshot publish failed"
  return (false, ← records.raiseAlert .dataPublishFailed now)

/-- Publish the health of the device; whether it went out. -/
def publishStatus (records : Records) (pendingEvents : UInt32) (sensorHealthy : Bool) (now : UInt32) :
    Program (Bool × Records) := do
  let snapshot := StatusSnapshot.capture records.config records.status pendingEvents sensorHealthy now
  if ← call (.publishStatus snapshot) then
    return (true, records)
  note .warn .radio " Status snapshot publish failed"
  return (false, ← records.raiseAlert .statusPublishFailed now)

/-- Take over the time of the last webhook answer; a fresh one clears the staleness alert. -/
def noteHookResponse (records : Records) (now : UInt32) : Program Records := do
  let some answered ← call .lastHookResponse
    | return records
  let records := { records with config := { records.config with lastHookResponse := answered } }
  if webhookStaleSecs < secsBetween answered now then
    return records
  return { records with status := ← records.status.clearAlertIf (· == .webhookStale) }

/-- Clear the count of resets unless a systemic alert is still on show. -/
def settleResetCount (records : Records) : Logged Records := do
  match records.status.alert.current.filter Alert.isSystemic with
  | none => return { records with config := records.config.clearResetCount }
  | some alert =>
    note .info .radio s!" Alert {alert.code} still active, reset count {records.config.resetCount} kept"
    return records

end Records

/-- What came of the actions after a connection. -/
structure OnlineSummary where
  /-- The report on the remote settings, if they could be fetched. -/
  config : Option ApplyReport
  /-- Whether the figures went out, if they were to be published. -/
  dataPublished : Option Bool
  statusPublished : Bool
  pendingEvents : UInt32
deriving DecidableEq, Repr

/-- The actions after a connection was first seen. The figures are not published where the connection
was made to deliver a report that already waits in the queue. -/
def actOnline (records : Records) (sensorHealthy publishData : Bool) (now : UInt32) :
    Program (OnlineSummary × Records) := do
  let status ← records.status.clearAlertIf Alert.isConnectivity
  let status ← status.updateBattery (← call .readBattery) now
  let status := { status with signalQuality := ← call .signalQuality }
  let (config, records) ← { records with status }.reloadRemote now
  let (dataPublished, records) ←
    if publishData then (fun (sent, rest) => (some sent, rest)) <$> records.publishData now
    else pure (none, records)
  let pendingEvents ← call .pendingCount
  let (statusPublished, records) ← records.publishStatus pendingEvents sensorHealthy now
  let records ← records.noteHookResponse now
  let records ← { records with config := { records.config with lastConnection := now } }.settleResetCount
  return ({ config, dataPublished, statusPublished, pendingEvents }, records)

end FieldCounter
