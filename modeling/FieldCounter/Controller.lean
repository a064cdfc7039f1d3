import FieldCounter.Counting
import FieldCounter.Online
import FieldCounter.Radio.Connect
import FieldCounter.Radio.Disconnect
import FieldCounter.Record.Persisted
import FieldCounter.Sensor.Manager
import FieldCounter.SleepPlan

/-!
# The controller

One controller lives from boot to reset. It is in one of seven states; every tick counts what was
detected, carries out the one state it is in, which may choose the next, and writes what changed to
storage. What is here is the controller itself, its start from the stored records and the steps that
several states share.
-/

namespace FieldCounter

/-- What the device is about. -/
inductive RunState where
  | initialization
  | error
  | idle
  | sleeping
  | connecting
  | reporting
  | firmwareUpdate
deriving DecidableEq, Repr

/-- The state as written in the log. -/
def RunState.label : RunState → String
  | .initialization => "INITIALIZATION"
  | .error => "ERROR"
  | .idle => "IDLE"
  | .sleeping => "SLEEPING"
  | .connecting => "CONNECTING"
  | .reporting => "REPORTING"
  | .firmwareUpdate => "FIRMWARE_UPDATE"

/-- What a state decides in one tick. -/
inductive Outcome where
  /-- Stay in the state. -/
  | remain
  | moveTo (next : RunState)
  /-- The device restarts; nothing but the stored records goes on. -/
  | restart
deriving DecidableEq, Repr

/-- What is to be done after a tick. -/
inductive Control where
  /-- Tick again. -/
  | proceed
  /-- Boot again from the stored records. -/
  | restart
deriving DecidableEq, Repr

/-- One stay in the firmware update state. -/
structure UpdateVisit where
  /-- Uptime at which the state was entered. -/
  enteredAt : UInt64 := 0
  /-- The remote settings were fetched in this stay. -/
  reloaded : Bool := false
deriving DecidableEq, Repr, Inhabited

/-- Everything the device remembers between two ticks. -/
structure Controller where
  runState : RunState := .initialization
  /-- The state carried out in the last tick. -/
  previous : Option RunState := none
  config : Persisted DeviceConfig
  status : Persisted RuntimeStatus
  counting : CountingEngine := {}
  sensors : SensorManager := {}
  planner : SleepPlanner := {}
  connect : ConnectSession := {}
  disconnect : DisconnectSession := {}
  update : UpdateVisit := {}
  /-- The reset decided on in this stay in the error state, and the uptime of the decision. -/
  decision : Option (Resolution × UInt64) := none
  /-- The actions after a connection were done in this connect session. -/
  actedOnline : Bool := false
  /-- This connect session is to deliver a report that waits in the queue. -/
  connectForReport : Bool := false
  /-- A connection was made at least once since boot. -/
  connectedOnce : Bool := false
  /-- Webhook staleness is not judged in this boot. -/
  suppressWebhookAlert : Bool := false
  /-- The alert slot as it was at boot. -/
  inheritedAlert : AlertSlot
  /-- Uptime, in milliseconds, before which idling does not turn to the error state. -/
  errorRecheckAt : Nat := 0
  /-- A firmware update was given up; it is tried again after the next restart. -/
  updateDeferred : Bool := false
deriving DecidableEq, Repr

namespace Controller

/-- A controller that starts with the given records. -/
def ofRecords (config : Persisted DeviceConfig) (status : Persisted RuntimeStatus) : Controller :=
  { config, status, inheritedAlert := status.value.alert }

/-- A controller that starts with values of which nothing is known to be stored. -/
def new (config : DeviceConfig) (status : RuntimeStatus) : Controller :=
  ofRecords { value := config } { value := status }

/-- Start from the stored records. -/
def boot : Program Controller := do
  let (config, configOutcome) ← Persisted.load DeviceConfig
  let (status, statusOutcome) ← Persisted.load RuntimeStatus
  if let .reset reason := configOutcome then
    note .info .control s!" Boot with default config ({reason.message})"
  if let .reset reason := statusOutcome then
    note .info .control s!" Boot with default status ({reason.message})"
  return ofRecords config status

/-- The values of both records. -/
def records (controller : Controller) : Records := ⟨controller.config.value, controller.status.value⟩

/-- Put new values into both records. -/
def setRecords (controller : Controller) (records : Records) : Controller :=
  { controller with
    config := { controller.config with value := records.config }
    status := { controller.status with value := records.status } }

/-- The reporting interval in force. -/
def interval (controller : Controller) : Nat :=
  effectiveInterval controller.config.value.reportingSecs controller.status.value.batteryTier

/-- Inside open hours. -/
def isOpen (controller : Controller) (moment : Moment) : Bool :=
  moment.inOpenHours controller.config.value.openHours

/-- A firmware update waits and was not given up in this boot. -/
def updateWaiting (controller : Controller) : Bool :=
  controller.status.value.updatePending && !controller.updateDeferred

/-- The alert on show is not the one from before the boot. -/
def alertRaisedThisBoot (controller : Controller) : Bool :=
  controller.status.value.alert != controller.inheritedAlert

/-- The time for a report has come. -/
def reportDue (controller : Controller) (now : UInt32) : Bool :=
  controller.interval ≤ secsBetween controller.config.value.lastReport now

end Controller

/-- A step of the controller: a device program that changes what the controller remembers. -/
abbrev Step := StateT Controller Program

namespace Controller

/-- Change the settings. -/
def modifyConfig (change : DeviceConfig → DeviceConfig) : Step Unit :=
  modify fun controller => { controller with
    config := { controller.config with value := change controller.config.value } }

/-- Change the status. -/
def modifyStatus (change : RuntimeStatus → RuntimeStatus) : Step Unit :=
  modify fun controller => { controller with
    status := { controller.status with value := change controller.status.value } }

/-- Replace the status by the result of an operation on it. -/
def updateStatus (operation : RuntimeStatus → Logged RuntimeStatus) : Step Unit := do
  let status ← operation (← get).status.value
  modifyStatus fun _ => status

/-- Raise an alert. -/
def raiseAlert (alert : Alert) (now : UInt32) : Step Unit :=
  updateStatus fun status => status.raiseAlert alert now

/-- Clear the given alert if it is the one on show; whether it was. -/
def clearAlert (alert : Alert) : Step Bool := do
  let shown := (← get).status.value.alert.shows (· == alert)
  updateStatus fun status => status.clearAlertIf (· == alert)
  return shown

/-- Carry out an operation on both records. -/
def onRecords {α : Type} (operation : Records → Program (α × Records)) : Step α := do
  let (result, records) ← operation (← get).records
  modify fun controller => controller.setRecords records
  return result

/-- Carry out an operation on the sensor manager. -/
def onSensors {α : Type} (operation : SensorManager → Program (α × SensorManager)) : Step α := do
  let (result, sensors) ← operation (← get).sensors
  modify fun controller => { controller with sensors }
  return result

/-- Carry out an operation on the counting and the status it counts into. -/
def onCounting {α : Type}
    (operation : CountingEngine → RuntimeStatus → Logged (α × CountingEngine × RuntimeStatus)) : Step α := do
  let controller ← get
  let (result, counting, status) ← operation controller.counting controller.status.value
  modify fun controller => { controller with counting }
  modifyStatus fun _ => status
  return result

/-- Power the sensor down. -/
def powerDownSensor : Step Unit :=
  onSensors fun sensors => (fun sensors => ((), sensors)) <$> sensors.powerDown

/-- Write what changed to storage; a failure with one record does not keep the other from being
written. -/
def flush : Step Unit := do
  let (written, config) ← (← get).config.flush
  modify fun controller => { controller with config }
  if let .error error := written then
    note .error .control s!" Config flush failed: {error.message}"
  let (written, status) ← (← get).status.flush
  modify fun controller => { controller with status }
  if let .error error := written then
    note .error .control s!" Status flush failed: {error.message}"

/-- Read the battery and act on the reading. -/
def checkBattery (now : UInt32) : Step Unit := do
  let reading ← call .readBattery
  updateStatus fun status => status.updateBattery reading now

/-- Have the configured sensor powered and ready, raising an alert where it is not. -/
def ensureSensor (now : UInt32) : Step Unit := do
  let sensorType := (← get).config.value.sensorType
  if ← onSensors fun sensors => sensors.powerUp sensorType then
    return
  note .warn .control s!" Sensor type {sensorType} unavailable"
  raiseAlert .sensorFault now

/-- One look at the radio on behalf of the connect session. -/
def stepConnect (budget : UInt32) (moment : Moment) : Step ConnectProgress := do
  let (progress, connect) ← (← get).connect.step budget moment.uptimeMs
  modify fun controller => { controller with connect }
  return progress

/-- One look at the radio on behalf of the disconnect session. -/
def stepDisconnect (moment : Moment) : Step DisconnectProgress := do
  let controller ← get
  let config := controller.config.value
  let (progress, disconnect) ←
    controller.disconnect.step config.cloudDisconnectSecs config.modemOffSecs moment.uptimeMs
  modify fun controller => { controller with disconnect }
  return progress

end Controller

end FieldCounter
