import FieldCounter.Config

/-!
# Remote settings

The operator may ask for any selection of settings at once. They are applied field by field: each
is stored or refused on its own, and the report counts the stored ones and lists the refusals in
order. The sensor goes first, judged by the counting mode that is asked for beside it, so a sensor
and a mode that fit each other can arrive together.
-/

namespace FieldCounter

/-- The modes asked for, by code. -/
structure ModeRequest where
  countingMode : Option UInt8 := none
  operatingMode : Option UInt8 := none
deriving DecidableEq, Repr

/-- The hours, interval and budgets asked for. -/
structure TimingRequest where
  openHour : Option UInt8 := none
  closeHour : Option UInt8 := none
  reportingInterval : Option UInt32 := none
  connectBudget : Option UInt32 := none
  cloudDisconnectBudget : Option UInt32 := none
  modemOffBudget : Option UInt32 := none
deriving DecidableEq, Repr

/-- The sensor and debounce time asked for. -/
structure SensorRequest where
  sensorType : Option UInt8 := none
  occupancyDebounce : Option UInt32 := none
deriving DecidableEq, Repr

/-- A charge to be used in place of the measured one, or the end of such a use. -/
structure PowerRequest where
  testSocOverride : Option UInt8 := none
  clearTestSocOverride : Option Bool := none
deriving DecidableEq, Repr

/-- Everything the operator asks for; a section that is left out asks for nothing. -/
structure RemoteConfig where
  modes : ModeRequest := {}
  timing : TimingRequest := {}
  sensor : SensorRequest := {}
  power : PowerRequest := {}
deriving DecidableEq, Repr

/-- How many refusals a report remembers. -/
def maxRejected : Nat := 12

/-- What became of the settings asked for. -/
structure ApplyReport where
  /-- Settings stored, counted up to 255. -/
  applied : UInt8 := 0
  /-- The first refusals, in order. -/
  rejected : List ConfigError := []
deriving DecidableEq, Repr, Inhabited

namespace ApplyReport

/-- Nothing was refused. -/
def isClean (report : ApplyReport) : Bool := report.rejected.isEmpty

/-- Count one stored setting. -/
def accept (report : ApplyReport) : ApplyReport := { report with applied := bumpByte report.applied }

/-- Remember one refusal while there is room. -/
def reject (report : ApplyReport) (error : ConfigError) : Logged ApplyReport := do
  note .warn .config s!" Rejected remote value: {error.message}"
  return if report.rejected.length < maxRejected then
    { report with rejected := report.rejected ++ [error] }
  else report

/-- Count a setting or remember its refusal; the value stored, if it was. -/
def record {α : Type} (report : ApplyReport) (outcome : Except ConfigError α) :
    Logged (Option α × ApplyReport) := do
  match outcome with
  | .ok stored => return (some stored, report.accept)
  | .error error => return (none, ← report.reject error)

end ApplyReport

/-- One setting asked for: the settings with it stored, or the reason why not. -/
abbrev Change := DeviceConfig → Except ConfigError DeviceConfig

namespace RemoteConfig

/-- The counting mode the device is to have: the one asked for if its code is known. -/
def targetMode (remote : RemoteConfig) (config : DeviceConfig) : CountingMode :=
  match remote.modes.countingMode with
  | some code => (CountingMode.ofCode code.toUInt32).toOption.getD config.countingMode
  | none => config.countingMode

/-- Change the counting mode to the one with the given code. -/
def changeCountingMode (code : UInt8) : Change := fun config => do
  config.setCountingMode (← CountingMode.ofCode code.toUInt32)

/-- Change the operating mode to the one with the given code. -/
def changeOperatingMode (code : UInt8) : Change := fun config => do
  return config.setOperatingMode (← OperatingMode.ofCode code.toUInt32)

/-- The settings asked for, in the order in which they are applied. -/
def changes (remote : RemoteConfig) : List Change :=
  [remote.sensor.sensorType.map fun code config => config.setSensorTypeFor code (remote.targetMode config),
   remote.sensor.occupancyDebounce.map fun ms => DeviceConfig.setOccupancyDebounce ms,
   remote.modes.countingMode.map changeCountingMode,
   remote.modes.operatingMode.map changeOperatingMode,
   remote.timing.openHour.map fun hour => DeviceConfig.setOpenHour hour,
   remote.timing.closeHour.map fun hour => DeviceConfig.setCloseHour hour,
   remote.timing.reportingInterval.map fun secs => DeviceConfig.setReportingInterval secs,
   remote.timing.connectBudget.map fun secs => DeviceConfig.setConnectBudget secs,
   remote.timing.cloudDisconnectBudget.map fun secs => DeviceConfig.setCloudDisconnectBudget secs,
   remote.timing.modemOffBudget.map fun secs => DeviceConfig.setModemOffBudget secs].filterMap id

end RemoteConfig

namespace DeviceConfig

/-- Apply one change, or leave the settings as they are and report why. -/
def applyChange (state : DeviceConfig × ApplyReport) (change : Change) :
    Logged (DeviceConfig × ApplyReport) := do
  let (stored, report) ← state.2.record (change state.1)
  return (stored.getD state.1, report)

/-- Apply every setting asked for, one by one. -/
def applyRemote (config : DeviceConfig) (remote : RemoteConfig) : Logged (DeviceConfig × ApplyReport) := do
  let (config, report) ← remote.changes.foldlM applyChange (config, {})
  if report.isClean then
    note .info .config s!" Remote config applied, {report.applied} fields"
  else
    note .warn .config
      s!" Remote config applied {report.applied} fields, rejected {report.rejected.length}"
  return (config, report)

end DeviceConfig

end FieldCounter
