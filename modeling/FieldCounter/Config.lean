import FieldCounter.Config.Mode
import FieldCounter.OpenHours
import FieldCounter.Sensor

/-!
# Device settings

The settings that survive a reset. They change only through checked setters, and the values that
decide anything are read through getters that never hand out one outside its range, so a stored
value that went bad does no more harm than its factory value.
-/

namespace FieldCounter

/-- The stored settings, with the few facts about the past that must outlive a reset. -/
structure DeviceConfig where
  countingMode : CountingMode := .counting
  operatingMode : OperatingMode := .connected
  openHour : UInt8 := 6
  closeHour : UInt8 := 22
  /-- Seconds between reports, as stored. -/
  reportingInterval : UInt32 := FieldRange.reportingInterval.factory
  /-- Milliseconds of debounce, as stored. -/
  occupancyDebounce : UInt32 := FieldRange.occupancyDebounce.factory
  /-- Seconds allowed for coming online, as stored. -/
  connectBudget : UInt32 := FieldRange.connectBudget.factory
  /-- Seconds allowed for closing the cloud session, as stored. -/
  cloudDisconnectBudget : UInt32 := FieldRange.cloudDisconnectBudget.factory
  /-- Seconds allowed for switching the modem off, as stored. -/
  modemOffBudget : UInt32 := FieldRange.modemOffBudget.factory
  sensorType : UInt8 := SensorModel.infrared.code
  /-- Resets made by the recovery ladder since the last good connection. -/
  resetCount : UInt8 := 0
  lastReport : UInt32 := 0
  lastConnection : UInt32 := 0
  lastHookResponse : UInt32 := 0
deriving DecidableEq, Repr, Inhabited

/-- The sensor can tell occupancy where the mode asks for it; an unknown sensor is not held against
the mode. -/
def supportsMode (sensorType : UInt8) (mode : CountingMode) : Bool :=
  mode != .occupancy || (SensorModel.lookup? sensorType).all (·.supportsOccupancy)

/-- Refuse a mode that the sensor cannot serve. -/
def checkSupport (field : Field) (sensorType : UInt8) (mode : CountingMode) : Except ConfigError Unit :=
  if supportsMode sensorType mode then .ok () else .error (.noOccupancySupport field sensorType)

namespace DeviceConfig

/-! ## Getters -/

/-- The device is online throughout open hours. -/
def isConnectedMode (config : DeviceConfig) : Bool := config.operatingMode == .connected

/-- The open hours. -/
def openHours (config : DeviceConfig) : OpenHours := ⟨config.openHour.toNat, config.closeHour.toNat⟩

/-- Seconds between reports on a full battery, within range. -/
def reportingSecs (config : DeviceConfig) : UInt32 :=
  FieldRange.reportingInterval.orFactory config.reportingInterval

/-- Milliseconds without a detection that end an occupancy session, within range. -/
def debounceMs (config : DeviceConfig) : UInt32 :=
  FieldRange.occupancyDebounce.orFactory config.occupancyDebounce

/-- Seconds allowed for coming online, within range. -/
def connectSecs (config : DeviceConfig) : UInt32 := FieldRange.connectBudget.orFactory config.connectBudget

/-- Seconds allowed for closing the cloud session, within range. -/
def cloudDisconnectSecs (config : DeviceConfig) : UInt32 :=
  FieldRange.cloudDisconnectBudget.orFactory config.cloudDisconnectBudget

/-- Seconds allowed for switching the modem off, within range. -/
def modemOffSecs (config : DeviceConfig) : UInt32 := FieldRange.modemOffBudget.orFactory config.modemOffBudget

/-! ## Setters -/

/-- Change the counting mode, if the sensor can serve it. -/
def setCountingMode (mode : CountingMode) (config : DeviceConfig) : Except ConfigError DeviceConfig := do
  checkSupport .countingMode config.sensorType mode
  return { config with countingMode := mode }

/-- Change the operating mode. -/
def setOperatingMode (mode : OperatingMode) (config : DeviceConfig) : DeviceConfig :=
  { config with operatingMode := mode }

/-- Change the opening hour. -/
def setOpenHour (hour : UInt8) (config : DeviceConfig) : Except ConfigError DeviceConfig := do
  let hour ← FieldRange.openHour.check hour.toUInt32
  return { config with openHour := hour.toUInt8 }

/-- Change the closing hour. -/
def setCloseHour (hour : UInt8) (config : DeviceConfig) : Except ConfigError DeviceConfig := do
  let hour ← FieldRange.closeHour.check hour.toUInt32
  return { config with closeHour := hour.toUInt8 }

/-- Change the seconds between reports. -/
def setReportingInterval (secs : UInt32) (config : DeviceConfig) : Except ConfigError DeviceConfig := do
  return { config with reportingInterval := ← FieldRange.reportingInterval.check secs }

/-- Change the debounce time. -/
def setOccupancyDebounce (ms : UInt32) (config : DeviceConfig) : Except ConfigError DeviceConfig := do
  return { config with occupancyDebounce := ← FieldRange.occupancyDebounce.check ms }

/-- Change the time allowed for coming online. -/
def setConnectBudget (secs : UInt32) (config : DeviceConfig) : Except ConfigError DeviceConfig := do
  return { config with connectBudget := ← FieldRange.connectBudget.check secs }

/-- Change the time allowed for closing the cloud session. -/
def setCloudDisconnectBudget (secs : UInt32) (config : DeviceConfig) : Except ConfigError DeviceConfig := do
  return { config with cloudDisconnectBudget := ← FieldRange.cloudDisconnectBudget.check secs }

/-- Change the time allowed for switching the modem off. -/
def setModemOffBudget (secs : UInt32) (config : DeviceConfig) : Except ConfigError DeviceConfig := do
  return { config with modemOffBudget := ← FieldRange.modemOffBudget.check secs }

/-- Change the sensor to a known one that can serve `mode`. -/
def setSensorTypeFor (code : UInt8) (mode : CountingMode) (config : DeviceConfig) :
    Except ConfigError DeviceConfig := do
  if !SensorModel.isKnown code then
    throw (.unknownCode .sensorType code.toUInt32)
  checkSupport .sensorType code mode
  return { config with sensorType := code }

/-- Change the sensor to a known one that can serve the present counting mode. -/
def setSensorType (code : UInt8) (config : DeviceConfig) : Except ConfigError DeviceConfig :=
  config.setSensorTypeFor code config.countingMode

/-- Count one more reset. -/
def incrementResetCount (config : DeviceConfig) : DeviceConfig :=
  { config with resetCount := bumpByte config.resetCount }

/-- Forget the resets made so far. -/
def clearResetCount (config : DeviceConfig) : DeviceConfig := { config with resetCount := 0 }

/-! ## Sanity -/

/-- A field that must hold a usable value, with the test for it and the change that repairs it. -/
structure Repair where
  field : Field
  isSane : DeviceConfig → Bool
  mend : DeviceConfig → DeviceConfig

/-- The fields that are repaired when settings are loaded, in order. The budgets are not among them:
their getters fall back on their own. The sensor comes before the mode, which depends on it. -/
def repairs : List Repair :=
  [{ field := .openHour
     isSane := fun config => FieldRange.openHour.contains config.openHour.toUInt32
     mend := fun config => { config with openHour := FieldRange.openHour.factory.toUInt8 } },
   { field := .closeHour
     isSane := fun config => FieldRange.closeHour.contains config.closeHour.toUInt32
     mend := fun config => { config with closeHour := FieldRange.closeHour.factory.toUInt8 } },
   { field := .reportingInterval
     isSane := fun config => FieldRange.reportingInterval.contains config.reportingInterval
     mend := fun config => { config with reportingInterval := FieldRange.reportingInterval.factory } },
   { field := .occupancyDebounce
     isSane := fun config => FieldRange.occupancyDebounce.contains config.occupancyDebounce
     mend := fun config => { config with occupancyDebounce := FieldRange.occupancyDebounce.factory } },
   { field := .sensorType
     isSane := fun config => SensorModel.isKnown config.sensorType
     mend := fun config => { config with sensorType := SensorModel.infrared.code } },
   { field := .countingMode
     isSane := fun config => supportsMode config.sensorType config.countingMode
     mend := fun config => { config with countingMode := .counting } }]

/-- Every field that must be usable is. -/
def isSane (config : DeviceConfig) : Bool := repairs.all (·.isSane config)

/-- Apply one repair where it is needed, remembering the first field repaired. -/
def applyRepair (state : Option Field × DeviceConfig) (repair : Repair) :
    Logged (Option Field × DeviceConfig) := do
  if repair.isSane state.2 then
    return state
  note .warn .config s!" Config field {repair.field.name} out of range, reset to default"
  return (state.1.or repair.field, repair.mend state.2)

/-- Replace unusable values by factory values; also the first field that had one. -/
def sanitize (config : DeviceConfig) : Logged (Option Field × DeviceConfig) :=
  repairs.foldlM applyRepair (none, config)

/-- Nothing is repaired in usable settings. -/
theorem value_sanitize_of_isSane {config : DeviceConfig} (h : config.isSane = true) :
    config.sanitize.value = (none, config) := by
  have keep : ∀ rs : List Repair, rs.all (·.isSane config) = true →
      (rs.foldlM applyRepair (none, config)).value = (none, config) := by
    intro rs hrs
    induction rs with
    | nil => rfl
    | cons r rs ih =>
      rw [List.all_cons, Bool.and_eq_true] at hrs
      simp [List.foldlM_cons, applyRepair, hrs.1, ih hrs.2]
  exact keep repairs h

/-- The factory settings need no repair. -/
theorem isSane_default : (default : DeviceConfig).isSane = true := by decide

end DeviceConfig

end FieldCounter
