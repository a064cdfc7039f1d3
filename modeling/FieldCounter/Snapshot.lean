import FieldCounter.Status

/-!
# Snapshots

What the device tells the outside: the figures of one reporting period, and its own health.
-/

namespace FieldCounter

/-- One reading of the sensor itself. -/
structure SensorSample where
  presence : Bool
  /-- The raw measurement, in whatever unit the sensor has. -/
  raw : Int32
  /-- Signal quality, up to 100. -/
  quality : UInt8
deriving DecidableEq, Repr

/-- The figures of one reporting period. -/
structure DataSnapshot where
  timestamp : UInt32
  hourlyCount : UInt32
  dailyCount : UInt32
  hourlyOccupancy : UInt32
  dailyOccupancy : UInt32
  occupied : Bool
  batterySoc : UInt8
  temperature : Int16
  alertCode : Int8
  sensorRaw : Option Int32
deriving DecidableEq, Repr

/-- The figures of the running period, with a sample of the sensor if one was taken. -/
def DataSnapshot.capture (status : RuntimeStatus) (sample : Option SensorSample) (now : UInt32) :
    DataSnapshot :=
  { timestamp := now
    hourlyCount := status.hourlyCount
    dailyCount := status.dailyCount
    hourlyOccupancy := status.hourlyOccupancy
    dailyOccupancy := status.dailyOccupancy
    occupied := status.occupied
    batterySoc := status.batterySoc
    temperature := status.temperature
    alertCode := status.alert.code
    sensorRaw := sample.map (·.raw) }

/-- The health of the device as the operator sees it. -/
structure StatusSnapshot where
  timestamp : UInt32
  operatingMode : OperatingMode
  countingMode : CountingMode
  batteryTier : BatteryTier
  batterySoc : UInt8
  chargeState : ChargeState
  temperature : Int16
  signalQuality : UInt8
  alertCode : Int8
  alertTimestamp : UInt32
  resetCount : UInt8
  pendingEvents : UInt32
  sensorType : UInt8
  sensorHealthy : Bool
deriving DecidableEq, Repr

/-- The health of the device now. -/
def StatusSnapshot.capture (config : DeviceConfig) (status : RuntimeStatus) (pendingEvents : UInt32)
    (sensorHealthy : Bool) (now : UInt32) : StatusSnapshot :=
  { timestamp := now
    operatingMode := config.operatingMode
    countingMode := config.countingMode
    batteryTier := status.batteryTier
    batterySoc := status.batterySoc
    chargeState := status.chargeState
    temperature := status.temperature
    signalQuality := status.signalQuality
    alertCode := status.alert.code
    alertTimestamp := status.alert.timestamp
    resetCount := config.resetCount
    pendingEvents
    sensorType := config.sensorType
    sensorHealthy }

end FieldCounter
