import FieldCounter.Record.Error
import FieldCounter.Snapshot

/-!
# Device calls

Everything the control core asks of the hardware around it, each call with the type of its answer.
Nothing is said here about which answers come: a law about the core holds for all of them, or for
those that some assumption about the devices leaves.
-/

namespace FieldCounter

/-- Why the device started. -/
inductive ResetReason where
  | powerOn
  | deepSleepWake
  | softReset
  /-- The power chip cut the supply and restored it. -/
  | powerManagement
  | other
deriving DecidableEq, Repr

/-- Every reason. -/
def ResetReason.all : List ResetReason := [.powerOn, .deepSleepWake, .softReset, .powerManagement, .other]

/-- The name of the reason. -/
def ResetReason.name : ResetReason → String
  | .powerOn => "PowerOn"
  | .deepSleepWake => "DeepSleepWake"
  | .softReset => "SoftReset"
  | .powerManagement => "PowerManagement"
  | .other => "Other"

/-- What may end a sleep. -/
structure WakeSources where
  timer : Bool
  manual : Bool
  sensor : Bool
deriving DecidableEq, Repr

/-- The pins that were found set after a sleep; none of them means the timer. -/
structure WakePins where
  manual : Bool
  sensor : Bool
deriving DecidableEq, Repr, Inhabited

/-- What came of a deep sleep. -/
inductive DeepSleepOutcome where
  /-- The device slept and starts anew. -/
  | restarting
  /-- Execution went on without a restart. -/
  | resumed
deriving DecidableEq, Repr

/-- One call to a device. -/
inductive Call where
  /-- Read the clocks. -/
  | readClock
  /-- A cloud session is up. -/
  | isConnected
  /-- The cloud session is closed. -/
  | isDisconnected
  /-- The modem is off. -/
  | isModemOff
  /-- Signal quality, up to 100. -/
  | signalQuality
  /-- A firmware update waits for this device. -/
  | updateOffered
  /-- Start to come online. -/
  | requestConnect
  /-- Start to close the cloud session. -/
  | requestDisconnect
  /-- Start to switch the modem off. -/
  | requestModemOff
  /-- Fetch the remote settings; none when that failed. -/
  | loadRemote
  /-- Publish the health of the device; whether it went out. -/
  | publishStatus (snapshot : StatusSnapshot)
  /-- Publish the figures of a period; whether they went out. -/
  | publishData (snapshot : DataSnapshot)
  /-- Hand a report to the outbound queue; whether it was taken. -/
  | enqueue (report : DataSnapshot)
  /-- The queue has nothing that a sleep would harm. -/
  | isSafeToSleep (online : Bool)
  /-- How many reports wait in the queue. -/
  | pendingCount
  /-- When the webhook last answered. -/
  | lastHookResponse
  /-- Read the fuel gauge. -/
  | readBattery
  /-- Sleep in a way that forgets everything but the stored records. -/
  | deepSleep (secs : Nat) (wake : WakeSources)
  /-- Sleep and go on in place. -/
  | timedSleep (secs : Nat) (wake : WakeSources)
  /-- Restart the processor. -/
  | softReset
  /-- Cut the supply and restore it. -/
  | hardPowerCycle
  /-- Why the device last started. -/
  | resetReason
  /-- The manual override button is held. -/
  | overrideAsserted
  /-- Take the mark left by the sensor interrupt. -/
  | takeSensorFlag
  /-- Take the mark left by the button interrupt. -/
  | takeButtonFlag
  /-- Read the stored bytes of a record. -/
  | readRecord (key : RecordKey)
  /-- Store the bytes of a record. -/
  | writeRecord (key : RecordKey) (bytes : List UInt8)
  /-- Replace the sensor driver by a new one for the model. -/
  | buildSensor (model : SensorModel)
  /-- Bring the sensor up; whether it responded. -/
  | initSensor
  /-- Look for a detection; whether there was one. -/
  | pollSensor
  /-- Take a sample. -/
  | readSensor
  /-- Power the sensor down. -/
  | sleepSensor
  /-- Power the sensor back up; whether it came back by itself. -/
  | wakeSensor
  /-- The driver delivers detections as interrupts. -/
  | sensorUsesInterrupt
  /-- The sensor is ready. -/
  | isSensorReady
  /-- The sensor is healthy. -/
  | isSensorHealthy
deriving DecidableEq, Repr

/-- The type of the answer to a call. -/
abbrev Call.Answer : Call → Type
  | .readClock => Moment
  | .isConnected | .isDisconnected | .isModemOff | .updateOffered => Bool
  | .signalQuality => UInt8
  | .requestConnect | .requestDisconnect | .requestModemOff => Unit
  | .loadRemote => Option RemoteConfig
  | .publishStatus _ | .publishData _ | .enqueue _ | .isSafeToSleep _ => Bool
  | .pendingCount => UInt32
  | .lastHookResponse => Option UInt32
  | .readBattery => BatteryReading
  | .deepSleep _ _ => DeepSleepOutcome
  | .timedSleep _ _ => WakePins
  | .softReset | .hardPowerCycle => Unit
  | .resetReason => ResetReason
  | .overrideAsserted | .takeSensorFlag | .takeButtonFlag => Bool
  | .readRecord _ => Except StorageError (List UInt8)
  | .writeRecord _ _ => Except StorageError Unit
  | .buildSensor _ | .sleepSensor => Unit
  | .initSensor | .pollSensor | .wakeSensor => Bool
  | .readSensor => SensorSample
  | .sensorUsesInterrupt | .isSensorReady | .isSensorHealthy => Bool

end FieldCounter
