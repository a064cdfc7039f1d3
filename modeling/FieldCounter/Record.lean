import FieldCounter.Config
import FieldCounter.Record.Codec
import FieldCounter.Record.Error
import FieldCounter.Status

/-!
# Stored records

A record is a header, which names the kind of record and the version of its layout, followed by its
fields in order. Reading refuses bytes of another kind, bytes that are no record and records that
hold an unusable value; what follows the last field is ignored.
-/

namespace FieldCounter

/-- The bytes set aside for one record. -/
def recordCapacity : Nat := 256

/-- The header of a record: the kind of record and the version of its layout. -/
def headerCodec : Codec (UInt32 × UInt16) := Codec.word.both Codec.halfword

/-- A type whose values are stored as one record. -/
class Record (α : Type) where
  key : RecordKey
  magic : UInt32
  version : UInt16
  codec : Codec α
  /-- The value installed when none can be read. -/
  factory : α
  /-- Replace unusable values; also the first field that had one. -/
  sanitize : α → Logged (Option Field × α)

/-- The fields of the settings, in the order in which they are stored. -/
def DeviceConfig.codec : Codec DeviceConfig :=
  ((Codec.choice CountingMode.all).both <| (Codec.choice OperatingMode.all).both <|
    Codec.byte.both <| Codec.byte.both <|
    Codec.word.both <| Codec.word.both <| Codec.word.both <| Codec.word.both <| Codec.word.both <|
    Codec.byte.both <| Codec.byte.both <|
    Codec.word.both <| Codec.word.both Codec.word).convert
  (fun (countingMode, operatingMode, openHour, closeHour, reportingInterval, occupancyDebounce,
        connectBudget, cloudDisconnectBudget, modemOffBudget, sensorType, resetCount, lastReport,
        lastConnection, lastHookResponse) =>
    { countingMode, operatingMode, openHour, closeHour, reportingInterval, occupancyDebounce,
      connectBudget, cloudDisconnectBudget, modemOffBudget, sensorType, resetCount, lastReport,
      lastConnection, lastHookResponse })
  (fun config =>
    (config.countingMode, config.operatingMode, config.openHour, config.closeHour,
     config.reportingInterval, config.occupancyDebounce, config.connectBudget,
     config.cloudDisconnectBudget, config.modemOffBudget, config.sensorType, config.resetCount,
     config.lastReport, config.lastConnection, config.lastHookResponse))

/-- The code and the time of the alert slot. -/
def AlertSlot.codec : Codec AlertSlot :=
  (Codec.signedByte.both Codec.word).convert
    (fun (code, timestamp) => { code, timestamp }) (fun slot => (slot.code, slot.timestamp))

/-- The fields of the status, in the order in which they are stored. -/
def RuntimeStatus.codec : Codec RuntimeStatus :=
  (Codec.word.both <| Codec.word.both <| Codec.word.both <|
    Codec.flag.both <| Codec.word.both <| Codec.word.both <| Codec.word.both <|
    Codec.byte.both <| (Codec.choice ChargeState.all).both <| Codec.signedHalfword.both <|
    Codec.byte.both <| AlertSlot.codec.both <| (Codec.choice BatteryTier.all).both <|
    (Codec.optional Codec.byte).both Codec.flag).convert
  (fun (hourlyCount, dailyCount, lastCountTime, occupied, occupancyStart, hourlyOccupancy,
        dailyOccupancy, batterySoc, chargeState, temperature, signalQuality, alert, batteryTier,
        testSocOverride, updatePending) =>
    { hourlyCount, dailyCount, lastCountTime, occupied, occupancyStart, hourlyOccupancy,
      dailyOccupancy, batterySoc, chargeState, temperature, signalQuality, alert, batteryTier,
      testSocOverride, updatePending })
  (fun status =>
    (status.hourlyCount, status.dailyCount, status.lastCountTime, status.occupied,
     status.occupancyStart, status.hourlyOccupancy, status.dailyOccupancy, status.batterySoc,
     status.chargeState, status.temperature, status.signalQuality, status.alert, status.batteryTier,
     status.testSocOverride, status.updatePending))

instance : Record DeviceConfig where
  key := .config
  magic := 0x54414C43
  version := 1
  codec := DeviceConfig.codec
  factory := default
  sanitize := DeviceConfig.sanitize

instance : Record RuntimeStatus where
  key := .status
  magic := 0x54414C53
  version := 1
  codec := RuntimeStatus.codec
  factory := default
  sanitize := RuntimeStatus.sanitize

namespace Record

variable {α : Type} [Record α]

/-- The stored form of a value, header included. -/
def encode (value : α) : Bytes := headerCodec.write (magic α, version α) ++ (codec : Codec α).write value

/-- Write a value into `capacity` bytes: the header, and then the fields into the room it leaves. -/
def encodeWithin (capacity : Nat) (value : α) : Except StorageError Bytes := do
  let some header := headerCodec.writeWithin capacity (magic α, version α)
    | throw (.encode (key α))
  let some body := (codec : Codec α).writeWithin (capacity - header.length) value
    | throw (.encode (key α))
  return header ++ body

/-- The value in the bytes, usable or not. -/
def decodeRaw (bytes : Bytes) : Except StorageError α := do
  let some (header, body) := headerCodec.read bytes
    | throw (.decode (key α))
  if header ≠ (magic α, version α) then
    throw (.badHeader (key α) header.1 header.2)
  let some (value, _) := (codec : Codec α).read body
    | throw (.decode (key α))
  return value

/-- The value in the bytes, refused where it would have to be repaired. -/
def decode (bytes : Bytes) : Logged (Except StorageError α) := do
  match decodeRaw bytes with
  | .error error => return .error error
  | .ok value =>
    match (← sanitize value).1 with
    | some field => return .error (.outOfRange (key α) field)
    | none => return .ok value

end Record

end FieldCounter
