import FieldCounter.Config.Field

/-!
# Counting and operating modes

The two choices that settle what the device counts and when it is online, with the codes under
which the operator asks for them.
-/

namespace FieldCounter

/-- What a detection means. -/
inductive CountingMode where
  /-- Every detection is one count. -/
  | counting
  /-- Detections keep a place occupied until none has come for the debounce time. -/
  | occupancy
  /-- Detections are ignored; the sensor is only read for a report. -/
  | scheduled
deriving DecidableEq, Repr, Inhabited

/-- When the device is online. -/
inductive OperatingMode where
  /-- Throughout open hours. -/
  | connected
  /-- On interval boundaries, asleep between reports. -/
  | lowPower
  /-- Never of its own accord. -/
  | disconnected
deriving DecidableEq, Repr, Inhabited

namespace CountingMode

/-- The modes in the order of their codes. -/
def all : List CountingMode := [.counting, .occupancy, .scheduled]

/-- The name of the mode. -/
def name : CountingMode → String
  | .counting => "Counting"
  | .occupancy => "Occupancy"
  | .scheduled => "Scheduled"

/-- The mode with the given code. -/
def ofCode (code : UInt32) : Except ConfigError CountingMode :=
  match all[code.toNat]? with
  | some mode => .ok mode
  | none => .error (.unknownCode .countingMode code)

end CountingMode

namespace OperatingMode

/-- The modes in the order of their codes. -/
def all : List OperatingMode := [.connected, .lowPower, .disconnected]

/-- The name of the mode. -/
def name : OperatingMode → String
  | .connected => "Connected"
  | .lowPower => "LowPower"
  | .disconnected => "Disconnected"

/-- The mode with the given code. -/
def ofCode (code : UInt32) : Except ConfigError OperatingMode :=
  match all[code.toNat]? with
  | some mode => .ok mode
  | none => .error (.unknownCode .operatingMode code)

end OperatingMode

end FieldCounter
