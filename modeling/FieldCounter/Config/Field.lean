/-!
# Fields and their ranges

Every numeric setting has a range of accepted values and a factory value inside it. A value is
either checked against its range, which names the fault, or replaced by the factory value.
-/

namespace FieldCounter

/-- A stored or remotely set field. -/
inductive Field where
  | countingMode
  | operatingMode
  | openHour
  | closeHour
  | reportingInterval
  | occupancyDebounce
  | connectBudget
  | cloudDisconnectBudget
  | modemOffBudget
  | sensorType
  | testSocOverride
  | batterySoc
  | alert
deriving DecidableEq, Repr

/-- The name by which the operator knows the field. -/
def Field.name : Field → String
  | .countingMode => "counting_mode"
  | .operatingMode => "operating_mode"
  | .openHour => "open_hour"
  | .closeHour => "close_hour"
  | .reportingInterval => "reporting_interval_secs"
  | .occupancyDebounce => "occupancy_debounce_ms"
  | .connectBudget => "connect_budget_secs"
  | .cloudDisconnectBudget => "cloud_disconnect_budget_secs"
  | .modemOffBudget => "modem_off_budget_secs"
  | .sensorType => "sensor_type"
  | .testSocOverride => "test_soc_override"
  | .batterySoc => "battery_soc"
  | .alert => "alert"

/-- The accepted values of a numeric field, both ends included, and its factory value. -/
structure FieldRange where
  field : Field
  least : UInt32
  greatest : UInt32
  factory : UInt32
deriving DecidableEq, Repr

/-- Why a value for a field is refused. -/
inductive ConfigError where
  /-- The value lies outside the range of its field. -/
  | outOfRange (range : FieldRange) (value : UInt32)
  /-- The value is no code of the field. -/
  | unknownCode (field : Field) (value : UInt32)
  /-- The sensor cannot tell occupancy, and occupancy is asked for. -/
  | noOccupancySupport (field : Field) (sensorType : UInt8)
deriving DecidableEq, Repr

/-- The refusal in words. -/
def ConfigError.message : ConfigError → String
  | .outOfRange range value =>
    s!"{range.field.name} = {value} outside [{range.least}, {range.greatest}]"
  | .unknownCode field value => s!"{field.name} = {value} is not a known code"
  | .noOccupancySupport field sensorType =>
    s!"{field.name} rejected: sensor type {sensorType} cannot count occupancy"

namespace FieldRange

/-- The hour at which the open hours begin. -/
def openHour : FieldRange := ⟨.openHour, 0, 23, 6⟩

/-- The hour at which the open hours end. -/
def closeHour : FieldRange := ⟨.closeHour, 0, 23, 22⟩

/-- Seconds between reports on a full battery. -/
def reportingInterval : FieldRange := ⟨.reportingInterval, 60, 86400, 3600⟩

/-- Milliseconds without a detection after which a place counts as empty. -/
def occupancyDebounce : FieldRange := ⟨.occupancyDebounce, 0, 3600000, 300000⟩

/-- Seconds allowed for coming online. -/
def connectBudget : FieldRange := ⟨.connectBudget, 30, 900, 600⟩

/-- Seconds allowed for closing the cloud session. -/
def cloudDisconnectBudget : FieldRange := ⟨.cloudDisconnectBudget, 5, 120, 15⟩

/-- Seconds allowed for switching the modem off. -/
def modemOffBudget : FieldRange := ⟨.modemOffBudget, 5, 120, 30⟩

/-- A charge that stands in for the measured one. -/
def testSocOverride : FieldRange := ⟨.testSocOverride, 0, 100, 0⟩

/-- Every range. -/
def all : List FieldRange :=
  [openHour, closeHour, reportingInterval, occupancyDebounce, connectBudget, cloudDisconnectBudget,
   modemOffBudget, testSocOverride]

/-- The value is an accepted one. -/
def contains (range : FieldRange) (value : UInt32) : Bool :=
  range.least ≤ value && value ≤ range.greatest

/-- The value itself, or the reason why it is refused. -/
def check (range : FieldRange) (value : UInt32) : Except ConfigError UInt32 :=
  if range.contains value then .ok value else .error (.outOfRange range value)

/-- The value itself where it is accepted, the factory value elsewhere. -/
def orFactory (range : FieldRange) (value : UInt32) : UInt32 :=
  if range.contains value then value else range.factory

/-- A value passes the check exactly where it is in range, and it passes unchanged. -/
theorem check_eq_ok_iff {range : FieldRange} {value accepted : UInt32} :
    range.check value = .ok accepted ↔ range.contains value = true ∧ value = accepted := by
  unfold check
  split <;> simp_all

/-- The factory value of every range is an accepted one. -/
theorem contains_factory {range : FieldRange} (h : range ∈ all) : range.contains range.factory = true := by
  revert range
  decide

/-- What is handed out is an accepted value, whatever was stored. -/
theorem contains_orFactory {range : FieldRange} (h : range ∈ all) (value : UInt32) :
    range.contains (range.orFactory value) = true := by
  unfold orFactory
  split
  · assumption
  · exact contains_factory h

end FieldRange

end FieldCounter
