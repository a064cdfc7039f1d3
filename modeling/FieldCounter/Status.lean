import FieldCounter.Alert.Slot
import FieldCounter.Battery
import FieldCounter.Clock
import FieldCounter.Config.Remote

/-!
# Runtime status

What changes from cycle to cycle and still has to outlive a reset: the counts and the occupied time
of the running hour and day, the open occupancy session, the battery and the alert slot. Counters
stop at their largest value. A session that is still open at a report is credited up to the report
and goes on from there, so its parts add up to the whole.
-/

namespace FieldCounter

/-- The stored status. -/
structure RuntimeStatus where
  hourlyCount : UInt32 := 0
  dailyCount : UInt32 := 0
  lastCountTime : UInt32 := 0
  /-- An occupancy session is open. -/
  occupied : Bool := false
  /-- When the open session began or was last credited. -/
  occupancyStart : UInt32 := 0
  hourlyOccupancy : UInt32 := 0
  dailyOccupancy : UInt32 := 0
  batterySoc : UInt8 := 0
  chargeState : ChargeState := .unknown
  temperature : Int16 := 0
  signalQuality : UInt8 := 0
  alert : AlertSlot := {}
  batteryTier : BatteryTier := .healthy
  testSocOverride : Option UInt8 := none
  /-- A firmware update was seen and is not finished. -/
  updatePending : Bool := false
deriving DecidableEq, Repr, Inhabited

namespace RuntimeStatus

/-! ## Counts and occupancy -/

/-- One more count at `now`. -/
def countOne (status : RuntimeStatus) (now : UInt32) : RuntimeStatus :=
  { status with
    hourlyCount := addSat status.hourlyCount 1
    dailyCount := addSat status.dailyCount 1
    lastCountTime := now }

/-- More occupied time. -/
def credit (status : RuntimeStatus) (secs : UInt32) : RuntimeStatus :=
  { status with
    hourlyOccupancy := addSat status.hourlyOccupancy secs
    dailyOccupancy := addSat status.dailyOccupancy secs }

/-- Open an occupancy session. -/
def beginOccupancy (status : RuntimeStatus) (now : UInt32) : RuntimeStatus :=
  { status with occupied := true, occupancyStart := now }

/-- Seconds since the open session began or was last credited. -/
def openSecs (status : RuntimeStatus) (now : UInt32) : UInt32 := subSat now status.occupancyStart

/-- Credit the open session up to `now` and let it go on from there; also the seconds credited. -/
def creditOpenOccupancy (status : RuntimeStatus) (now : UInt32) : UInt32 × RuntimeStatus :=
  if status.occupied then
    (status.openSecs now, { status.credit (status.openSecs now) with occupancyStart := now })
  else (0, status)

/-- Close the open session as one count; also the seconds credited for it. -/
def endOccupancy (status : RuntimeStatus) (now : UInt32) : UInt32 × RuntimeStatus :=
  (status.openSecs now, ({ status with occupied := false }.credit (status.openSecs now)).countOne now)

/-- Start a new reporting period. -/
def resetHourly (status : RuntimeStatus) : RuntimeStatus :=
  { status with hourlyCount := 0, hourlyOccupancy := 0 }

/-- Start a new local day. -/
def resetDaily (status : RuntimeStatus) : Logged RuntimeStatus := do
  note .info .status s!" Daily rollover: {status.dailyCount} counts, {status.dailyOccupancy}s occupied"
  return { status with dailyCount := 0, dailyOccupancy := 0 }

/-! ## Alerts and battery -/

/-- Raise an alert in the slot. -/
def raiseAlert (status : RuntimeStatus) (alert : Alert) (now : UInt32) : Logged RuntimeStatus := do
  return { status with alert := ← status.alert.raise alert now }

/-- Clear the alert on show if `p` holds for it. -/
def clearAlertIf (status : RuntimeStatus) (p : Alert → Bool) : Logged RuntimeStatus := do
  return { status with alert := ← status.alert.clearIf p }

/-- Move to the tier that the charge in use calls for. -/
def updateTier (status : RuntimeStatus) : Logged RuntimeStatus := do
  let soc := tierSoc status.batterySoc status.testSocOverride
  let tier := status.batteryTier.next soc.toNat
  if tier = status.batteryTier then
    note .debug .status s!" Battery {soc}%, tier {tier.label}"
  else
    note .info .status s!" Battery tier {status.batteryTier.label} -> {tier.label} at {soc}%"
  return { status with batteryTier := tier }

/-- Store a battery reading, move to the tier it calls for and raise the fault it reports. -/
def updateBattery (status : RuntimeStatus) (reading : BatteryReading) (now : UInt32) :
    Logged RuntimeStatus := do
  let measured := { status with
    batterySoc := min reading.soc 100
    chargeState := reading.charge
    temperature := reading.temperature }
  let settled ← measured.updateTier
  match reading.fault with
  | some fault => settled.raiseAlert fault.alert now
  | none => return settled

/-- Apart from the notes, the tier follows the charge or its test override. -/
@[simp] theorem value_updateTier (status : RuntimeStatus) :
    status.updateTier.value = { status with
      batteryTier := status.batteryTier.next (tierSoc status.batterySoc status.testSocOverride).toNat } := by
  unfold updateTier
  dsimp only
  split <;> rfl

/-- Apply the power section of the remote settings: first the end of an override, then a new one. -/
def applyRemotePower (status : RuntimeStatus) (power : PowerRequest) (report : ApplyReport) :
    Logged (RuntimeStatus × ApplyReport) := do
  let (status, report) :=
    if power.clearTestSocOverride = some true then
      ({ status with testSocOverride := none }, report.accept)
    else (status, report)
  match power.testSocOverride with
  | none => return (status, report)
  | some soc =>
    let (stored, report) ← report.record (FieldRange.testSocOverride.check soc.toUInt32)
    return ({ status with testSocOverride := (stored.map (·.toUInt8)).or status.testSocOverride }, report)

/-! ## Sanity -/

/-- The measured charge is a percentage. -/
def hasSaneSoc (status : RuntimeStatus) : Bool := status.batterySoc ≤ 100

/-- The override, if any, is a percentage. -/
def hasSaneOverride (status : RuntimeStatus) : Bool := status.testSocOverride.all (· ≤ 100)

/-- Every field is usable. -/
def isSane (status : RuntimeStatus) : Bool :=
  status.hasSaneSoc && status.hasSaneOverride && status.alert.isKnown

/-- The first unusable field. -/
def firstInsane (status : RuntimeStatus) : Option Field :=
  if !status.hasSaneSoc then some .batterySoc
  else if !status.hasSaneOverride then some .testSocOverride
  else if !status.alert.isKnown then some .alert
  else none

/-- Replace unusable values; also the first field that had one. -/
def sanitize (status : RuntimeStatus) : Logged (Option Field × RuntimeStatus) := do
  return (status.firstInsane, { status with
    batterySoc := min status.batterySoc 100
    testSocOverride := status.testSocOverride.filter (· ≤ 100)
    alert := ← status.alert.sanitize })

/-- A status has no unusable field exactly where it is usable. -/
theorem firstInsane_eq_none_iff (status : RuntimeStatus) :
    status.firstInsane = none ↔ status.isSane = true := by
  unfold firstInsane isSane
  cases status.hasSaneSoc <;> cases status.hasSaneOverride <;> cases status.alert.isKnown <;> simp

end RuntimeStatus

end FieldCounter
