import FieldCounter.Alert

/-!
# Battery tiers

The state of charge is mapped onto four tiers, each of which reports less often than the one above.
A tier is entered as soon as the charge falls to its entry threshold, perhaps past several tiers at
once, and is left one step at a time only above a higher threshold:

| Tier       | Entered at | Left above |
|------------|------------|------------|
| Healthy    | over 70 %  | -          |
| Conserving | 51 to 70 % | 75 %       |
| Critical   | 30 to 50 % | 55 %       |
| Survival   | under 30 % | 35 %       |
-/

namespace FieldCounter

/-- What the charger is doing. -/
inductive ChargeState where
  | unknown
  | discharging
  | charging
  | full
  | fault
deriving DecidableEq, Repr, Inhabited

/-- The charge states in the order of their stored numbers. -/
def ChargeState.all : List ChargeState := [.unknown, .discharging, .charging, .full, .fault]

/-- The name of the charge state. -/
def ChargeState.name : ChargeState → String
  | .unknown => "Unknown"
  | .discharging => "Discharging"
  | .charging => "Charging"
  | .full => "Full"
  | .fault => "Fault"

/-- A fault that the power chip reports beside a reading. -/
inductive PowerFault where
  | battery
  | charge
  | thermal
deriving DecidableEq, Repr

/-- Every power fault. -/
def PowerFault.all : List PowerFault := [.battery, .charge, .thermal]

/-- The name of the fault. -/
def PowerFault.name : PowerFault → String
  | .battery => "Battery"
  | .charge => "Charge"
  | .thermal => "Thermal"

/-- The alert that a power fault raises. -/
def PowerFault.alert : PowerFault → Alert
  | .battery => .batteryFault
  | .charge => .chargeFault
  | .thermal => .thermalFault

/-- One reading of the fuel gauge. -/
structure BatteryReading where
  /-- State of charge in percent. -/
  soc : UInt8
  charge : ChargeState
  /-- Temperature of the enclosure in tenths of a degree Celsius. -/
  temperature : Int16
  fault : Option PowerFault
deriving DecidableEq, Repr

/-- How much the device can afford. -/
inductive BatteryTier where
  | healthy
  | conserving
  | critical
  | survival
deriving DecidableEq, Repr, Inhabited

namespace BatteryTier

/-- The tiers in the order of their stored numbers, the best first. -/
def all : List BatteryTier := [.healthy, .conserving, .critical, .survival]

/-- Position below the best tier. -/
def depth : BatteryTier → Nat
  | .healthy => 0
  | .conserving => 1
  | .critical => 2
  | .survival => 3

/-- The tier in words. -/
def label : BatteryTier → String
  | .healthy => "healthy"
  | .conserving => "conserving"
  | .critical => "critical"
  | .survival => "survival"

/-- The name of the tier. -/
def name : BatteryTier → String
  | .healthy => "Healthy"
  | .conserving => "Conserving"
  | .critical => "Critical"
  | .survival => "Survival"

/-- How many times longer than configured the reporting interval is in this tier. -/
def multiplier : BatteryTier → Nat
  | .healthy => 1
  | .conserving => 2
  | .critical => 4
  | .survival => 12

/-- The tier that a charge of `soc` percent falls into. -/
def entry (soc : Nat) : BatteryTier :=
  if soc < 30 then .survival
  else if soc ≤ 50 then .critical
  else if soc ≤ 70 then .conserving
  else .healthy

/-- One step up where `soc` percent clears the recovery threshold of the tier. -/
def rise (soc : Nat) : BatteryTier → BatteryTier
  | .survival => if 35 < soc then .critical else .survival
  | .critical => if 55 < soc then .conserving else .critical
  | .conserving => if 75 < soc then .healthy else .conserving
  | .healthy => .healthy

/-- The tier after a reading of `soc` percent: down at once, or up as far as the charge allows.
There are three steps from the lowest tier to the best. -/
def next (tier : BatteryTier) (soc : Nat) : BatteryTier :=
  if tier.depth < (entry soc).depth then entry soc
  else rise soc (rise soc (rise soc tier))

/-- The depth is the place in the list. -/
theorem getElem?_all (tier : BatteryTier) : all[tier.depth]? = some tier := by
  cases tier <;> rfl

/-- No two tiers are equally deep. -/
theorem depth_injective {a b : BatteryTier} (h : a.depth = b.depth) : a = b := by
  have ha := getElem?_all a
  rw [h, getElem?_all b] at ha
  exact (Option.some.inj ha).symm

end BatteryTier

/-- The charge that decides the tier: the test override where there is one, at most 100 percent. -/
def tierSoc (measured : UInt8) (override : Option UInt8) : UInt8 := min (override.getD measured) 100

end FieldCounter
