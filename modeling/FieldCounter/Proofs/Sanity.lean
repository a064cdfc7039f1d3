import FieldCounter.Proofs.Counting
import FieldCounter.Proofs.Record
import FieldCounter.Proofs.Recovery

/-!
# Records stay usable

A usable record is one in which nothing has to be repaired. Readings of the battery, alerts and the
recovery ladder keep the status usable, and counting does not touch what its sanity depends on.
-/

namespace FieldCounter

/-- The accepted values lie between the ends of the range. -/
theorem FieldRange.contains_iff {range : FieldRange} {value : UInt32} :
    range.contains value = true ↔ range.least ≤ value ∧ value ≤ range.greatest := by
  simp only [contains, Bool.and_eq_true, decide_eq_true_eq]

/-- An accepted hour is at most the greatest one. -/
theorem FieldRange.le_of_contains_toUInt32 {range : FieldRange} {value : UInt8}
    (h : range.contains value.toUInt32 = true) : value.toNat ≤ range.greatest.toNat := by
  have hle := UInt32.le_iff_toNat_le.mp (contains_iff.mp h).2
  rwa [UInt8.toNat_toUInt32] at hle

namespace DeviceConfig

/-! ## Usable settings -/

/-- The first field, in the order of the repairs, that holds an unusable value. -/
def firstInsane (config : DeviceConfig) : Option Field := (repairs.find? (!·.isSane config)).map (·.field)

/-- The first repair that is remembered stays the first. -/
theorem value_foldlM_applyRepair_some (field : Field) (config : DeviceConfig) (repairs : List Repair) :
    (repairs.foldlM applyRepair (some field, config)).value.1 = some field := by
  induction repairs generalizing config with
  | nil => rfl
  | cons repair repairs ih =>
    rw [List.foldlM_cons, Logged.value_bind]
    by_cases hsane : repair.isSane config = true
    · simp only [applyRepair, hsane, if_true, Logged.value_pure]
      exact ih config
    · simp only [applyRepair, hsane, Option.some_or]
      exact ih (repair.mend config)

/-- The repair that is remembered is the first one needed by the settings as they were. -/
theorem value_foldlM_applyRepair_none (config : DeviceConfig) (repairs : List Repair) :
    (repairs.foldlM applyRepair (none, config)).value.1 =
      (repairs.find? (!·.isSane config)).map (·.field) := by
  induction repairs with
  | nil => rfl
  | cons repair repairs ih =>
    rw [List.foldlM_cons, Logged.value_bind]
    by_cases hsane : repair.isSane config = true
    · simp only [applyRepair, hsane, if_true, Logged.value_pure, ih, List.find?_cons, Bool.not_true]
    · simp only [applyRepair, hsane, Option.none_or, List.find?_cons, Bool.not_false, Option.map_some]
      exact value_foldlM_applyRepair_some repair.field (repair.mend config) repairs

/-- What is reported of settings is their first unusable field. -/
theorem value_sanitize_fst (config : DeviceConfig) : config.sanitize.value.1 = config.firstInsane :=
  value_foldlM_applyRepair_none config repairs

/-- No field is unusable just where the settings are usable. -/
theorem firstInsane_eq_none_iff (config : DeviceConfig) : config.firstInsane = none ↔ config.isSane = true := by
  simp [firstInsane, isSane, List.find?_eq_none]

/-- Settings can be stored and read back as they are just where they are usable. -/
theorem usable_iff {config : DeviceConfig} : Record.Usable config ↔ config.isSane = true := by
  rw [← firstInsane_eq_none_iff, ← value_sanitize_fst]
  rfl

/-- The hours, the interval and the debounce time are in range, and the sensor is a known one. -/
structure InRange (config : DeviceConfig) : Prop where
  openHour : FieldRange.openHour.contains config.openHour.toUInt32 = true
  closeHour : FieldRange.closeHour.contains config.closeHour.toUInt32 = true
  reportingInterval : FieldRange.reportingInterval.contains config.reportingInterval = true
  occupancyDebounce : FieldRange.occupancyDebounce.contains config.occupancyDebounce = true
  sensorType : SensorModel.isKnown config.sensorType = true

/-- Settings are usable when every value is in range and the sensor can serve the mode. -/
theorem isSane_iff {config : DeviceConfig} :
    config.isSane = true ↔ config.InRange ∧ supportsMode config.sensorType config.countingMode = true := by
  simp only [isSane, repairs, List.all_cons, List.all_nil, Bool.and_eq_true, and_true]
  constructor
  · rintro ⟨hopen, hclose, hinterval, hdebounce, hsensor, hmode⟩
    exact ⟨⟨hopen, hclose, hinterval, hdebounce, hsensor⟩, hmode⟩
  · rintro ⟨⟨hopen, hclose, hinterval, hdebounce, hsensor⟩, hmode⟩
    exact ⟨hopen, hclose, hinterval, hdebounce, hsensor, hmode⟩

end DeviceConfig

instance : Record.Lawful DeviceConfig where
  faithful_codec := ⟨54, by decide, DeviceConfig.faithful_codec⟩
  usable_factory := DeviceConfig.usable_iff.mpr DeviceConfig.isSane_default

/-! ## Usable status -/

namespace AlertSlot

variable {slot : AlertSlot}

/-- An alert that is raised is a known one. -/
theorem isKnown_raise (h : slot.isKnown = true) (alert : Alert) (now : UInt32) :
    (slot.raise alert now).value.isKnown = true := by
  rw [value_raise]
  split
  · simp [isKnown]
  · exact h

/-- Clearing leaves no unknown code. -/
theorem isKnown_clearIf (h : slot.isKnown = true) (p : Alert → Bool) : (slot.clearIf p).value.isKnown = true := by
  rw [value_clearIf]
  split
  · rfl
  · exact h

/-- What the ladder leaves is known. -/
theorem isKnown_resolveAlert (h : slot.isKnown = true) (context : RecoveryContext) :
    (resolveAlert slot context).value.2.isKnown = true := by
  rcases slot_resolveAlert slot context with hslot | hslot
  · rw [hslot]
    exact h
  · rw [hslot]
    rfl

end AlertSlot

namespace RuntimeStatus

variable {status : RuntimeStatus}

/-- A status can be stored and read back as it is just where it is usable. -/
theorem usable_iff : Record.Usable status ↔ status.isSane = true := firstInsane_eq_none_iff status

/-- A status is usable by its charge, its override and its alert. -/
theorem isSane_iff :
    status.isSane = true ↔
      status.batterySoc ≤ 100 ∧ status.hasSaneOverride = true ∧ status.alert.isKnown = true := by
  simp only [isSane, hasSaneSoc, Bool.and_eq_true, decide_eq_true_eq, and_assoc]

/-- Nothing is repaired in a usable status. -/
theorem value_sanitize_of_isSane (h : status.isSane = true) : status.sanitize.value = (none, status) := by
  obtain ⟨hsoc, hoverride, halert⟩ := isSane_iff.mp h
  have hfirst : status.firstInsane = none := (firstInsane_eq_none_iff status).mpr h
  have hmin : min status.batterySoc 100 = status.batterySoc := if_pos hsoc
  have hfilter : status.testSocOverride.filter (· ≤ 100) = status.testSocOverride := by
    unfold hasSaneOverride at hoverride
    cases hvalue : status.testSocOverride with
    | none => rfl
    | some soc =>
      rw [hvalue] at hoverride
      exact Option.filter_some_pos hoverride
  simp only [sanitize, Logged.value_bind, Logged.value_pure, hfirst, hmin, hfilter, AlertSlot.value_sanitize,
    halert, if_true]

/-- What is counted is no matter of sanity. -/
theorem isSane_of_health {other : RuntimeStatus} (h : other.health = status.health) :
    other.isSane = status.isSane := by
  have hsane := congrArg isSane h
  exact hsane

/-- Another known alert leaves the status usable. -/
theorem isSane_setAlert (h : status.isSane = true) {alert : AlertSlot} (halert : alert.isKnown = true) :
    { status with alert }.isSane = true := by
  obtain ⟨hsoc, hoverride, _⟩ := isSane_iff.mp h
  exact isSane_iff.mpr ⟨hsoc, hoverride, halert⟩

/-- Raising an alert keeps a status usable. -/
theorem isSane_raiseAlert (h : status.isSane = true) (alert : Alert) (now : UInt32) :
    (status.raiseAlert alert now).value.isSane = true :=
  isSane_setAlert h (AlertSlot.isKnown_raise (isSane_iff.mp h).2.2 alert now)

/-- Clearing alerts keeps a status usable. -/
theorem isSane_clearAlertIf (h : status.isSane = true) (p : Alert → Bool) :
    (status.clearAlertIf p).value.isSane = true :=
  isSane_setAlert h (AlertSlot.isKnown_clearIf (isSane_iff.mp h).2.2 p)

/-- A new tier keeps a status usable. -/
theorem isSane_updateTier (h : status.isSane = true) : status.updateTier.value.isSane = true := by
  rw [value_updateTier]
  exact isSane_iff.mpr (isSane_iff.mp h)

/-- A reading above 100 percent is stored as 100. -/
theorem isSane_updateBattery (h : status.isSane = true) (reading : BatteryReading) (now : UInt32) :
    (status.updateBattery reading now).value.isSane = true := by
  obtain ⟨_, hoverride, halert⟩ := isSane_iff.mp h
  have hsoc : min reading.soc 100 ≤ 100 := by
    show (if reading.soc ≤ 100 then reading.soc else 100) ≤ 100
    split
    · assumption
    · decide
  have hmeasured : { status with
      batterySoc := min reading.soc 100
      chargeState := reading.charge
      temperature := reading.temperature }.isSane = true := isSane_iff.mpr ⟨hsoc, hoverride, halert⟩
  unfold updateBattery
  cases reading.fault with
  | none => exact isSane_updateTier hmeasured
  | some fault => exact isSane_raiseAlert (isSane_updateTier hmeasured) fault.alert now

/-- The end of an override leaves the status usable. -/
theorem isSane_clearOverride (h : status.isSane = true) :
    { status with testSocOverride := none }.isSane = true := by
  obtain ⟨hsoc, _, halert⟩ := isSane_iff.mp h
  exact isSane_iff.mpr ⟨hsoc, rfl, halert⟩

end RuntimeStatus

instance : Record.Lawful RuntimeStatus where
  faithful_codec := ⟨55, by decide, RuntimeStatus.faithful_codec⟩
  usable_factory := rfl

end FieldCounter
