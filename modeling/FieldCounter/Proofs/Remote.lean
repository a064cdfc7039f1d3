import FieldCounter.Proofs.Sanity

/-!
# Applying remote settings

Whatever every change keeps, remote settings keep as a whole. They keep the settings usable and leave
the facts about the past alone. The delicate case is a request for a sensor together with a counting
mode: between the two changes the settings may hold a sensor that cannot serve the mode still in
force, but then it can serve the mode asked for, which is applied after it.
-/

namespace FieldCounter

/-! ## Changes one by one -/

/-- Every value that the change stores has the property if the value before it had. -/
def Change.Keeps (P : DeviceConfig → Prop) (change : Change) : Prop :=
  ∀ ⦃config stored⦄, P config → change config = .ok stored → P stored

namespace Change

variable {P : DeviceConfig → Prop}

/-- A change that puts a checked value in place keeps what every accepted value keeps. -/
theorem keeps_check {range : FieldRange} {value : UInt32} {put : UInt32 → DeviceConfig → DeviceConfig}
    (h : range.contains value = true → ∀ config, P config → P (put value config)) :
    Keeps P fun config => do
      let accepted ← range.check value
      return put accepted config := by
  intro config stored hconfig hstored
  cases hcheck : range.check value with
  | error error =>
    simp only [hcheck] at hstored
    cases hstored
  | ok accepted =>
    obtain ⟨hcontains, rfl⟩ := FieldRange.check_eq_ok_iff.mp hcheck
    simp only [hcheck] at hstored
    obtain rfl : put value config = stored := Except.ok.inj hstored
    exact h hcontains config hconfig

/-- A change that is asked for or not keeps what it keeps when it is asked for. -/
theorem keeps_map {β : Type} {change : β → Change} {asked : Option β} (h : ∀ b, (change b).Keeps P) :
    ∀ c ∈ asked.map change, Keeps P c := by
  intro c hc
  obtain ⟨b, _, rfl⟩ := Option.map_eq_some_iff.mp hc
  exact h b

end Change

namespace DeviceConfig

variable {P : DeviceConfig → Prop}

/-- A change is stored, or the settings stay as they are. -/
theorem value_applyChange (state : DeviceConfig × ApplyReport) (change : Change) :
    (applyChange state change).value.1 = (change state.1).toOption.getD state.1 := by
  unfold applyChange
  cases change state.1 <;> rfl

/-- The settings and the report after a change that is asked for or not. -/
def applyAsked (state : DeviceConfig × ApplyReport) (asked : Option Change) : DeviceConfig × ApplyReport :=
  asked.elim state fun change => (applyChange state change).value

/-- What a change keeps when it is asked for, is kept. -/
theorem keeps_applyAsked {asked : Option Change} (h : ∀ change ∈ asked, change.Keeps P)
    {state : DeviceConfig × ApplyReport} (hstate : P state.1) : P (applyAsked state asked).1 := by
  cases asked with
  | none => exact hstate
  | some change =>
    show P (applyChange state change).value.1
    rw [value_applyChange]
    cases hchange : change state.1 with
    | error error => exact hstate
    | ok stored => exact h change rfl hstate hchange

/-- The changes asked for are applied one after the other. -/
theorem value_foldlM_cons (asked : Option Change) (rest : List (Option Change))
    (state : DeviceConfig × ApplyReport) :
    (((asked :: rest).filterMap id).foldlM applyChange state).value =
      ((rest.filterMap id).foldlM applyChange (applyAsked state asked)).value := by
  cases asked with
  | none => rfl
  | some change => rfl

/-- What every change keeps, all of them together keep. -/
theorem keeps_foldlM {asked : List (Option Change)} (h : ∀ option ∈ asked, ∀ change ∈ option, change.Keeps P)
    {state : DeviceConfig × ApplyReport} (hstate : P state.1) :
    P ((asked.filterMap id).foldlM applyChange state).value.1 := by
  induction asked generalizing state with
  | nil => exact hstate
  | cons option asked ih =>
    rw [value_foldlM_cons]
    refine ih (fun option hoption => h option (List.mem_cons_of_mem _ hoption)) ?_
    exact keeps_applyAsked (h option List.mem_cons_self) hstate

/-- Apart from the notes, remote settings are applied one change after the other. -/
theorem value_applyRemote (config : DeviceConfig) (remote : RemoteConfig) :
    (config.applyRemote remote).value = (remote.changes.foldlM applyChange (config, {})).value := by
  unfold applyRemote
  rw [Logged.value_bind]
  dsimp only
  split <;> rfl

/-- The code of a counting mode stands for at most one mode. -/
theorem targetMode_congr {remote : RemoteConfig} {config other : DeviceConfig}
    (h : config.countingMode = other.countingMode) : remote.targetMode config = remote.targetMode other := by
  unfold RemoteConfig.targetMode
  rw [h]

/-- Before the counting mode is applied, the mode is the old one, and the sensor can serve it or the
one asked for. -/
structure Awaiting (mode target : CountingMode) (config : DeviceConfig) : Prop where
  inRange : config.InRange
  countingMode : config.countingMode = mode
  supports : supportsMode config.sensorType mode = true ∨ supportsMode config.sensorType target = true

/-- A sensor is refused unless it is known and can serve the mode it is judged by. -/
theorem of_setSensorTypeFor {code : UInt8} {mode : CountingMode} {config stored : DeviceConfig}
    (h : config.setSensorTypeFor code mode = .ok stored) :
    SensorModel.isKnown code = true ∧ supportsMode code mode = true ∧
      stored = { config with sensorType := code } := by
  unfold setSensorTypeFor checkSupport at h
  cases hknown : SensorModel.isKnown code <;> cases hsupports : supportsMode code mode
  all_goals simp only [hknown, hsupports] at h
  · cases h
  · cases h
  · cases h
  · exact ⟨rfl, rfl, (Except.ok.inj h).symm⟩

/-- A counting mode is refused exactly where the sensor cannot serve it. -/
theorem setCountingMode_eq (mode : CountingMode) (config : DeviceConfig) :
    config.setCountingMode mode =
      if supportsMode config.sensorType mode then .ok { config with countingMode := mode }
      else .error (.noOccupancySupport .countingMode config.sensorType) := by
  unfold setCountingMode checkSupport
  cases supportsMode config.sensorType mode <;> rfl

/-- Changing the counting mode keeps what putting a mode in place keeps. -/
theorem keeps_changeCountingMode {code : UInt8}
    (h : ∀ config mode, P config → P { config with countingMode := mode }) :
    Change.Keeps P (RemoteConfig.changeCountingMode code) := by
  intro config stored hconfig hstored
  unfold RemoteConfig.changeCountingMode at hstored
  cases hcode : CountingMode.ofCode code.toUInt32 with
  | error error =>
    simp only [hcode] at hstored
    cases hstored
  | ok mode =>
    rw [hcode] at hstored
    have hset : config.setCountingMode mode = .ok stored := hstored
    rw [setCountingMode_eq] at hset
    split at hset
    · obtain rfl : { config with countingMode := mode } = stored := Except.ok.inj hset
      exact h config mode hconfig
    · cases hset

/-- Changing the operating mode keeps what putting a mode in place keeps. -/
theorem keeps_changeOperatingMode {code : UInt8}
    (h : ∀ config mode, P config → P (config.setOperatingMode mode)) :
    Change.Keeps P (RemoteConfig.changeOperatingMode code) := by
  intro config stored hconfig hstored
  unfold RemoteConfig.changeOperatingMode at hstored
  cases hcode : OperatingMode.ofCode code.toUInt32 with
  | error error =>
    simp only [hcode] at hstored
    cases hstored
  | ok mode =>
    simp only [hcode] at hstored
    obtain rfl : config.setOperatingMode mode = stored := Except.ok.inj hstored
    exact h config mode hconfig

/-- The sensor is judged by the mode asked for beside it. -/
theorem keeps_setSensorTypeFor {remote : RemoteConfig} {config : DeviceConfig} (code : UInt8) :
    Change.Keeps (Awaiting config.countingMode (remote.targetMode config))
      fun config => config.setSensorTypeFor code (remote.targetMode config) := by
  intro before stored hbefore hstored
  obtain ⟨hknown, hsupports, rfl⟩ := of_setSensorTypeFor hstored
  rw [targetMode_congr hbefore.countingMode] at hsupports
  exact ⟨{ hbefore.inRange with sensorType := hknown }, hbefore.countingMode, .inr hsupports⟩

/-- Once the counting mode was applied the settings are usable: it was refused only where the sensor
cannot serve it, so the sensor is still one that serves the old mode. -/
theorem isSane_applyAsked_countingMode {remote : RemoteConfig} (config : DeviceConfig)
    {state : DeviceConfig × ApplyReport}
    (h : Awaiting config.countingMode (remote.targetMode config) state.1) :
    (applyAsked state (remote.modes.countingMode.map RemoteConfig.changeCountingMode)).1.isSane = true := by
  obtain ⟨hrange, hmode, hsupports⟩ := h
  have hkept : remote.targetMode config = config.countingMode → state.1.isSane = true := by
    intro htarget
    rw [htarget, or_self, ← hmode] at hsupports
    exact isSane_iff.mpr ⟨hrange, hsupports⟩
  cases hasked : remote.modes.countingMode with
  | none => exact hkept (by rw [RemoteConfig.targetMode, hasked])
  | some code =>
    show (applyChange state (RemoteConfig.changeCountingMode code)).value.1.isSane = true
    rw [value_applyChange, RemoteConfig.changeCountingMode]
    cases hcode : CountingMode.ofCode code.toUInt32 with
    | error error => exact hkept (by simp [RemoteConfig.targetMode, hasked, hcode, Except.toOption])
    | ok mode =>
      have htarget : remote.targetMode config = mode := by
        simp [RemoteConfig.targetMode, hasked, hcode, Except.toOption]
      rw [htarget] at hsupports
      show ((state.1.setCountingMode mode).toOption.getD state.1).isSane = true
      rw [setCountingMode_eq]
      split
      · rename_i hserves
        exact isSane_iff.mpr ⟨{ hrange with }, hserves⟩
      · rename_i hrefused
        have hold := hsupports.resolve_right hrefused
        rw [← hmode] at hold
        exact isSane_iff.mpr ⟨hrange, hold⟩

/-- A checked change of a field other than the sensor and the mode keeps the settings usable where an
accepted value is in range. -/
theorem keeps_isSane_check {range : FieldRange} {value : UInt32} {put : UInt32 → DeviceConfig → DeviceConfig}
    (hrange : range.contains value = true → ∀ config, InRange config → InRange (put value config))
    (hmode : ∀ config, (put value config).sensorType = config.sensorType ∧
      (put value config).countingMode = config.countingMode) :
    Change.Keeps (fun config => config.isSane = true) fun config => do
      let accepted ← range.check value
      return put accepted config := by
  refine Change.keeps_check fun hcontains config hconfig => ?_
  obtain ⟨hold, hsupports⟩ := isSane_iff.mp hconfig
  refine isSane_iff.mpr ⟨hrange hcontains config hold, ?_⟩
  rwa [(hmode config).1, (hmode config).2]

/-- Usable settings stay usable whatever the operator asks for. -/
theorem isSane_applyRemote {config : DeviceConfig} (h : config.isSane = true) (remote : RemoteConfig) :
    (config.applyRemote remote).value.1.isSane = true := by
  obtain ⟨hrange, hsupports⟩ := isSane_iff.mp h
  rw [value_applyRemote, RemoteConfig.changes, value_foldlM_cons, value_foldlM_cons, value_foldlM_cons]
  have hbegin : Awaiting config.countingMode (remote.targetMode config) config := ⟨hrange, rfl, .inl hsupports⟩
  refine keeps_foldlM (P := fun config => config.isSane = true) ?_
    (isSane_applyAsked_countingMode config ?_)
  · intro option hoption
    simp only [List.mem_cons, List.not_mem_nil, or_false] at hoption
    rcases hoption with rfl | rfl | rfl | rfl | rfl | rfl | rfl
    · exact Change.keeps_map fun code => keeps_changeOperatingMode fun _ _ h => h
    · refine Change.keeps_map fun hour => keeps_isSane_check (fun hhour config h => ?_) fun _ => ⟨rfl, rfl⟩
      exact { h with openHour := by rwa [UInt8.toUInt8_toUInt32] }
    · refine Change.keeps_map fun hour => keeps_isSane_check (fun hhour config h => ?_) fun _ => ⟨rfl, rfl⟩
      exact { h with closeHour := by rwa [UInt8.toUInt8_toUInt32] }
    · refine Change.keeps_map fun secs => keeps_isSane_check (fun hsecs config h => ?_) fun _ => ⟨rfl, rfl⟩
      exact { h with reportingInterval := hsecs }
    all_goals
      exact Change.keeps_map fun secs => keeps_isSane_check (fun _ config h => { h with }) fun _ => ⟨rfl, rfl⟩
  refine keeps_applyAsked (Change.keeps_map fun ms => Change.keeps_check ?_) ?_
  · intro hms before hbefore
    exact ⟨{ hbefore.inRange with occupancyDebounce := hms }, hbefore.countingMode, hbefore.supports⟩
  exact keeps_applyAsked (Change.keeps_map keeps_setSensorTypeFor) hbegin

/-- The facts about the past among the settings, which no operator can change. -/
def past (config : DeviceConfig) : UInt8 × UInt32 × UInt32 × UInt32 :=
  (config.resetCount, config.lastReport, config.lastConnection, config.lastHookResponse)

/-- Remote settings leave the past alone. -/
theorem past_applyRemote (config : DeviceConfig) (remote : RemoteConfig) :
    (config.applyRemote remote).value.1.past = config.past := by
  rw [value_applyRemote]
  refine keeps_foldlM (P := fun other => other.past = config.past) (fun option hoption => ?_) rfl
  simp only [List.mem_cons, List.not_mem_nil, or_false] at hoption
  rcases hoption with rfl | rfl | rfl | rfl | rfl | rfl | rfl | rfl | rfl | rfl
  · refine Change.keeps_map fun code before stored hbefore hstored => ?_
    obtain ⟨_, _, rfl⟩ := of_setSensorTypeFor hstored
    exact hbefore
  · exact Change.keeps_map fun ms => Change.keeps_check fun _ _ h => h
  · exact Change.keeps_map fun code => keeps_changeCountingMode fun _ _ h => h
  · exact Change.keeps_map fun code => keeps_changeOperatingMode fun _ _ h => h
  all_goals exact Change.keeps_map fun value => Change.keeps_check fun _ _ h => h

end DeviceConfig

/-! ## The power section -/

namespace RuntimeStatus

variable {status : RuntimeStatus}

/-- An override is refused unless it is a percentage. -/
theorem isSane_applyRemotePower (h : status.isSane = true) (power : PowerRequest) (report : ApplyReport) :
    (status.applyRemotePower power report).value.1.isSane = true := by
  unfold applyRemotePower
  split
  rename_i cleared counted hcleared
  have hsane : cleared.isSane = true := by
    split at hcleared
    · obtain ⟨rfl, _⟩ := Prod.mk.inj hcleared
      exact isSane_clearOverride h
    · obtain ⟨rfl, _⟩ := Prod.mk.inj hcleared
      exact h
  split
  · exact hsane
  · rename_i soc _
    obtain ⟨hsoc, hoverride, halert⟩ := isSane_iff.mp hsane
    cases hcheck : FieldRange.testSocOverride.check soc.toUInt32 with
    | error error => exact isSane_iff.mpr ⟨hsoc, hoverride, halert⟩
    | ok accepted =>
      obtain ⟨hcontains, rfl⟩ := FieldRange.check_eq_ok_iff.mp hcheck
      have hstored : (some soc.toUInt32.toUInt8).all (· ≤ 100) = true := by
        rw [UInt8.toUInt8_toUInt32]
        simpa [FieldRange.contains, FieldRange.testSocOverride, UInt32.le_iff_toNat_le, UInt8.le_iff_toNat_le]
          using hcontains
      exact isSane_iff.mpr ⟨hsoc, hstored, halert⟩

/-- The power section changes nothing else. -/
theorem fields_applyRemotePower (status : RuntimeStatus) (power : PowerRequest) (report : ApplyReport) :
    ∃ testSocOverride, (status.applyRemotePower power report).value.1 = { status with testSocOverride } := by
  unfold applyRemotePower
  split
  rename_i cleared counted hcleared
  have hsame : ∃ testSocOverride, cleared = { status with testSocOverride } := by
    split at hcleared
    all_goals
      obtain ⟨rfl, _⟩ := Prod.mk.inj hcleared
      exact ⟨_, rfl⟩
  obtain ⟨_, rfl⟩ := hsame
  split
  · exact ⟨_, rfl⟩
  · exact ⟨_, rfl⟩

end RuntimeStatus

end FieldCounter
