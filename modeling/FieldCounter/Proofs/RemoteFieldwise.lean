import FieldCounter.Proofs.ReloadAgain

/-!
# Remote settings field by field

What a remote configuration leaves of the settings is written here field by field, without the order in
which the fields are applied: a value that is accepted takes the place of the one before, and any other is
passed over. The order shows in one place only, since the counting mode is judged by the sensor that is left
beside it. The report gives one verdict for each setting that was asked for, and there are never more of
them than it has room for.
-/

namespace FieldCounter

/-! ## Verdicts -/

/-- Why a value for the field is refused, if it is. -/
def FieldRange.fault (range : FieldRange) (value : UInt32) : Option ConfigError :=
  if range.contains value then none else some (.outOfRange range value)

/-- Why the outcome is a refusal, if it is one. -/
def refusalOf {α : Type} : Except ConfigError α → Option ConfigError
  | .ok _ => none
  | .error error => some error

/-- The report accounts for these verdicts and for no others: it counts the settings that were stored, and
lists the refusals in order. -/
structure ApplyReport.Accounts (report : ApplyReport) (verdicts : List (Option ConfigError)) : Prop where
  applied : report.applied.toNat = verdicts.count none
  rejected : report.rejected = verdicts.filterMap id

namespace ApplyReport

/-- An empty report accounts for nothing. -/
theorem accounts_empty : Accounts {} [] := ⟨rfl, rfl⟩

variable {report : ApplyReport} {verdicts : List (Option ConfigError)}

/-- A report that has accounted for fewer settings than it remembers accounts for one more that is stored. -/
theorem Accounts.accept (h : report.Accounts verdicts) (hroom : verdicts.length < maxRejected) :
    report.accept.Accounts (verdicts ++ [none]) := by
  have hcount := List.count_le_length (a := (none : Option ConfigError)) (l := verdicts)
  have hroom : verdicts.length < 12 := hroom
  constructor
  · rw [ApplyReport.accept, toNat_bumpByte, h.applied, List.count_append, List.count_singleton_self]
    omega
  · rw [ApplyReport.accept, h.rejected, List.filterMap_append]
    exact (List.append_nil _).symm

/-- It accounts for one more that is refused, too. -/
theorem Accounts.reject (h : report.Accounts verdicts) (hroom : verdicts.length < maxRejected)
    (error : ConfigError) : (report.reject error).value.Accounts (verdicts ++ [some error]) := by
  have hlisted : report.rejected.length < maxRejected := by
    rw [h.rejected]
    exact Nat.lt_of_le_of_lt (List.length_filterMap_le id verdicts) hroom
  have hvalue : (report.reject error).value = { report with rejected := report.rejected ++ [error] } := by
    simp only [ApplyReport.reject, Logged.value_bind, Logged.value_pure, if_pos hlisted]
  rw [hvalue]
  constructor
  · rw [List.count_append, h.applied]
    rfl
  · rw [h.rejected, List.filterMap_append]
    rfl

/-- Whatever a setting came to, the report accounts for it. -/
theorem Accounts.record {α : Type} (h : report.Accounts verdicts) (hroom : verdicts.length < maxRejected)
    (outcome : Except ConfigError α) :
    (report.record outcome).value.2.Accounts (verdicts ++ [refusalOf outcome]) := by
  cases outcome with
  | ok stored => exact h.accept hroom
  | error error => exact h.reject hroom error

end ApplyReport

/-! ## Changes that are asked for or not -/

namespace DeviceConfig

/-- What a change that is asked for or not leaves of the settings, with the verdict on it where it is asked
for. -/
inductive Settles (config : DeviceConfig) : Option Change → DeviceConfig → Option (Option ConfigError) → Prop where
  | unasked : Settles config none config none
  | stored {change : Change} {left : DeviceConfig} :
      change config = .ok left → Settles config (some change) left (some none)
  | refused {change : Change} {error : ConfigError} :
      change config = .error error → Settles config (some change) config (some (some error))

/-- What changes leave one after the other, with their verdicts in order. -/
inductive SettlesAll : DeviceConfig → List (Option Change) → DeviceConfig → List (Option ConfigError) → Prop where
  | nil {config : DeviceConfig} : SettlesAll config [] config []
  | cons {config between left : DeviceConfig} {asked : Option Change} {verdict : Option (Option ConfigError)}
      {rest : List (Option Change)} {verdicts : List (Option ConfigError)} :
      config.Settles asked between verdict → SettlesAll between rest left verdicts →
        SettlesAll config (asked :: rest) left (verdict.toList ++ verdicts)

/-- Changes leave the settings they are said to leave, and the report accounts for each of them while there
is room for all. -/
theorem SettlesAll.accounts {config left : DeviceConfig} {asked : List (Option Change)}
    {verdicts earlier : List (Option ConfigError)} (hsettles : config.SettlesAll asked left verdicts)
    {report : ApplyReport} (h : report.Accounts earlier) (hroom : earlier.length + asked.length ≤ maxRejected) :
    ((asked.filterMap id).foldlM applyChange (config, report)).value.1 = left ∧
      ((asked.filterMap id).foldlM applyChange (config, report)).value.2.Accounts (earlier ++ verdicts) := by
  induction hsettles generalizing report earlier with
  | nil => exact ⟨rfl, by rwa [List.append_nil]⟩
  | @cons config between left asked verdict rest verdicts hfirst _ ih =>
    rw [List.length_cons] at hroom
    rw [value_foldlM_cons]
    have hlonger : ∀ one : Option ConfigError, (earlier ++ [one]).length + rest.length ≤ maxRejected := by
      intro one
      rw [List.length_append, List.length_singleton]
      omega
    cases hfirst with
    | unasked => exact ih h (by omega)
    | @stored change _ hstored =>
      have hvalue : applyAsked (config, report) (some change) = (between, report.accept) := by
        simp only [applyAsked, applyChange, ApplyReport.record, Option.elim_some, hstored]
        rfl
      rw [hvalue, Option.toList_some, List.singleton_append, List.append_cons]
      exact ih (h.accept (by omega)) (hlonger none)
    | @refused change error hrefused =>
      have hvalue : applyAsked (config, report) (some change) = (config, (report.reject error).value) := by
        simp only [applyAsked, applyChange, ApplyReport.record, Option.elim_some, hrefused]
        rfl
      rw [hvalue, Option.toList_some, List.singleton_append, List.append_cons]
      exact ih (h.reject (by omega) error) (hlonger (some error))

/-- There is at most one verdict for each change. -/
theorem SettlesAll.length_le {config left : DeviceConfig} {asked : List (Option Change)}
    {verdicts : List (Option ConfigError)} (h : config.SettlesAll asked left verdicts) :
    verdicts.length ≤ asked.length := by
  induction h with
  | nil => exact Nat.le_refl 0
  | @cons config between left asked verdict rest verdicts _ _ ih =>
    rw [List.length_append, List.length_cons]
    have hone := Option.length_toList_le (o := verdict)
    omega

variable {β γ : Type} {asked : Option β} {config : DeviceConfig} {change : β → Change}

/-- The outcome of a change is that a value was put in place, or that it was refused. -/
inductive Judges (put : γ → DeviceConfig) : Except ConfigError DeviceConfig → Option γ → Option ConfigError → Prop where
  | allowed (value : γ) : Judges put (.ok (put value)) (some value) none
  | refused (error : ConfigError) : Judges put (.error error) none (some error)

/-- A change that puts a value in place where that is allowed leaves this value or the one before. -/
theorem settles_map (put : γ → DeviceConfig) {old : γ} (hput : put old = config) {taken : β → Option γ}
    {fault : β → Option ConfigError} (hjudges : ∀ value, Judges put (change value config) (taken value) (fault value)) :
    config.Settles (asked.map change) (put ((asked.bind taken).getD old)) (asked.map fault) := by
  cases asked with
  | none =>
    show config.Settles none (put old) none
    rw [hput]
    exact .unasked
  | some value =>
    have hvalue := hjudges value
    show config.Settles (some (change value)) (put ((taken value).getD old)) (some (fault value))
    generalize houtcome : change value config = outcome at hvalue
    generalize taken value = taken, fault value = fault at hvalue ⊢
    cases hvalue with
    | allowed new => exact .stored houtcome
    | refused error =>
      rw [Option.getD_none, hput]
      exact .refused houtcome

/-- Where all that counts is a condition on the value, one that meets it is left. -/
theorem settles_filter (put : β → DeviceConfig) {old : β} (hput : put old = config) {accepts : β → Bool}
    {fault : β → Option ConfigError}
    (hjudges : ∀ value, Judges put (change value config) (Option.guard accepts value) (fault value)) :
    config.Settles (asked.map change) (put ((asked.filter accepts).getD old)) (asked.map fault) := by
  have hfilter : asked.filter accepts = asked.bind (Option.guard accepts) := by
    cases asked <;> rfl
  rw [hfilter]
  exact settles_map put hput hjudges

/-- A change of a field that does no more than check its range is settled by that range alone. -/
theorem settles_check (range : FieldRange) (word : β → UInt32) (unword : UInt32 → β)
    (hword : ∀ value, unword (word value) = value) (get : DeviceConfig → β) (put : β → DeviceConfig → DeviceConfig)
    (hput : ∀ config, put (get config) config = config) (asked : Option β) (config : DeviceConfig) :
    config.Settles
      (asked.map fun value config => do
        let accepted ← range.check (word value)
        return put (unword accepted) config)
      (put ((asked.filter fun value => range.contains (word value)).getD (get config)) config)
      (asked.map fun value => range.fault (word value)) := by
  refine settles_filter (fun value => put value config) (hput config) fun value => ?_
  unfold FieldRange.check FieldRange.fault Option.guard
  by_cases h : range.contains (word value) = true
  · simp only [if_pos h]
    show Judges _ (.ok (put (unword (word value)) config)) _ _
    rw [hword]
    exact .allowed value
  · simp only [if_neg h]
    exact .refused _

end DeviceConfig

/-! ## The settings that are left -/

namespace RemoteConfig

variable (remote : RemoteConfig) (config : DeviceConfig)

/-- The counting mode that is asked for, if its code is known. -/
def askedMode : Option CountingMode := remote.modes.countingMode.bind fun code => CountingMode.all[code.toNat]?

/-- The sensor is a known one and can serve the counting mode that the device is to have. -/
def acceptsSensor (code : UInt8) : Bool :=
  (SensorModel.lookup? code).any fun model =>
    remote.askedMode.getD config.countingMode != .occupancy || model.supportsOccupancy

/-- The sensor that is left. -/
def sensorLeft : UInt8 := (remote.sensor.sensorType.filter (remote.acceptsSensor config)).getD config.sensorType

/-- Why the sensor is refused, if it is. -/
def sensorFault (code : UInt8) : Option ConfigError :=
  if remote.acceptsSensor config code then none
  else if SensorModel.isKnown code then some (.noOccupancySupport .sensorType code)
  else some (.unknownCode .sensorType code.toUInt32)

/-- Why the counting mode is refused, if it is; the sensor that is left has to serve it. -/
def countingModeFault (code : UInt8) : Option ConfigError :=
  match CountingMode.all[code.toNat]? with
  | none => some (.unknownCode .countingMode code.toUInt32)
  | some mode =>
    if supportsMode (remote.sensorLeft config) mode then none
    else some (.noOccupancySupport .countingMode (remote.sensorLeft config))

/-- The settings that are left, field by field. -/
def settled : DeviceConfig :=
  { config with
    sensorType := remote.sensorLeft config
    occupancyDebounce :=
      (remote.sensor.occupancyDebounce.filter FieldRange.occupancyDebounce.contains).getD config.occupancyDebounce
    countingMode := (remote.askedMode.filter (supportsMode (remote.sensorLeft config))).getD config.countingMode
    operatingMode :=
      (remote.modes.operatingMode.bind fun code => OperatingMode.all[code.toNat]?).getD config.operatingMode
    openHour := (remote.timing.openHour.filter (FieldRange.openHour.contains ·.toUInt32)).getD config.openHour
    closeHour := (remote.timing.closeHour.filter (FieldRange.closeHour.contains ·.toUInt32)).getD config.closeHour
    reportingInterval :=
      (remote.timing.reportingInterval.filter FieldRange.reportingInterval.contains).getD config.reportingInterval
    connectBudget := (remote.timing.connectBudget.filter FieldRange.connectBudget.contains).getD config.connectBudget
    cloudDisconnectBudget :=
      (remote.timing.cloudDisconnectBudget.filter FieldRange.cloudDisconnectBudget.contains).getD
        config.cloudDisconnectBudget
    modemOffBudget :=
      (remote.timing.modemOffBudget.filter FieldRange.modemOffBudget.contains).getD config.modemOffBudget }

/-- The verdicts on the settings asked for, in the order in which they are applied. -/
def verdicts : List (Option ConfigError) :=
  [remote.sensor.sensorType.map (remote.sensorFault config),
   remote.sensor.occupancyDebounce.map FieldRange.occupancyDebounce.fault,
   remote.modes.countingMode.map (remote.countingModeFault config),
   remote.modes.operatingMode.map fun code => refusalOf (OperatingMode.ofCode code.toUInt32),
   remote.timing.openHour.map (FieldRange.openHour.fault ·.toUInt32),
   remote.timing.closeHour.map (FieldRange.closeHour.fault ·.toUInt32),
   remote.timing.reportingInterval.map FieldRange.reportingInterval.fault,
   remote.timing.connectBudget.map FieldRange.connectBudget.fault,
   remote.timing.cloudDisconnectBudget.map FieldRange.cloudDisconnectBudget.fault,
   remote.timing.modemOffBudget.map FieldRange.modemOffBudget.fault].flatMap Option.toList

end RemoteConfig

/-- The verdicts on the power section: an override may be ended, and then a new one set. -/
def PowerRequest.verdicts (power : PowerRequest) : List (Option ConfigError) :=
  (if power.clearTestSocOverride = some true then [none] else []) ++
    (power.testSocOverride.map (FieldRange.testSocOverride.fault ·.toUInt32)).toList

/-- A byte stands for the counting mode in its place. -/
theorem CountingMode.ofCode_toUInt32 (code : UInt8) :
    ofCode code.toUInt32 = (all[code.toNat]?).elim (.error (.unknownCode .countingMode code.toUInt32)) .ok := by
  unfold ofCode
  rw [UInt8.toNat_toUInt32]
  cases all[code.toNat]? <;> rfl

/-- A byte stands for the operating mode in its place. -/
theorem OperatingMode.ofCode_toUInt32 (code : UInt8) :
    ofCode code.toUInt32 = (all[code.toNat]?).elim (.error (.unknownCode .operatingMode code.toUInt32)) .ok := by
  unfold ofCode
  rw [UInt8.toNat_toUInt32]
  cases all[code.toNat]? <;> rfl

namespace DeviceConfig

variable {config : DeviceConfig} {remote : RemoteConfig}

/-- The mode that the device is to have is the one asked for, or else the one in force. -/
theorem targetMode_eq (config : DeviceConfig) (remote : RemoteConfig) :
    remote.targetMode config = remote.askedMode.getD config.countingMode := by
  unfold RemoteConfig.targetMode RemoteConfig.askedMode
  cases remote.modes.countingMode with
  | none => rfl
  | some code =>
    dsimp only
    rw [CountingMode.ofCode_toUInt32, Option.bind_some]
    cases CountingMode.all[code.toNat]? <;> rfl

/-- A sensor that was asked for is judged by the mode that the device is to have. -/
theorem settles_sensor (remote : RemoteConfig) (config : DeviceConfig) :
    config.Settles
      (remote.sensor.sensorType.map fun code config => config.setSensorTypeFor code (remote.targetMode config))
      { config with sensorType := remote.sensorLeft config }
      (remote.sensor.sensorType.map (remote.sensorFault config)) := by
  refine settles_filter (fun code => { config with sensorType := code }) rfl fun code => ?_
  unfold setSensorTypeFor checkSupport Option.guard RemoteConfig.sensorFault RemoteConfig.acceptsSensor supportsMode
    SensorModel.isKnown
  rw [targetMode_eq]
  cases SensorModel.lookup? code with
  | none => exact .refused _
  | some model =>
    rw [Option.isSome_some, Option.any_some, Option.all_some]
    cases remote.askedMode.getD config.countingMode != .occupancy || model.supportsOccupancy
    · exact .refused _
    · exact .allowed code

/-- A counting mode that was asked for is judged by the sensor that is left, and is stored where both its code
and the sensor allow it. -/
theorem settles_countingMode (remote : RemoteConfig) (config : DeviceConfig) {before : DeviceConfig}
    (hsensor : before.sensorType = remote.sensorLeft config) :
    before.Settles (remote.modes.countingMode.map RemoteConfig.changeCountingMode)
      { before with
        countingMode := (remote.askedMode.filter (supportsMode (remote.sensorLeft config))).getD before.countingMode }
      (remote.modes.countingMode.map (remote.countingModeFault config)) := by
  have hfilter : remote.askedMode.filter (supportsMode (remote.sensorLeft config)) =
      remote.modes.countingMode.bind fun code =>
        CountingMode.all[code.toNat]?.filter (supportsMode (remote.sensorLeft config)) := by
    unfold RemoteConfig.askedMode
    cases remote.modes.countingMode <;> rfl
  rw [hfilter]
  refine settles_map (fun mode => { before with countingMode := mode }) rfl fun code => ?_
  unfold RemoteConfig.changeCountingMode RemoteConfig.countingModeFault
  rw [CountingMode.ofCode_toUInt32]
  cases CountingMode.all[code.toNat]? with
  | none => exact .refused _
  | some mode =>
    show Judges _ (before.setCountingMode mode) _ _
    rw [setCountingMode_eq, hsensor, Option.filter_some]
    dsimp only
    cases supportsMode (remote.sensorLeft config) mode
    · exact .refused _
    · exact .allowed mode

/-- An operating mode is stored where its code is known. -/
theorem settles_operatingMode (asked : Option UInt8) (config : DeviceConfig) :
    config.Settles (asked.map RemoteConfig.changeOperatingMode)
      { config with
        operatingMode := (asked.bind fun code => OperatingMode.all[code.toNat]?).getD config.operatingMode }
      (asked.map fun code => refusalOf (OperatingMode.ofCode code.toUInt32)) := by
  refine settles_map (fun mode => { config with operatingMode := mode }) rfl fun code => ?_
  unfold RemoteConfig.changeOperatingMode
  rw [OperatingMode.ofCode_toUInt32]
  cases OperatingMode.all[code.toNat]? with
  | none => exact .refused _
  | some mode => exact .allowed mode

/-- Applied one after the other, the changes leave the settings that are left field by field. -/
theorem settlesAll_changes (remote : RemoteConfig) (config : DeviceConfig) :
    ∃ asked, remote.changes = asked.filterMap id ∧ asked.length = 10 ∧
      config.SettlesAll asked (remote.settled config) (remote.verdicts config) := by
  refine ⟨_, rfl, rfl, ?_⟩
  apply SettlesAll.cons (settles_sensor remote config)
  apply SettlesAll.cons (settles_check .occupancyDebounce id id (fun _ => rfl) occupancyDebounce
    (fun ms config => { config with occupancyDebounce := ms }) (fun _ => rfl) _ _)
  apply SettlesAll.cons (settles_countingMode remote config rfl)
  apply SettlesAll.cons (settles_operatingMode _ _)
  apply SettlesAll.cons (settles_check .openHour UInt8.toUInt32 UInt32.toUInt8 UInt8.toUInt8_toUInt32 openHour
    (fun hour config => { config with openHour := hour }) (fun _ => rfl) _ _)
  apply SettlesAll.cons (settles_check .closeHour UInt8.toUInt32 UInt32.toUInt8 UInt8.toUInt8_toUInt32 closeHour
    (fun hour config => { config with closeHour := hour }) (fun _ => rfl) _ _)
  apply SettlesAll.cons (settles_check .reportingInterval id id (fun _ => rfl) reportingInterval
    (fun secs config => { config with reportingInterval := secs }) (fun _ => rfl) _ _)
  apply SettlesAll.cons (settles_check .connectBudget id id (fun _ => rfl) connectBudget
    (fun secs config => { config with connectBudget := secs }) (fun _ => rfl) _ _)
  apply SettlesAll.cons (settles_check .cloudDisconnectBudget id id (fun _ => rfl)
    cloudDisconnectBudget (fun secs config => { config with cloudDisconnectBudget := secs }) (fun _ => rfl) _ _)
  apply SettlesAll.cons (settles_check .modemOffBudget id id (fun _ => rfl) modemOffBudget
    (fun secs config => { config with modemOffBudget := secs }) (fun _ => rfl) _ _)
  exact SettlesAll.nil

/-- Remote settings leave the settings that are left field by field, and the report accounts for each of them. -/
theorem applyRemote_settles (config : DeviceConfig) (remote : RemoteConfig) :
    (config.applyRemote remote).value.1 = remote.settled config ∧
      (config.applyRemote remote).value.2.Accounts (remote.verdicts config) := by
  obtain ⟨asked, hchanges, hlength, hsettles⟩ := settlesAll_changes remote config
  have hroom : ([] : List (Option ConfigError)).length + asked.length ≤ maxRejected := by
    rw [hlength]
    decide
  rw [value_applyRemote, hchanges]
  exact hsettles.accounts ApplyReport.accounts_empty hroom

/-- The power section is left room in the report. -/
theorem length_verdicts_le (remote : RemoteConfig) (config : DeviceConfig) :
    (remote.verdicts config).length + 2 ≤ maxRejected := by
  obtain ⟨asked, _, hlength, hsettles⟩ := settlesAll_changes remote config
  have hshort := hsettles.length_le
  show (remote.verdicts config).length + 2 ≤ 12
  omega

end DeviceConfig

/-- The power section leaves the override that it asks for, and the report accounts for it too. -/
theorem RuntimeStatus.accounts_applyRemotePower (status : RuntimeStatus) (power : PowerRequest)
    {report : ApplyReport} {verdicts : List (Option ConfigError)} (h : report.Accounts verdicts)
    (hroom : verdicts.length + 2 ≤ maxRejected) :
    (status.applyRemotePower power report).value.2.Accounts (verdicts ++ power.verdicts) := by
  have hended : ∃ cleared counted, (if power.clearTestSocOverride = some true
        then ({ status with testSocOverride := none }, report.accept) else (status, report)) = (cleared, counted) ∧
      counted.Accounts (verdicts ++ if power.clearTestSocOverride = some true then [none] else []) := by
    split
    · exact ⟨_, _, rfl, h.accept (by omega)⟩
    · exact ⟨_, _, rfl, by rwa [List.append_nil]⟩
  obtain ⟨cleared, counted, hpair, hcounted⟩ := hended
  have hshort :
      (if power.clearTestSocOverride = some true then [none] else ([] : List (Option ConfigError))).length ≤ 1 := by
    split
    · exact Nat.le_refl 1
    · exact Nat.zero_le 1
  unfold applyRemotePower PowerRequest.verdicts
  rw [hpair, ← List.append_assoc]
  dsimp only
  cases power.testSocOverride with
  | none => rwa [Option.map_none, Option.toList_none, List.append_nil]
  | some soc =>
    have hrecorded :=
      hcounted.record (by rw [List.length_append]; omega) (FieldRange.testSocOverride.check soc.toUInt32)
    have hfault : refusalOf (FieldRange.testSocOverride.check soc.toUInt32) =
        FieldRange.testSocOverride.fault soc.toUInt32 := by
      unfold FieldRange.check FieldRange.fault
      split <;> rfl
    rwa [hfault] at hrecorded

/-! ## What a load leaves -/

/-- A report is clean where it accounts for no refusal. -/
theorem ApplyReport.Accounts.isClean_eq {report : ApplyReport} {verdicts : List (Option ConfigError)}
    (h : report.Accounts verdicts) : report.isClean = verdicts.all Option.isNone := by
  unfold ApplyReport.isClean
  rw [h.rejected]
  clear h
  induction verdicts with
  | nil => rfl
  | cons verdict verdicts ih =>
    cases verdict with
    | none => exact ih
    | some error => rfl

namespace DeviceConfig

/-- Remote settings were delivered, and none of them was refused. -/
def acceptsAll (config : DeviceConfig) (answer : Option RemoteConfig) : Bool :=
  answer.any fun remote => (remote.verdicts config ++ remote.power.verdicts).all Option.isNone

/-- The settings after a load that was answered so. -/
def leftByLoad (config : DeviceConfig) (answer : Option RemoteConfig) : DeviceConfig :=
  answer.elim config (·.settled config)

end DeviceConfig

/-- A load leaves the settings field by field, and does not raise an alert where all of them were accepted. -/
theorem Records.reloaded_eq (records : Records) (now : UInt32) (answer : Option RemoteConfig) :
    ∃ testSocOverride, (records.reloaded now answer).2 =
      let left : Records :=
        { config := records.config.leftByLoad answer, status := { records.status with testSocOverride } }
      if records.config.acceptsAll answer then left else (left.raiseAlert .configApplyFailed now).value := by
  cases answer with
  | none => exact ⟨records.status.testSocOverride, rfl⟩
  | some remote =>
    obtain ⟨hleft, hreport⟩ := records.config.applyRemote_settles remote
    have hwhole := records.status.accounts_applyRemotePower remote.power hreport
      (DeviceConfig.length_verdicts_le remote records.config)
    obtain ⟨testSocOverride, hfields⟩ :=
      records.status.fields_applyRemotePower remote.power (records.config.applyRemote remote).value.2
    refine ⟨testSocOverride, ?_⟩
    unfold reloaded DeviceConfig.acceptsAll DeviceConfig.leftByLoad
    dsimp only
    rw [hleft, hfields, hwhole.isClean_eq, Option.any_some, Option.elim_some]

/-- What remote settings leave and report, field by field. From any settings at all, each value asked for that
its field accepts is left there and every other field is left alone. The report counts the accepted ones and
lists one refusal for every other, in order, and so it does after the power section, so that none is ever
dropped. Usable settings stay usable, and the facts about the past are not touched. -/
theorem DeviceConfig.applyRemote_fieldwise (config : DeviceConfig) (remote : RemoteConfig) (status : RuntimeStatus) :
    let (left, report) := (config.applyRemote remote).value
    let (_, whole) := (status.applyRemotePower remote.power report).value
    left = remote.settled config ∧
      report.Accounts (remote.verdicts config) ∧
      whole.Accounts (remote.verdicts config ++ remote.power.verdicts) ∧
      (config.isSane = true → left.isSane = true) ∧ left.past = config.past := by
  obtain ⟨hleft, hreport⟩ := applyRemote_settles config remote
  have hwhole := status.accounts_applyRemotePower remote.power hreport (length_verdicts_le remote config)
  exact ⟨hleft, hreport, hwhole, fun hsane => isSane_applyRemote hsane remote, past_applyRemote config remote⟩

/-- A device in occupancy mode is asked for a sensor that cannot tell occupancy, together with a mode that can
do without, and for hours and budgets at and beyond the ends of their ranges. Seven values are left as asked
for, three are refused, and of the power section the end of the override is accepted and the new one refused. -/
theorem applyRemote_fieldwise_mixed :
    let config : DeviceConfig := { countingMode := .occupancy, sensorType := 3, resetCount := 2, lastReport := 77 }
    let remote : RemoteConfig :=
      { modes := { countingMode := some 2, operatingMode := some 3 }
        timing := { openHour := some 23, closeHour := some 24, reportingInterval := some 60,
                    connectBudget := some 900, cloudDisconnectBudget := some 4, modemOffBudget := some 5 }
        sensor := { sensorType := some 2, occupancyDebounce := some 3600000 }
        power := { testSocOverride := some 101, clearTestSocOverride := some true } }
    let status : RuntimeStatus := { testSocOverride := some 30 }
    let (left, report) := (config.applyRemote remote).value
    let (_, whole) := (status.applyRemotePower remote.power report).value
    config.isSane = true ∧ report.applied = 7 ∧ report.rejected.length = 3 ∧
      whole.applied = 8 ∧ whole.rejected.length = 4 ∧
      left = { config with sensorType := 2, countingMode := .scheduled, openHour := 23, reportingInterval := 60,
                           connectBudget := 900, modemOffBudget := 5, occupancyDebounce := 3600000 } ∧
      left = remote.settled config ∧
      report.Accounts (remote.verdicts config) ∧
      whole.Accounts (remote.verdicts config ++ remote.power.verdicts) ∧
      left.isSane = true ∧ left.past = config.past := by
  intro config remote status
  have hfieldwise := config.applyRemote_fieldwise remote status
  exact ⟨by decide, by decide, by decide, by decide, by decide, by decide, hfieldwise.1, hfieldwise.2.1,
    hfieldwise.2.2.1, hfieldwise.2.2.2.1 (by decide), hfieldwise.2.2.2.2⟩

end FieldCounter
