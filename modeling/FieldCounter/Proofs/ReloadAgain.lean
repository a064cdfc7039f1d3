import FieldCounter.Proofs.Online

/-!
# Loading the same remote settings again

Remote settings that are loaded a second time change nothing more, and they are reported on as before.
A change comes to the same again as long as nothing it depends on is changed after it, so it is enough
that no later change disturbs an earlier one. All but one pair of them have nothing to do with each
other. The sensor is judged by the counting mode asked for and not by the one in force, so a mode that
is stored after the sensor is the very mode by which the sensor was judged.
-/

namespace FieldCounter

open Program (Path)

/-! ## A change made again -/

namespace Change

/-- On these settings the change comes to the given outcome, but stores nothing new. -/
def Repeats (change : Change) (outcome : Except ConfigError DeviceConfig) (config : DeviceConfig) : Prop :=
  change config = outcome.map fun _ => config

/-- What the change came to, it comes to again on the settings it leaves. -/
def Lasts (change : Change) : Prop :=
  ∀ config, change.Repeats (change config) ((change config).toOption.getD config)

/-- Whatever the change came to, it still comes to after the other one. -/
def Undisturbed (change other : Change) : Prop := ∀ outcome, other.Keeps (change.Repeats outcome)

variable {β γ : Type}

/-- The change that puts a value in place where the settings allow it. -/
def putting (judge : DeviceConfig → Except ConfigError β) (put : β → DeviceConfig → DeviceConfig) : Change :=
  fun config => do return put (← judge config) config

variable {judge : DeviceConfig → Except ConfigError β} {put : β → DeviceConfig → DeviceConfig}
  {judgeOther : DeviceConfig → Except ConfigError γ} {putOther : γ → DeviceConfig → DeviceConfig}

/-- A value that is allowed as before once it is in place, is put there once and for all. -/
theorem lasts_putting (hput : ∀ value config, put value (put value config) = put value config)
    (hjudge : ∀ value config, judge config = .ok value → judge (put value config) = .ok value) :
    (putting judge put).Lasts := by
  intro config
  unfold Repeats putting
  cases hconfig : judge config with
  | error error =>
    show (do return put (← judge config) config) = _
    rw [hconfig]
    rfl
  | ok value =>
    show (do return put (← judge (put value config)) (put value config)) = _
    rw [hjudge value config hconfig]
    exact congrArg Except.ok (hput value config)

/-- Two changes that put their values in different places do not disturb each other where the second
value has no say in whether the first one is allowed. -/
theorem undisturbed_putting
    (hput : ∀ value other config, put value (putOther other config) = putOther other (put value config))
    (hjudge : ∀ other config, judgeOther config = .ok other → judge (putOther other config) = judge config) :
    (putting judge put).Undisturbed (putting judgeOther putOther) := by
  intro outcome config stored hrepeats hstored
  unfold Repeats at hrepeats ⊢
  unfold putting at hrepeats hstored ⊢
  cases hother : judgeOther config with
  | error error =>
    rw [hother] at hstored
    cases hstored
  | ok other =>
    rw [hother] at hstored
    obtain rfl : putOther other config = stored := Except.ok.inj hstored
    rw [hjudge other config hother]
    cases hconfig : judge config with
    | error error =>
      rw [hconfig] at hrepeats
      cases outcome with
      | error refused => exact hrepeats
      | ok allowed => cases hrepeats
    | ok value =>
      rw [hconfig] at hrepeats
      cases outcome with
      | error refused => cases hrepeats
      | ok allowed =>
        have hplaced : put value config = config := Except.ok.inj hrepeats
        show Except.ok (put value (putOther other config)) = .ok (putOther other config)
        rw [hput, hplaced]

/-- A change that is asked for or not lasts if it lasts where it is asked for. -/
theorem lasts_map {change : β → Change} {asked : Option β} (h : ∀ b, (change b).Lasts) :
    ∀ c ∈ asked.map change, c.Lasts := by
  intro c hc
  obtain ⟨b, _, rfl⟩ := Option.map_eq_some_iff.mp hc
  exact h b

/-- Of two changes that are asked for or not, one does not disturb the other if it does not where both
are asked for. -/
theorem undisturbed_map {change : β → Change} {other : γ → Change} {asked : Option β} {later : Option γ}
    (h : ∀ b c, b ∈ asked → c ∈ later → (change b).Undisturbed (other c)) :
    ∀ first ∈ asked.map change, ∀ second ∈ later.map other, first.Undisturbed second := by
  intro first hfirst second hsecond
  obtain ⟨b, hb, rfl⟩ := Option.map_eq_some_iff.mp hfirst
  obtain ⟨c, hc, rfl⟩ := Option.map_eq_some_iff.mp hsecond
  exact h b c hb hc

end Change

namespace DeviceConfig

/-- A change that comes to the same again leaves the settings as they are and is reported as before. -/
theorem value_applyChange_of_repeats {change : Change} {config final : DeviceConfig}
    (h : change.Repeats (change config) final) (report : ApplyReport) :
    (applyChange (final, report) change).value = (final, (applyChange (config, report) change).value.2) := by
  have hfinal : change final = (change config).map fun _ => final := h
  unfold applyChange
  dsimp only
  rw [hfinal]
  cases change config <;> rfl

/-- Changes that last and do not disturb each other come to the same when all are made again. -/
theorem value_foldlM_again {asked : List (Option Change)}
    (hlasts : ∀ option ∈ asked, ∀ change ∈ option, change.Lasts)
    (hpairs : asked.Pairwise fun earlier later => ∀ change ∈ earlier, ∀ other ∈ later, change.Undisturbed other)
    (config : DeviceConfig) (report : ApplyReport) :
    ((asked.filterMap id).foldlM applyChange
        (((asked.filterMap id).foldlM applyChange (config, report)).value.1, report)).value =
      ((asked.filterMap id).foldlM applyChange (config, report)).value := by
  induction asked generalizing config report with
  | nil => rfl
  | cons option asked ih =>
    obtain ⟨hlater, hrest⟩ := List.pairwise_cons.mp hpairs
    have hagain := ih (fun option hoption => hlasts option (List.mem_cons_of_mem _ hoption)) hrest
    cases option with
    | none => exact hagain config report
    | some change =>
      rw [value_foldlM_cons, value_foldlM_cons]
      show ((asked.filterMap id).foldlM applyChange (applyChange _ change).value).value = _
      -- the change comes to the same right after it was made, and no later one disturbs that
      have hmade : change.Repeats (change config) (applyAsked (config, report) (some change)).1 := by
        show change.Repeats (change config) (applyChange (config, report) change).value.1
        rw [value_applyChange]
        exact hlasts (some change) List.mem_cons_self change rfl config
      have hrepeats := keeps_foldlM
        (fun option hoption other hother => hlater option hoption change rfl other hother (change config)) hmade
      rw [value_applyChange_of_repeats hrepeats]
      exact hagain _ _

/-! ## The changes of a remote configuration -/

/-- A sensor is known and can serve the mode it is judged by, or else the reason why it is refused. -/
def judgeSensor (remote : RemoteConfig) (code : UInt8) (config : DeviceConfig) : Except ConfigError Unit := do
  if !SensorModel.isKnown code then
    throw (.unknownCode .sensorType code.toUInt32)
  checkSupport .sensorType code (remote.targetMode config)

/-- The sensor is put in place where it is known and can serve the mode it is judged by. -/
theorem sensorChange_eq (remote : RemoteConfig) :
    (fun (code : UInt8) (config : DeviceConfig) => config.setSensorTypeFor code (remote.targetMode config)) =
      fun code => Change.putting (judgeSensor remote code) fun _ config => { config with sensorType := code } := by
  funext code config
  unfold setSensorTypeFor Change.putting judgeSensor
  cases SensorModel.isKnown code <;> rfl

/-- The mode with the given code, where the sensor can serve it. -/
def judgeMode (code : UInt8) (config : DeviceConfig) : Except ConfigError CountingMode := do
  let mode ← CountingMode.ofCode code.toUInt32
  checkSupport .countingMode config.sensorType mode
  return mode

/-- The counting mode is put in place where its code is known and the sensor can serve it. -/
theorem changeCountingMode_eq :
    RemoteConfig.changeCountingMode =
      fun code => Change.putting (judgeMode code) fun mode config => { config with countingMode := mode } := by
  funext code config
  unfold RemoteConfig.changeCountingMode setCountingMode Change.putting judgeMode
  cases CountingMode.ofCode code.toUInt32 with
  | error error => rfl
  | ok mode =>
    show (checkSupport .countingMode config.sensorType mode >>= _) = (checkSupport _ _ _ >>= _) >>= _
    cases checkSupport .countingMode config.sensorType mode <;> rfl

/-- Only the mode with the given code is ever put in place. -/
theorem ofCode_of_judgeMode {code : UInt8} {mode : CountingMode} {config : DeviceConfig}
    (h : judgeMode code config = .ok mode) : CountingMode.ofCode code.toUInt32 = .ok mode := by
  unfold judgeMode at h
  cases hasked : CountingMode.ofCode code.toUInt32 with
  | error error =>
    rw [hasked] at h
    cases h
  | ok asked =>
    rw [hasked] at h
    change (checkSupport .countingMode config.sensorType asked >>= fun _ => pure asked) = _ at h
    cases hsupport : checkSupport .countingMode config.sensorType asked with
    | error error =>
      rw [hsupport] at h
      cases h
    | ok _ =>
      rw [hsupport] at h
      exact h

/-- A counting mode that is stored does not change what the sensor asked for beside it is judged by. -/
theorem judgeSensor_of_judgeMode {remote : RemoteConfig} {asked code : UInt8} {mode : CountingMode}
    {config : DeviceConfig} (hasked : asked ∈ remote.modes.countingMode) (h : judgeMode asked config = .ok mode) :
    judgeSensor remote code { config with countingMode := mode } = judgeSensor remote code config := by
  have htarget (other : DeviceConfig) : remote.targetMode other = mode := by
    unfold RemoteConfig.targetMode
    rw [Option.mem_def.mp hasked]
    dsimp only
    rw [ofCode_of_judgeMode h]
    rfl
  unfold judgeSensor
  rw [htarget, htarget]

/-- Remote settings that are applied again come to the same settings and the same report. -/
theorem value_applyRemote_again (config : DeviceConfig) (remote : RemoteConfig) :
    ((config.applyRemote remote).value.1.applyRemote remote).value = (config.applyRemote remote).value := by
  rw [value_applyRemote, value_applyRemote, RemoteConfig.changes, sensorChange_eq, changeCountingMode_eq]
  refine value_foldlM_again ?_ ?_ config {}
  · intro option hoption
    simp only [List.mem_cons, List.not_mem_nil, or_false] at hoption
    rcases hoption with rfl | rfl | rfl | rfl | rfl | rfl | rfl | rfl | rfl | rfl
    all_goals exact Change.lasts_map fun _ => Change.lasts_putting (fun _ _ => rfl) fun _ _ h => h
  · have hsensor : ∀ code, ∀ asked ∈ remote.modes.countingMode, Change.Undisturbed
        (.putting (judgeSensor remote code) fun _ config => { config with sensorType := code })
        (.putting (judgeMode asked) fun mode config => { config with countingMode := mode }) :=
      fun code asked hasked =>
        Change.undisturbed_putting (fun _ _ _ => rfl) fun _ _ => judgeSensor_of_judgeMode hasked
    simp only [List.pairwise_cons, List.forall_mem_cons, List.not_mem_nil, false_implies, implies_true,
      and_true, List.Pairwise.nil]
    refine ⟨⟨?_, Change.undisturbed_map fun code asked _ => hsensor code asked, ?_⟩, ?_⟩
    all_goals repeat' apply And.intro
    -- every other pair of changes reads and writes different fields
    all_goals
      exact Change.undisturbed_map fun _ _ _ _ => Change.undisturbed_putting (fun _ _ _ => rfl) fun _ _ _ => rfl

end DeviceConfig

/-! ## The power section and the alert -/

/-- The override that the power section leaves: the one asked for if it is accepted, or else the one
before unless that is to end. -/
def PowerRequest.overrideLeft (power : PowerRequest) (before : Option UInt8) : Option UInt8 :=
  ((power.testSocOverride.bind fun soc => (FieldRange.testSocOverride.check soc.toUInt32).toOption).map
    (·.toUInt8)).or (if power.clearTestSocOverride = some true then none else before)

/-- An override that is ended and set anew, or neither, is the same the second time. -/
theorem PowerRequest.overrideLeft_again (power : PowerRequest) (before : Option UInt8) :
    power.overrideLeft (power.overrideLeft before) = power.overrideLeft before := by
  unfold overrideLeft
  cases (power.testSocOverride.bind fun soc => (FieldRange.testSocOverride.check soc.toUInt32).toOption).map
    (·.toUInt8) with
  | some asked => rfl
  | none =>
    simp only [Option.none_or]
    split <;> rfl

/-- An alert that is raised again at the same time leaves the slot as it is. -/
theorem AlertSlot.value_raise_again (slot : AlertSlot) (alert : Alert) (now : UInt32) :
    ((slot.raise alert now).value.raise alert now).value = (slot.raise alert now).value := by
  simp only [value_raise]
  cases haccepts : slot.accepts alert
  · simp [haccepts]
  · simp only [if_true, ite_self]

namespace RuntimeStatus

/-- The power section settles the override, and reports the same whatever the status was. -/
theorem value_applyRemotePower (power : PowerRequest) (report : ApplyReport) :
    ∃ reported, ∀ status : RuntimeStatus, (status.applyRemotePower power report).value =
      ({ status with testSocOverride := power.overrideLeft status.testSocOverride }, reported) := by
  unfold applyRemotePower PowerRequest.overrideLeft
  by_cases hclear : power.clearTestSocOverride = some true
  all_goals
    simp only [hclear, if_true, if_false]
    cases power.testSocOverride with
    | none => exact ⟨_, fun status => rfl⟩
    | some soc =>
      simp only [Option.bind_some]
      cases FieldRange.testSocOverride.check soc.toUInt32 with
      | error error => exact ⟨_, fun status => rfl⟩
      | ok accepted => exact ⟨_, fun status => rfl⟩

end RuntimeStatus

namespace Records

/-- The records after a load that was answered, with the report on it. -/
def reloaded (records : Records) (now : UInt32) : Option RemoteConfig → Option ApplyReport × Records
  | none => (none, (records.raiseAlert .configApplyFailed now).value)
  | some remote =>
    let applied := (records.config.applyRemote remote).value
    let powered := (records.status.applyRemotePower remote.power applied.2).value
    let left : Records := { config := applied.1, status := powered.1 }
    (some powered.2, if powered.2.isClean then left else (left.raiseAlert .configApplyFailed now).value)

/-- Writing notes first makes no difference to a path. -/
theorem path_logged_bind_iff {α β : Type} {x : Logged α} {f : α → Program β} {trace : List Exchange} {b : β} :
    Path ((liftM x : Program α) >>= f) trace b ↔ Path (f x.value) trace b := by
  obtain ⟨value, notes⟩ := x
  induction notes with
  | nil => rfl
  | cons note notes ih => exact Program.path_log_iff.trans ih

/-- Remote settings are fetched by one call, and its answer decides what becomes of the records. -/
theorem path_reloadRemote_iff {records : Records} {now : UInt32} {trace : List Exchange}
    {result : Option ApplyReport × Records} :
    Path (records.reloadRemote now) trace result ↔
      ∃ answer, trace = [⟨.loadRemote, answer⟩] ∧ result = records.reloaded now answer := by
  unfold reloadRemote FieldCounter.call
  simp only [Program.ask_bind, Program.done_bind, Program.path_ask_iff]
  refine exists_congr fun answer => ?_
  have hends (left : Option ApplyReport × Records) :
      (∃ rest, trace = ⟨.loadRemote, answer⟩ :: rest ∧ rest = [] ∧ result = left) ↔
        trace = [⟨.loadRemote, answer⟩] ∧ result = left :=
    ⟨fun ⟨_, htrace, hrest, hleft⟩ => ⟨hrest ▸ htrace, hleft⟩, fun ⟨htrace, hleft⟩ => ⟨[], htrace, rfl, hleft⟩⟩
  cases answer with
  | none =>
    simp only [path_logged_bind_iff, Program.pure_eq_done, Program.path_done_iff, reloaded]
    exact hends _
  | some remote =>
    simp only [path_logged_bind_iff, Program.pure_eq_done, reloaded]
    split
    all_goals
      simp only [path_logged_bind_iff, Program.path_done_iff]
      exact hends _

/-- Raising an alert changes nothing but the alert slot. -/
theorem value_raiseAlert (records : Records) (alert : Alert) (now : UInt32) :
    (records.raiseAlert alert now).value =
      { records with status := { records.status with alert := (records.status.alert.raise alert now).value } } :=
  rfl

/-- Records that are left by a load are left alone by another one that is answered the same. -/
theorem reloaded_again (records : Records) (now : UInt32) (answer : Option RemoteConfig) :
    (records.reloaded now answer).2.reloaded now answer = records.reloaded now answer := by
  cases answer with
  | none => simp only [reloaded, value_raiseAlert, AlertSlot.value_raise_again]
  | some remote =>
    obtain ⟨reported, hpower⟩ :=
      RuntimeStatus.value_applyRemotePower remote.power (records.config.applyRemote remote).value.2
    have hconfig := records.config.value_applyRemote_again remote
    unfold reloaded
    simp only [hpower]
    -- the alert is raised both times or not at all, as the report decides
    cases hclean : reported.isClean
    · simp only [Bool.false_eq_true, if_false, value_raiseAlert, hconfig, hpower, hclean,
        PowerRequest.overrideLeft_again, AlertSlot.value_raise_again]
    · simp only [if_true, hconfig, hpower, hclean, PowerRequest.overrideLeft_again]

/-- Loading remote settings is idempotent. From any records at all, usable or not, and for any answer of
the provider, the first load ends with some report and some records, and a second load that is answered
the same at the same time ends with the same report and leaves those records exactly as they are. -/
theorem reloadRemote_idempotent (records : Records) (now : UInt32) (answer : Option RemoteConfig) :
    ∃ report after, ∀ before ∈ [records, after], ∀ trace result,
      Path (before.reloadRemote now) trace result ∧ ⟨.loadRemote, answer⟩ ∈ trace ↔
        trace = [⟨.loadRemote, answer⟩] ∧ result = (report, after) := by
  refine ⟨(records.reloaded now answer).1, (records.reloaded now answer).2, fun before hbefore trace result => ?_⟩
  have hreloaded : before.reloaded now answer = records.reloaded now answer := by
    rcases List.mem_cons.mp hbefore with rfl | hafter
    · rfl
    · rw [List.mem_singleton.mp hafter]
      exact records.reloaded_again now answer
  rw [path_reloadRemote_iff]
  constructor
  · rintro ⟨⟨given, rfl, rfl⟩, hanswer⟩
    cases List.mem_singleton.mp hanswer
    exact ⟨rfl, hreloaded⟩
  · rintro ⟨rfl, rfl⟩
    exact ⟨⟨answer, rfl, hreloaded.symm⟩, List.mem_singleton_self _⟩

end Records

end FieldCounter
