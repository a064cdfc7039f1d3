import FieldCounter.Proofs.Script

/-!
# A reboot changes nothing

Over a store that keeps what is written, both records are usable at every point of every run, and
what was last known to be stored of a record is there. Every effect of a tick keeps this, so a run
does, by induction. A tick ends with both records written, so a boot after it loads them as they
were in memory, whether or not the tick ended in a restart.
-/

namespace FieldCounter

open Program (Path)

/-- Both records are usable, and the store holds what was last known to be stored of each. -/
structure Controller.Sound (c : Controller) (store : Store) : Prop where
  config : c.config.value.isSane = true
  status : c.status.value.isSane = true
  configStored : c.config.Stored store
  statusStored : c.status.Stored store

namespace Controller.Sound

variable {c : Controller} {store : Store}

/-- Another usable status in memory changes nothing in the store. -/
theorem setStatus (h : c.Sound store) {status : RuntimeStatus} (hsane : status.isSane = true) :
    (c.setStatus status).Sound store := ⟨h.config, hsane, h.configStored, h.statusStored⟩

/-- The two records as one. -/
theorem records (h : c.Sound store) : c.records.Sane := ⟨h.config, h.status⟩

end Controller.Sound

/-! ## Effects -/

/-- Apart from the writing of a record, and from calls that touch one, an effect touches no record. -/
theorem Effect.touchesRecord_of_mayCall {effect : Effect} {call : Call} (h : effect.mayCall call = true)
    (hconfig : effect ≠ .writeConfig) (hstatus : effect ≠ .writeStatus)
    (hask : ∀ call, effect = .ask call → call.touchesRecord = false) : call.touchesRecord = false := by
  have hplain : call.isPlain = true → call.touchesRecord = false := by
    intro hplain
    cases call <;> first | rfl | cases hplain
  have honline : call.isOnline = true → call.touchesRecord = false := by
    intro honline
    cases call <;> first | rfl | cases honline
  cases effect with
  | ask asked =>
    have hasked := hask asked rfl
    rwa [eq_of_beq h] at hasked
  | writeConfig => exact absurd rfl hconfig
  | writeStatus => exact absurd rfl hstatus
  | actOnline => exact honline h
  | _ => exact hplain (Effect.isPlain_of_mayCall h rfl)

/-- Every effect keeps both records usable. -/
theorem Effect.Does.sane {effect : Effect} {before after : Controller} {trace : List Exchange}
    (h : effect.Does before trace after) (hsane : before.records.Sane) : after.records.Sane := by
  have hcounted : ∀ {status : RuntimeStatus}, status.health = before.status.value.health → status.isSane = true :=
    fun hhealth => (RuntimeStatus.isSane_of_health hhealth).trans hsane.status
  cases h with
  | battery c reading now => exact ⟨hsane.config, RuntimeStatus.isSane_updateBattery hsane.status reading now⟩
  | raise c alert now => exact ⟨hsane.config, RuntimeStatus.isSane_raiseAlert hsane.status alert now⟩
  | clear c alert => exact ⟨hsane.config, RuntimeStatus.isSane_clearAlertIf hsane.status (· == alert)⟩
  | settle c moment =>
    have hknown := (RuntimeStatus.isSane_iff.mp hsane.status).2.2
    have hsettled := AlertSlot.isKnown_resolveAlert hknown (before.recoveryContext moment)
    exact ⟨hsane.config, RuntimeStatus.isSane_setAlert hsane.status hsettled⟩
  | service c edge moment => exact ⟨hsane.config, hcounted (CountingEngine.health_service ..)⟩
  | detection c moment => exact ⟨hsane.config, hcounted (CountingEngine.health_recordEvent ..)⟩
  | closeSession c now => exact ⟨hsane.config, hcounted (CountingEngine.health_closeOccupancy ..)⟩
  | credit c now => exact ⟨hsane.config, hcounted (before.status.value.health_creditOpenOccupancy now)⟩
  | actOnline hpath =>
    obtain ⟨_, settled, hsettled, hrecords⟩ := Records.kept_sane.actOnline hsane _ _ _ hpath
    have hafter := Records.sane_settleResetCount hsettled
    rwa [← hrecords] at hafter
  | reload hpath => exact Records.kept_sane.reloadRemote hsane _ hpath
  | writeConfig hpath =>
    have hvalue := congrArg DeviceConfig.isSane (Persisted.value_of_flush hpath)
    exact ⟨hvalue.trans hsane.config, hsane.status⟩
  | writeStatus hpath =>
    have hvalue := congrArg RuntimeStatus.isSane (Persisted.value_of_flush hpath)
    exact ⟨hsane.config, hvalue.trans hsane.status⟩
  | enter uptime =>
    have hprepared : (before.prepare uptime).records = before.records := by
      rw [Controller.records, before.config_prepare uptime, before.status_prepare uptime, Controller.records]
    have hafter := hsane
    rwa [← hprepared] at hafter
  | _ => exact ⟨hsane.config, hsane.status⟩

/-- Only the writing of a record changes what is known to be stored of it. -/
theorem Effect.Does.saved_eq {effect : Effect} {before after : Controller} {trace : List Exchange}
    (h : effect.Does before trace after) (hconfig : effect ≠ .writeConfig) (hstatus : effect ≠ .writeStatus) :
    after.config.saved = before.config.saved ∧ after.status.saved = before.status.saved := by
  cases h with
  | writeConfig => exact absurd rfl hconfig
  | writeStatus => exact absurd rfl hstatus
  | enter uptime =>
    exact ⟨congrArg (·.saved) (before.config_prepare uptime), congrArg (·.saved) (before.status_prepare uptime)⟩
  | _ => exact ⟨rfl, rfl⟩

/-- An effect that writes no record keeps both records usable, and what is stored stays stored. -/
theorem Effect.Does.sound_of_unwritten {effect : Effect} {before after : Controller} {trace : List Exchange}
    {store : Store} (h : effect.Does before trace after) (hconfig : effect ≠ .writeConfig)
    (hstatus : effect ≠ .writeStatus) (hsound : before.Sound store) : after.Sound store := by
  obtain ⟨hconfigSaved, hstatusSaved⟩ := h.saved_eq hconfig hstatus
  have hsane := h.sane hsound.records
  exact ⟨hsane.config, hsane.status, hsound.configStored.of_saved_eq hconfigSaved,
    hsound.statusStored.of_saved_eq hstatusSaved⟩

/-- A record that is written is in storage afterwards, and the other one is still there. -/
theorem Controller.Sound.writeConfig {c : Controller} {store later : Store} (h : c.Sound store)
    {trace : List Exchange} {written : Except StorageError Bool} {config : Persisted DeviceConfig}
    (hpath : Path c.config.flush trace (written, config)) (hserves : store.Serves trace later) :
    { c with config }.Sound later ∧ config.saved = some config.value := by
  have husable : Record.Usable c.config.value := DeviceConfig.usable_iff.mpr h.config
  obtain ⟨rfl, hstored, hothers⟩ := Persisted.stored_of_flush hpath hserves husable fun _ => h.configStored
  have hstatus : c.status.Stored later := h.statusStored.of_bytes_eq (hothers .status (by decide))
  exact ⟨⟨h.config, h.status, hstored, hstatus⟩, rfl⟩

/-- The same for the status. -/
theorem Controller.Sound.writeStatus {c : Controller} {store later : Store} (h : c.Sound store)
    {trace : List Exchange} {written : Except StorageError Bool} {status : Persisted RuntimeStatus}
    (hpath : Path c.status.flush trace (written, status)) (hserves : store.Serves trace later) :
    { c with status }.Sound later ∧ status.saved = some status.value := by
  have husable : Record.Usable c.status.value := RuntimeStatus.usable_iff.mpr h.status
  obtain ⟨rfl, hstored, hothers⟩ := Persisted.stored_of_flush hpath hserves husable fun _ => h.statusStored
  have hconfig : c.config.Stored later := h.configStored.of_bytes_eq (hothers .config (by decide))
  exact ⟨⟨h.config, h.status, hconfig, hstored⟩, rfl⟩

/-- Every effect keeps both records usable, and in storage what was last known to be stored. -/
theorem Effect.Does.sound {effect : Effect} {before after : Controller} {trace : List Exchange}
    {store later : Store} (h : effect.Does before trace after)
    (hask : ∀ call, effect = .ask call → call.touchesRecord = false) (hsound : before.Sound store)
    (hserves : store.Serves trace later) : after.Sound later := by
  by_cases hconfig : effect = .writeConfig
  · subst hconfig
    cases h with
    | writeConfig hpath => exact (hsound.writeConfig hpath hserves).1
  · by_cases hstatus : effect = .writeStatus
    · subst hstatus
      cases h with
      | writeStatus hpath => exact (hsound.writeStatus hpath hserves).1
    · have hsame : later = store := hserves.eq_of_untouched fun exchange hmem =>
        Effect.touchesRecord_of_mayCall (h.mayCall exchange hmem) hconfig hstatus hask
      rw [hsame]
      exact h.sound_of_unwritten hconfig hstatus hsound

/-- So does every sequence of effects. -/
theorem Effects.sound {allowed : Effect → Bool} {before after : Controller} {trace : List Exchange}
    {store later : Store} (h : Effects allowed before trace after)
    (hask : ∀ call, allowed (.ask call) = true → call.touchesRecord = false) (hsound : before.Sound store)
    (hserves : store.Serves trace later) : after.Sound later := by
  induction h generalizing store with
  | none c => rwa [Store.serves_nil_iff.mp hserves]
  | cons hallowed hdoes _ ih =>
    obtain ⟨between, hfirst, hrest⟩ := Store.serves_append_iff.mp hserves
    have hbetween := hdoes.sound (fun call heq => hask call (heq ▸ hallowed)) hsound hfirst
    exact ih hbetween hrest

/-! ## Ticks, boots and runs -/

/-- No state touches a record but by writing it. -/
theorem RunState.touchesRecord_of_ticks {state : RunState} {call : Call} (h : state.ticks (.ask call) = true) :
    call.touchesRecord = false := by
  cases call with
  | readRecord key => cases state <;> cases h
  | writeRecord key bytes => cases state <;> cases h
  | _ => rfl

/-- Both records are written at the end of a tick. -/
structure Controller.Saved (c : Controller) : Prop where
  config : c.config.saved = some c.config.value
  status : c.status.saved = some c.status.value

/-- A flush keeps both records usable and leaves them in storage. -/
theorem Controller.Sound.flush {c after : Controller} {store later : Store} (h : c.Sound store)
    {trace : List Exchange} (hpath : Path (Controller.flush.run c) trace ((), after))
    (hserves : store.Serves trace later) : after.Sound later ∧ after.Saved := by
  obtain ⟨first, _, config, second, _, status, hconfig, hstatus, rfl, rfl⟩ := Controller.flush_cases hpath
  obtain ⟨between, hfirst, hsecond⟩ := Store.serves_append_iff.mp hserves
  obtain ⟨hbetween, hconfigSaved⟩ := h.writeConfig hconfig hfirst
  obtain ⟨hlater, hstatusSaved⟩ := hbetween.writeStatus hstatus hsecond
  exact ⟨hlater, hconfigSaved, hstatusSaved⟩

/-- A tick keeps both records usable and leaves them in storage. -/
theorem Controller.Sound.tick {c after : Controller} {store later : Store} (h : c.Sound store)
    {trace : List Exchange} {control : Control} (hpath : Path (Controller.tick.run c) trace (control, after))
    (hserves : store.Serves trace later) : after.Sound later ∧ after.Saved := by
  obtain ⟨first, closing, ready, heffects, hflush, rfl⟩ := Controller.effects_tick hpath
  obtain ⟨between, hfirst, hclosing⟩ := Store.serves_append_iff.mp hserves
  have hready : ready.Sound between := heffects.sound (fun _ => RunState.touchesRecord_of_ticks) h hfirst
  exact hready.flush hflush hclosing

/-- A boot ends with both records usable and in storage, whatever was stored. -/
theorem sound_of_boot {c : Controller} {store later : Store} {trace : List Exchange}
    (hpath : Path Controller.boot trace c) (hserves : store.Serves trace later) : c.Sound later ∧ c.Saved := by
  obtain ⟨config, _, status, _, first, second, hconfig, hstatus, rfl, rfl⟩ := boot_cases hpath
  obtain ⟨between, hfirst, hsecond⟩ := Store.serves_append_iff.mp hserves
  obtain ⟨hconfigUsable, hconfigSaved, hconfigStored, _⟩ := Persisted.stored_of_load hconfig hfirst
  obtain ⟨hstatusUsable, hstatusSaved, hstatusStored, hothers⟩ := Persisted.stored_of_load hstatus hsecond
  have hkept : config.Stored later := hconfigStored.of_bytes_eq (hothers .config (by decide))
  exact ⟨⟨DeviceConfig.usable_iff.mp hconfigUsable, RuntimeStatus.usable_iff.mp hstatusUsable, hkept,
    hstatusStored⟩, hconfigSaved, hstatusSaved⟩

/-- Every event keeps both records usable, and in storage what was last known to be stored. -/
theorem Event.Leads.sound {event : Event} {state next : Option Controller} {store later : Store}
    (h : event.Leads state next) (hsound : ∀ c ∈ state, c.Sound store)
    (hserves : store.Serves event.calls later) : ∀ c ∈ next, c.Sound later := by
  intro c hc
  cases h with
  | boot hpath =>
    obtain rfl := Option.some.inj hc
    exact (sound_of_boot hpath hserves).1
  | tick hpath =>
    rename_i control
    cases control with
    | proceed =>
      obtain rfl := Option.some.inj hc
      exact ((hsound _ rfl).tick hpath hserves).1
    | restart => cases hc
  | raise before alert now =>
    obtain rfl := Option.some.inj hc
    have hbefore := hsound before rfl
    rw [Store.serves_nil_iff.mp hserves]
    exact hbefore.setStatus (RuntimeStatus.isSane_raiseAlert hbefore.status alert now)

/-- So does a run. -/
theorem Run.sound {state last : Option Controller} {history : List Event} {store later : Store}
    (h : Run state history last) (hsound : ∀ c ∈ state, c.Sound store)
    (hserves : store.Serves (callsOf history) later) : ∀ c ∈ last, c.Sound later := by
  induction h generalizing store with
  | nil state => rwa [Store.serves_nil_iff.mp hserves]
  | cons hleads _ ih =>
    obtain ⟨between, hfirst, hrest⟩ := Store.serves_append_iff.mp hserves
    exact ih (hleads.sound hsound hfirst) hrest

/-- Every value of both records is one that the device can use. -/
structure Controller.InBounds (c : Controller) : Prop where
  config : c.config.value.sanitize.value = (none, c.config.value)
  status : c.status.value.sanitize.value = (none, c.status.value)
  openHour : c.config.value.openHour ≤ 23
  closeHour : c.config.value.closeHour ≤ 23
  reportingInterval : 60 ≤ c.config.value.reportingInterval ∧ c.config.value.reportingInterval ≤ 86400
  occupancyDebounce : c.config.value.occupancyDebounce ≤ 3600000
  sensor : ∃ model ∈ SensorModel.table, model.code = c.config.value.sensorType ∧
    (c.config.value.countingMode = .occupancy → model.supportsOccupancy = true)
  batterySoc : c.status.value.batterySoc ≤ 100
  testSocOverride : ∀ soc ∈ c.status.value.testSocOverride, soc ≤ 100
  alert : c.status.value.alert.code = 0 ∨ ∃ alert : Alert, c.status.value.alert.code = alert.code

/-- Usable records hold only values in their ranges, and nothing in them has to be repaired. -/
theorem Controller.Sound.inBounds {c : Controller} {store : Store} (h : c.Sound store) : c.InBounds := by
  obtain ⟨hrange, hsupports⟩ := DeviceConfig.isSane_iff.mp h.config
  obtain ⟨hsoc, hoverride, halert⟩ := RuntimeStatus.isSane_iff.mp h.status
  obtain ⟨hopen, hclose, hinterval, hdebounce, hsensor⟩ := hrange
  obtain ⟨model, hmodel⟩ := Option.isSome_iff_exists.mp hsensor
  constructor
  · exact DeviceConfig.value_sanitize_of_isSane h.config
  · exact RuntimeStatus.value_sanitize_of_isSane h.status
  · exact UInt8.le_iff_toNat_le.mpr (FieldRange.le_of_contains_toUInt32 hopen)
  · exact UInt8.le_iff_toNat_le.mpr (FieldRange.le_of_contains_toUInt32 hclose)
  · exact FieldRange.contains_iff.mp hinterval
  · exact (FieldRange.contains_iff.mp hdebounce).2
  · refine ⟨model, List.mem_of_find?_eq_some hmodel, SensorModel.code_of_lookup? hmodel, fun hoccupancy => ?_⟩
    simpa [supportsMode, hoccupancy, hmodel] using hsupports
  · exact hsoc
  · intro soc hvalue
    unfold RuntimeStatus.hasSaneOverride at hoverride
    rw [Option.mem_def.mp hvalue] at hoverride
    exact of_decide_eq_true hoverride
  · rw [AlertSlot.isKnown, Bool.or_eq_true] at halert
    refine halert.imp eq_of_beq fun hcurrent => ?_
    obtain ⟨alert, hshown⟩ := Option.isSome_iff_exists.mp hcurrent
    exact ⟨alert, Alert.ofCode?_eq_some_iff.mp hshown⟩

/-- A record without unwritten changes is its value, stored. -/
theorem Persisted.eq_of_saved {α : Type} {record : Persisted α} (h : record.saved = some record.value) :
    record = { value := record.value, saved := some record.value } := by
  rw [← h]

/-- A boot over a store that holds both records loads them as they are. -/
theorem Controller.Sound.yields_boot {c : Controller} {store : Store} (h : c.Sound store) (hsaved : c.Saved) :
    store.Yields Controller.boot (.ofRecords c.config c.status) := by
  have hconfig := Persisted.yields_load h.configStored hsaved.config
  have hstatus := Persisted.yields_load h.statusStored hsaved.status
  exact hconfig.bind (hstatus.bind (store.yields_pure _))

/-- In every run over a store that keeps what is written, whatever it held at first and whatever the
other devices answer, the records of every controller hold only usable values; and after every tick,
a restarting one included, both records load from the store, never replaced, and a boot comes to the
values that were in memory. -/
theorem reboot_transparent {history : List Event} {state : Option Controller} {initial store : Store}
    (hrun : Run none history state) (hserves : initial.Serves (callsOf history) store) :
    (∀ c ∈ state, c.InBounds) ∧
      ∀ earlier before calls control after, history = earlier ++ [.tick before calls control after] →
        after.InBounds ∧
        store.Yields (Persisted.load DeviceConfig)
          ({ value := after.config.value, saved := some after.config.value }, .loaded) ∧
        store.Yields (Persisted.load RuntimeStatus)
          ({ value := after.status.value, saved := some after.status.value }, .loaded) ∧
        store.Yields Controller.boot (.ofRecords
          { value := after.config.value, saved := some after.config.value }
          { value := after.status.value, saved := some after.status.value }) := by
  have hnone : ∀ c ∈ (none : Option Controller), c.Sound initial := fun _ h => by cases h
  refine ⟨fun c hc => (hrun.sound hnone hserves c hc).inBounds, ?_⟩
  intro earlier before calls control after hhistory
  subst hhistory
  obtain ⟨between, hearlier, hleads⟩ := Run.concat_iff.mp hrun
  rw [callsOf_append, callsOf_singleton] at hserves
  obtain ⟨middle, hfirst, htick⟩ := Store.serves_append_iff.mp hserves
  cases hleads with
  | tick hpath =>
    have hbefore := hearlier.sound hnone hfirst before rfl
    obtain ⟨hsound, hsaved⟩ := hbefore.tick hpath htick
    have hboot := hsound.yields_boot hsaved
    rw [← Persisted.eq_of_saved hsaved.config, ← Persisted.eq_of_saved hsaved.status]
    exact ⟨hsound.inBounds, Persisted.yields_load hsound.configStored hsaved.config,
      Persisted.yields_load hsound.statusStored hsaved.status, hboot⟩

/-- A device that boots for the first time and ticks once, at noon and offline. -/
def firstTick : List Scene :=
  let devices := Devices.ordinary { now := 1699963200, uptimeMs := 60000, valid := true, utcOffset := 0 } false
  [.boot devices, .tick devices]

/-- The first tick leaves usable records, which a boot after it finds: no reset was counted, and the
battery was read. -/
theorem reboot_transparent_firstTick :
    (∀ c ∈ (play firstTick .blank).2.controller, c.InBounds) ∧
      ∃ c, (play firstTick .blank).2.store.Yields Controller.boot c ∧ c.config.value.resetCount = 0 ∧
        c.status.value.batterySoc = 90 := by
  obtain ⟨hrun, hserves⟩ := run_play firstTick .blank
  obtain ⟨hbounds, hreload⟩ := reboot_transparent hrun hserves
  exact ⟨hbounds, _, (hreload [_] _ _ _ _ rfl).2.2.2, by decide +kernel, by decide +kernel⟩

end FieldCounter
