import FieldCounter.Proofs.Resets

/-!
# What a report does to the alert slot

A tick that reports looks at the clock, the battery, the queue and the radio, once each. It offers the
slot up to four alerts, one after the other, and what is on show afterwards depends on nothing but
the slot before it, the settings, these answers, and whether webhook staleness is judged at all. The
radio is asked last, for the next state only.
-/

namespace FieldCounter

open Program (Path)

/-! ## Raising alerts in turn -/

namespace AlertSlot

variable (slot : AlertSlot) (due : Bool) (alert other : Alert) (now : UInt32)

/-- The slot once the alert was raised in it, if it is due. -/
def raiseIf : AlertSlot := if due then (slot.raise alert now).value else slot

/-- The alert takes the slot where it is due and accepted. -/
theorem raiseIf_eq :
    slot.raiseIf due alert now = if due && slot.accepts alert then ⟨alert.code, now⟩ else slot := by
  unfold raiseIf
  rw [value_raise]
  cases due <;> rfl

/-- A slot accepts an alert after another one was raised where it did before, and the other one is
not more severe. -/
theorem accepts_raiseIf :
    (slot.raiseIf due other now).accepts alert = true ↔
      slot.accepts alert = true ∧ (due = true → other.severity ≤ alert.severity) := by
  rw [raiseIf_eq]
  have hraised : (AlertSlot.mk other.code now).accepts alert = decide (other.severity ≤ alert.severity) := by
    simp [accepts]
  cases hcurrent : slot.current with
  | none =>
    have haccepts : ∀ alert, slot.accepts alert = true := by simp [accepts, hcurrent]
    cases due <;> simp [haccepts, hraised]
  | some existing =>
    have haccepts : ∀ alert : Alert, slot.accepts alert = decide (existing.severity ≤ alert.severity) := by
      simp [accepts, hcurrent]
    cases due with
    | false => simp
    | true =>
      by_cases hgives : existing.severity ≤ other.severity
      · simp [haccepts, hgives, hraised]
        omega
      · simp [haccepts, hgives]
        omega

/-- The alert is on show with this time afterwards where it was before, or is due and accepted. -/
theorem raiseIf_eq_self :
    slot.raiseIf due alert now = ⟨alert.code, now⟩ ↔
      slot = ⟨alert.code, now⟩ ∨ due = true ∧ slot.accepts alert = true := by
  rw [raiseIf_eq]
  cases due <;> cases slot.accepts alert <;> simp

/-- An alert stays on show where no other one takes its place. -/
theorem raiseIf_eq_other (hother : other ≠ alert) :
    slot.raiseIf due other now = ⟨alert.code, now⟩ ↔
      slot = ⟨alert.code, now⟩ ∧ (due = true → other.severity < alert.severity) := by
  have hne : AlertSlot.mk other.code now ≠ ⟨alert.code, now⟩ := by
    intro heq
    have hcode : other.code = alert.code := congrArg AlertSlot.code heq
    have hofCode := Alert.ofCode?_code other
    rw [hcode, Alert.ofCode?_code] at hofCode
    exact hother (Option.some.inj hofCode).symm
  rw [raiseIf_eq]
  constructor
  · intro h
    split at h
    · exact absurd h hne
    · rename_i hkept
      refine ⟨h, fun hdue => ?_⟩
      simpa [h, hdue, accepts] using hkept
  · intro h
    obtain ⟨rfl, hless⟩ := h
    rw [if_neg]
    cases due with
    | false => simp
    | true => simpa [accepts] using hless rfl

/-- The slot once the fault that the power chip reports with a reading was raised. -/
def afterReading (reading : BatteryReading) : AlertSlot :=
  match reading.fault with
  | some fault => slot.raiseIf true fault.alert now
  | none => slot

/-- A slot accepts one of the lesser alerts after a reading where it did before, and no fault was
reported. -/
theorem accepts_afterReading (reading : BatteryReading) (hlesser : alert.severity < 10) :
    (slot.afterReading now reading).accepts alert = true ↔
      slot.accepts alert = true ∧ reading.fault = none := by
  unfold afterReading
  cases reading.fault with
  | none => simp
  | some fault =>
    have hworse : 10 ≤ fault.alert.severity := by cases fault <;> decide
    rw [accepts_raiseIf]
    simp
    omega

/-- A lesser alert stays on show where no fault was reported, and is not put there by a reading. -/
theorem afterReading_eq_iff (reading : BatteryReading) (hlesser : alert.severity < 10) :
    slot.afterReading now reading = ⟨alert.code, now⟩ ↔ slot = ⟨alert.code, now⟩ ∧ reading.fault = none := by
  unfold afterReading
  cases reading.fault with
  | none => simp
  | some fault =>
    have hworse : 10 ≤ fault.alert.severity := by cases fault <;> decide
    have hother : fault.alert ≠ alert := by
      intro heq
      rw [heq] at hworse
      omega
    rw [raiseIf_eq_other slot true alert fault.alert now hother]
    simp
    omega

end AlertSlot

/-- A reading is stored, decides on the tier and raises the fault that comes with it. -/
theorem RuntimeStatus.value_updateBattery (status : RuntimeStatus) (reading : BatteryReading) (now : UInt32) :
    (status.updateBattery reading now).value = { status with
      batterySoc := min reading.soc 100
      chargeState := reading.charge
      temperature := reading.temperature
      batteryTier := status.batteryTier.next (tierSoc (min reading.soc 100) status.testSocOverride).toNat
      alert := status.alert.afterReading now reading } := by
  unfold updateBattery AlertSlot.afterReading AlertSlot.raiseIf
  simp only [Logged.value_bind, value_updateTier]
  cases reading.fault with
  | none => rfl
  | some fault => rfl

namespace Controller

open Step

variable {c : Controller}

/-! ## What is judged -/

/-- The controller once a battery reading was stored. -/
def measured (c : Controller) (reading : BatteryReading) (now : UInt32) : Controller :=
  c.setStatus (c.status.value.updateBattery reading now).value

/-- A reading changes the slot by the fault that it reports. -/
theorem alert_measured (reading : BatteryReading) (now : UInt32) :
    (c.measured reading now).status.value.alert = c.status.value.alert.afterReading now reading := by
  simp only [measured, setStatus, RuntimeStatus.value_updateBattery]

/-- The last connection was made too long ago, whether or not it is still up. -/
def offlineTooLong (c : Controller) (now : UInt32) : Bool :=
  c.config.value.operatingMode != .disconnected && c.config.value.lastConnection != 0 &&
    max prolongedOfflineSecs (min (c.interval * 3) wordMax) < secsBetween c.config.value.lastConnection now

/-- The webhook answer in the settings is from before the last connection, and too old. -/
def hookSilent (c : Controller) (now : UInt32) : Bool :=
  !c.suppressWebhookAlert && c.config.value.lastHookResponse != 0 &&
    c.config.value.lastHookResponse < c.config.value.lastConnection &&
    webhookStaleSecs < secsBetween c.config.value.lastHookResponse now

/-- The slot after both were judged. -/
def judged (c : Controller) (now : UInt32) : AlertSlot :=
  (c.status.value.alert.raiseIf (c.offlineTooLong now) .prolongedOffline now).raiseIf (c.hookSilent now)
    .webhookStale now

/-- Judging changes the slot only. -/
theorem ensures_checkConnectionHealth (now : UInt32) :
    (checkConnectionHealth now).Ensures c fun trace _ after =>
      trace = [] ∧ after = c.setStatus { c.status.value with alert := c.judged now } := by
  rw [checkConnectionHealth, ensures_get_bind]
  extract_lets config offline threshold silent rest
  have hrest : ∀ between : Controller, (rest ()).Ensures between fun trace _ after =>
      trace = [] ∧ after = between.setStatus { between.status.value with
        alert := between.status.value.alert.raiseIf (c.hookSilent now) .webhookStale now } := by
    intro between
    refine ensures_ite.mpr ⟨fun hsilent => ?_, fun hsilent => ?_⟩
    · have hdue : c.hookSilent now = true := hsilent
      rw [hdue]
      exact ensures_logged_bind.mpr (ensures_updateStatus.mpr ⟨rfl, rfl⟩)
    · have hdue : c.hookSilent now = false := eq_false_of_ne_true hsilent
      rw [hdue]
      exact ensures_pure.mpr ⟨rfl, rfl⟩
  refine ensures_ite.mpr ⟨fun hoffline => ?_, fun hoffline => ?_⟩
  · have hdue : c.offlineTooLong now = true := hoffline
    unfold judged
    rw [hdue]
    rw [ensures_logged_bind, ensures_bind, raiseAlert, ensures_updateStatus]
    exact hrest _
  · have hdue : c.offlineTooLong now = false := eq_false_of_ne_true hoffline
    unfold judged
    rw [hdue]
    exact hrest c

/-- The choice of the next state changes nothing else. -/
theorem ensures_afterReportOffline (now : UInt32) :
    (afterReportOffline now).Ensures c fun trace _ after => trace = [] ∧ after = c := by
  rw [afterReportOffline, ensures_get_bind]
  split
  · exact ensures_pure.mpr ⟨rfl, rfl⟩
  · exact ensures_pure.mpr ⟨rfl, rfl⟩
  · refine ensures_ite.mpr ⟨fun _ => ensures_pure.mpr ⟨rfl, rfl⟩, fun _ => ?_⟩
    exact ensures_logged_bind.mpr (ensures_pure.mpr ⟨rfl, rfl⟩)

end Controller

/-! ## What leaves the judgement alone -/

/-- The settings, whether staleness is judged, and all of the status but what is counted are left
alone. -/
structure Steady (before after : Controller) : Prop where
  config : after.config = before.config
  suppress : after.suppressWebhookAlert = before.suppressWebhookAlert
  health : after.status.value.health = before.status.value.health

/-- The effect is a call, or counts, or sets the state up. -/
def Effect.isSteady : Effect → Bool
  | .ask _ | .sense | .service | .credit | .newDay | .enter => true
  | _ => false

/-- A steady effect leaves all of this alone. -/
theorem Effect.Does.steady {effect : Effect} {before after : Controller} {trace : List Exchange}
    (h : effect.Does before trace after) (hsteady : effect.isSteady = true) : Steady before after := by
  cases h with
  | ask | poll | sample | interrupt | health => exact ⟨rfl, rfl, rfl⟩
  | service c edge moment => exact ⟨rfl, rfl, CountingEngine.health_service ..⟩
  | credit c now => exact ⟨rfl, rfl, RuntimeStatus.health_creditOpenOccupancy ..⟩
  | newDay c => exact ⟨rfl, rfl, RuntimeStatus.health_resetDaily _⟩
  | enter uptime hnew =>
    have hsuppress : (before.prepare uptime).suppressWebhookAlert = before.suppressWebhookAlert := by
      unfold Controller.prepare
      split <;> rfl
    exact ⟨before.config_prepare uptime, hsuppress, congrArg (·.value.health) (before.status_prepare uptime)⟩
  | _ => cases hsteady

/-- A sequence of such effects leaves them alone. -/
theorem Effects.steady {allowed : Effect → Bool} {before after : Controller} {trace : List Exchange}
    (h : Effects allowed before trace after)
    (hsteady : ∀ effect, allowed effect = true → effect.isSteady = true) :
    Steady before after := by
  refine h.fold (R := fun before _ after => Steady before after) (fun _ => ⟨rfl, rfl, rfl⟩) ?_
  intro effect before trace between rest after hallowed hdoes hrest
  have hfirst := hdoes.steady (hsteady effect hallowed)
  exact ⟨hrest.config.trans hfirst.config, hrest.suppress.trans hfirst.suppress,
    hrest.health.trans hfirst.health⟩

/-- The slot after a report, from the controller before it, the clock, the battery and whether the
queue took the report. -/
def Controller.alertAfterReport (c : Controller) (moment : Moment) (reading : BatteryReading) (taken : Bool) :
    AlertSlot :=
  let measured := c.measured reading moment.now
  let slot := measured.status.value.alert.raiseIf (!taken) .dataPublishFailed moment.now
  let slot := slot.raiseIf (moment.valid && measured.offlineTooLong moment.now) .prolongedOffline moment.now
  slot.raiseIf (moment.valid && measured.hookSilent moment.now) .webhookStale moment.now

/-- It does not depend on what is counted. -/
theorem Steady.alertAfterReport_eq {before after : Controller} (h : Steady before after) (moment : Moment)
    (reading : BatteryReading) (taken : Bool) :
    after.alertAfterReport moment reading taken = before.alertAfterReport moment reading taken := by
  have halert : after.status.value.alert = before.status.value.alert := RuntimeStatus.alert_of_health h.health
  have htier : after.status.value.batteryTier = before.status.value.batteryTier :=
    RuntimeStatus.batteryTier_of_health h.health
  have hoverride : after.status.value.testSocOverride = before.status.value.testSocOverride :=
    RuntimeStatus.testSocOverride_of_health h.health
  simp only [Controller.alertAfterReport, Controller.measured, Controller.setStatus, Controller.offlineTooLong,
    Controller.hookSilent, Controller.interval, RuntimeStatus.value_updateBattery, h.config, h.suppress, halert,
    htier, hoverride]

/-! ## The report -/

namespace Controller

open Step

variable {c : Controller}

/-- The effects of closing the period. -/
def closesPeriod (effect : Effect) : Bool := effect == .credit || effect == .newDay

/-- Closing the period needs no device, and only counts. -/
theorem ensures_closePeriod (moment : Moment) :
    (closePeriod moment).Ensures c fun trace _ after => trace = [] ∧ Steady c after := by
  have hwithin : Within closesPeriod (closePeriod moment) c := within_closePeriod rfl rfl
  have hcases : ∀ effect, closesPeriod effect = true → effect = .credit ∨ effect = .newDay := by
    intro effect h
    simpa [closesPeriod] using h
  refine Ensures.mono hwithin fun trace _ after heffects => ⟨?_, heffects.steady fun effect h => ?_⟩
  · rw [List.eq_nil_iff_forall_not_mem]
    intro exchange hmem
    obtain ⟨effect, hallowed, hcall⟩ := heffects.mayCall exchange hmem
    rcases hcases effect hallowed with rfl | rfl <;> cases hcall
  · rcases hcases effect h with rfl | rfl <;> rfl

/-- The battery is read, and the reading stored. -/
theorem ensures_checkBattery (now : UInt32) :
    (checkBattery now).Ensures c fun trace _ after =>
      ∃ reading, trace = [⟨.readBattery, reading⟩] ∧ after = c.measured reading now :=
  ensures_bind.mpr (ensures_call.mpr fun reading => ensures_updateStatus.mpr ⟨reading, rfl, rfl⟩)

/-- The report goes to the queue, and an alert is raised where it is not taken. -/
theorem ensures_queueReport (now : UInt32) :
    (queueReport now).Ensures c fun trace _ after =>
      ∃ sampling sample taken, trace = sampling ++ [⟨.enqueue (.capture c.status.value sample now), taken⟩] ∧
        (∀ exchange ∈ sampling, exchange.call.isSensor = true) ∧
        after = c.setStatus { c.status.value with
          alert := c.status.value.alert.raiseIf (!taken) .dataPublishFailed now } := by
  rw [queueReport, ensures_get_bind]
  refine ensures_bind.mpr (ensures_lift.mpr fun sampling sample hsample => ensures_bind.mpr ?_)
  have hsensor := fun exchange hmem => Call.isSensor_of_isLook (c.sensors.calls_sample hsample exchange hmem)
  refine ensures_call.mpr fun taken => ?_
  cases taken with
  | true => exact ensures_logged.mpr ⟨sampling, sample, true, rfl, hsensor, rfl⟩
  | false =>
    refine ensures_logged_bind.mpr (ensures_updateStatus.mpr ?_)
    exact ⟨sampling, sample, false, rfl, hsensor, rfl⟩

/-- The same is judged of both controllers, and the same alert is on show. -/
structure JudgedAlike (before after : Controller) : Prop where
  alert : after.status.value.alert = before.status.value.alert
  offline : ∀ now, after.offlineTooLong now = before.offlineTooLong now
  silent : ∀ now, after.hookSilent now = before.hookSilent now

/-- Judging the connection, where the clock is valid, and asking the radio for the next state. -/
theorem ensures_judge {moment : Moment} {rest : Unit → Step Outcome}
    (hrest : ∀ c, (rest ()).Ensures c fun trace _ after =>
      ∃ online, trace = [⟨.isConnected, online⟩] ∧ after = c) :
    Ensures (if moment.valid then checkConnectionHealth moment.now >>= rest else rest () : Step Outcome) c
      fun trace _ after => ∃ online, trace = [⟨.isConnected, online⟩] ∧
        after.status.value.alert =
          (c.status.value.alert.raiseIf (moment.valid && c.offlineTooLong moment.now) .prolongedOffline
            moment.now).raiseIf (moment.valid && c.hookSilent moment.now) .webhookStale moment.now := by
  refine ensures_ite.mpr ⟨fun hvalid => ?_, fun hvalid => ?_⟩
  · refine ensures_bind.mpr ((ensures_checkConnectionHealth moment.now).mono fun _ _ _ hjudged => ?_)
    obtain ⟨rfl, rfl⟩ := hjudged
    refine (hrest _).mono fun trace _ after h => ?_
    obtain ⟨online, rfl, rfl⟩ := h
    refine ⟨online, rfl, ?_⟩
    rw [hvalid, Bool.true_and, Bool.true_and]
    rfl
  · refine (hrest c).mono fun trace _ after h => ?_
    obtain ⟨online, rfl, rfl⟩ := h
    refine ⟨online, rfl, ?_⟩
    rw [eq_false_of_ne_true hvalid, Bool.false_and, Bool.false_and]
    rfl

/-- A report asks the battery, the queue and the radio, in this order and nothing else but the sensor,
and what it leaves in the slot goes by the first two answers only. -/
theorem ensures_reporting (moment : Moment) :
    (reporting moment).Ensures c fun trace _ after =>
      ∃ reading sampling report taken online,
        trace = ⟨.readBattery, reading⟩ :: sampling ++ [⟨.enqueue report, taken⟩, ⟨.isConnected, online⟩] ∧
        (∀ exchange ∈ sampling, exchange.call.isSensor = true) ∧
        after.status.value.alert = c.alertAfterReport moment reading taken := by
  refine ensures_bind.mpr ((ensures_closePeriod moment).mono fun _ _ closed hclosed => ?_)
  obtain ⟨rfl, hsteady⟩ := hclosed
  refine ensures_bind.mpr ((ensures_checkBattery moment.now).mono fun _ _ _ hmeasured => ?_)
  obtain ⟨reading, rfl, rfl⟩ := hmeasured
  refine ensures_bind.mpr ((ensures_queueReport moment.now).mono fun _ _ queued hqueued => ?_)
  obtain ⟨sampling, sample, taken, rfl, hsensor, hqueued⟩ := hqueued
  have hperiod : (modifyStatus RuntimeStatus.resetHourly).Ensures queued fun trace _ after =>
      trace = [] ∧ JudgedAlike queued after := ensures_modifyStatus.mpr ⟨rfl, rfl, fun _ => rfl, fun _ => rfl⟩
  refine ensures_bind.mpr (hperiod.mono fun _ _ started hstarted => ?_)
  obtain ⟨rfl, hstarted⟩ := hstarted
  have hreported : (modifyConfig fun config => { config with lastReport := moment.now }).Ensures started
      fun trace _ after => trace = [] ∧ JudgedAlike started after :=
    ensures_modifyConfig.mpr ⟨rfl, rfl, fun _ => rfl, fun _ => rfl⟩
  refine ensures_bind.mpr (hreported.mono fun _ _ reported hreported => ?_)
  obtain ⟨rfl, hreported⟩ := hreported
  extract_lets rest
  have hrest : ∀ c, (rest ()).Ensures c fun trace _ after =>
      ∃ online, trace = [⟨.isConnected, online⟩] ∧ after = c := by
    intro c
    refine ensures_bind.mpr (ensures_call.mpr fun online => ensures_ite.mpr ⟨fun _ => ?_, fun _ => ?_⟩)
    · exact ensures_pure.mpr ⟨online, rfl, rfl⟩
    · refine (ensures_afterReportOffline moment.now).mono fun trace _ after h => ?_
      obtain ⟨rfl, rfl⟩ := h
      exact ⟨online, rfl, rfl⟩
  refine (ensures_judge hrest).mono fun _ _ after hjudged => ?_
  obtain ⟨online, rfl, halert⟩ := hjudged
  let report := DataSnapshot.capture (closed.measured reading moment.now).status.value sample moment.now
  refine ⟨reading, sampling, report, taken, online, by simp [report], hsensor, ?_⟩
  rw [halert, hreported.alert, hreported.offline, hreported.silent, hstarted.alert, hstarted.offline,
    hstarted.silent, hqueued, ← hsteady.alertAfterReport_eq]
  rfl

end Controller

/-! ## The tick that reports -/

/-- The call is to the sensor, takes its mark, or writes a record. -/
def Call.isRoutine (call : Call) : Bool := call.isSensor || call.isWrite || call == .takeSensorFlag

/-- The calls of a tick that are not routine. -/
def notable (trace : List Exchange) : List Exchange := trace.filter fun exchange => !exchange.call.isRoutine

/-- The notable calls are listed part by part. -/
theorem notable_append (trace rest : List Exchange) : notable (trace ++ rest) = notable trace ++ notable rest :=
  List.filter_append ..

/-- There are none where all the calls are routine. -/
theorem notable_eq_nil {trace : List Exchange} (h : ∀ exchange ∈ trace, exchange.call.isRoutine = true) :
    notable trace = [] := by
  rw [notable, List.filter_eq_nil_iff]
  intro exchange hmem
  simp [h exchange hmem]

/-- Before the state is carried out all calls are routine. -/
theorem Effects.notable_opens {before after : Controller} {trace : List Exchange}
    (h : Effects Effect.opens before trace after) : notable trace = [] := by
  refine notable_eq_nil fun exchange hmem => ?_
  obtain ⟨effect, hopens, hcall⟩ := h.mayCall exchange hmem
  unfold Effect.opens at hopens
  split at hopens
  · rw [← eq_of_beq hcall]
    rfl
  · have hsensor : exchange.call.isSensor = true := Call.isSensor_of_isLook hcall
    simp [Call.isRoutine, hsensor]
  · cases hcall
  · cases hcall
  · cases hopens

/-- Writing the records is routine. -/
theorem Controller.notable_flush {c after : Controller} {trace : List Exchange}
    (h : Path (Controller.flush.run c) trace ((), after)) : notable trace = [] := by
  obtain ⟨first, _, _, second, _, _, hconfig, hstatus, rfl, _⟩ := Controller.flush_cases h
  refine notable_eq_nil fun exchange hmem => ?_
  have hwrite : exchange.call.isWrite = true := by
    rcases List.mem_append.mp hmem with hfirst | hsecond
    · exact Persisted.calls_flush _ hconfig exchange hfirst
    · exact Persisted.calls_flush _ hstatus exchange hsecond
  simp [Call.isRoutine, hwrite]

/-- Besides routine calls a tick that reports makes four, and it leaves in the slot what the first
three answers and the controller before it say. -/
theorem Controller.tick_reporting {c after : Controller} {trace : List Exchange} {control : Control}
    (h : Path (Controller.tick.run c) trace (control, after)) (hstate : c.runState = .reporting) :
    ∃ moment reading report taken online,
      notable trace = [⟨.readClock, moment⟩, ⟨.readBattery, reading⟩, ⟨.enqueue report, taken⟩,
        ⟨.isConnected, online⟩] ∧
      after.status.value.alert = c.alertAfterReport moment reading taken := by
  obtain ⟨moment, opening, entered, middle, outcome, carried, closing, hopen, hcarry, hflush, _, rfl⟩ :=
    Controller.tick_cases h
  have hentered : entered.runState = .reporting := (hopen.runState_eq rfl).trans hstate
  obtain ⟨reading, sampling, report, taken, online, rfl, hsensor, halert⟩ :=
    Controller.ensures_reporting moment (Controller.work_of_carryOut hcarry hentered)
  refine ⟨moment, reading, report, taken, online, ?_, ?_⟩
  · have hsampling : notable sampling = [] := by
      refine notable_eq_nil fun exchange hmem => ?_
      simp [Call.isRoutine, hsensor exchange hmem]
    have hmiddle : notable
          (⟨.readBattery, reading⟩ :: sampling ++ [⟨.enqueue report, taken⟩, ⟨.isConnected, online⟩]) =
        [⟨.readBattery, reading⟩, ⟨.enqueue report, taken⟩, ⟨.isConnected, online⟩] := by
      rw [notable_append]
      show ⟨.readBattery, reading⟩ :: notable sampling ++ [⟨.enqueue report, taken⟩, ⟨.isConnected, online⟩] = _
      rw [hsampling]
      rfl
    rw [notable_append, notable_append, hmiddle, Controller.notable_flush hflush, List.append_nil]
    show ⟨.readClock, moment⟩ :: notable opening ++ _ = _
    rw [hopen.notable_opens]
    rfl
  · have hfollow : Effects Effect.isCalm carried [] (carried.following outcome) :=
      Controller.effects_following rfl carried outcome
    have hsteady : Steady c entered := hopen.steady fun effect heffect => by
      unfold Effect.opens at heffect
      split at heffect <;> first | rfl | cases heffect
    rw [(Controller.quiet_flush hflush).2, hfollow.alert_eq fun _ => id, halert]
    exact hsteady.alertAfterReport_eq moment reading taken

end FieldCounter
