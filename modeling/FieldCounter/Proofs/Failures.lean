import FieldCounter.Proofs.OpenSleep
import FieldCounter.Proofs.Reporting

/-!
# Failures of the device as a whole

Six alerts concern the device as a whole. One of them is raised from outside only; the others are raised
where a connection is not up in time, where the radio is not down in time, where a deep sleep comes back,
and where a report finds the device offline or the webhook silent for too long. Nothing else that a tick
does puts such an alert on show: where one is on show after a tick, it was on show before, or it was raised
for one of these failures, with the time that the clock showed then.
-/

namespace FieldCounter

open Program (Path)

/-- The battery reading that the exchange brings. -/
def Exchange.batteryReading : Exchange → Option BatteryReading
  | ⟨.readBattery, reading⟩ => some reading
  | _ => none

/-- The failures of the device as a whole that come about in a tick at the moment: the alert that each is
met with, and the time that it is raised with. -/
def tickFailures (before : Controller) (moment : Moment) (calls : List Exchange) (after : Controller) :
    List (Alert × UInt32) :=
  match before.runState with
  | .connecting => if after.runState = .sleeping then [(.connectTimeout, moment.now)] else []
  | .sleeping => (if after.runState = .error then [(.modemFault, moment.now)] else []) ++
      (returnMoments false calls).map fun woken => (.sleepFault, woken.now)
  | .reporting =>
    let readings := calls.filterMap Exchange.batteryReading
    (if moment.valid && readings.any fun reading => (before.measured reading moment.now).offlineTooLong moment.now
      then [(.prolongedOffline, moment.now)] else []) ++
    if moment.valid && before.hookSilent moment.now then [(.webhookStale, moment.now)] else []
  | .initialization | .error | .idle | .firmwareUpdate => []

/-- The failures that come about in the event, with those told from outside. -/
def Event.failures (event : Event) : List (Alert × UInt32) :=
  match event with
  | .boot _ _ => []
  | .tick before calls _ after => event.moment.toList.flatMap fun moment => tickFailures before moment calls after
  | .raise alert now => [(alert, now)]

/-- The failures of a tick are those at the moment that it reads first. -/
theorem Event.failures_tick (before after : Controller) (moment : Moment) (rest : List Exchange) (control : Control) :
    (Event.tick before (⟨.readClock, moment⟩ :: rest) control after).failures =
      tickFailures before moment (⟨.readClock, moment⟩ :: rest) after :=
  List.append_nil _

/-! ## Where a slot stems from -/

namespace AlertSlot

variable {before between after slot : AlertSlot} {failures more : List (Alert × UInt32)} {alert : Alert}

/-- If the slot shows an alert that concerns the device as a whole, it is the slot before, or the alert was
raised in it for one of the failures. -/
def StemsFrom (after before : AlertSlot) (failures : List (Alert × UInt32)) : Prop :=
  after.shows Alert.isSystemic = true → after = before ∨ ∃ failure ∈ failures, after = ⟨failure.1.code, failure.2⟩

/-- A slot that stays stems from itself. -/
theorem StemsFrom.refl (slot : AlertSlot) (failures : List (Alert × UInt32)) : slot.StemsFrom slot failures :=
  fun _ => .inl rfl

/-- What a slot stems from is traced back through a slot in between. -/
theorem StemsFrom.trans (h : between.StemsFrom before failures) (hrest : after.StemsFrom between failures) :
    after.StemsFrom before failures := by
  intro hsystemic
  rcases hrest hsystemic with rfl | hraised
  · exact h hsystemic
  · exact .inr hraised

/-- It may as well stem from more failures. -/
theorem StemsFrom.mono (h : after.StemsFrom before failures) (hmore : failures ⊆ more) :
    after.StemsFrom before more := by
  intro hsystemic
  refine (h hsystemic).imp_right ?_
  rintro ⟨failure, hmem, hraised⟩
  exact ⟨failure, hmore hmem, hraised⟩

/-- A slot that is left alone stems from itself. -/
theorem stemsFrom_of_eq (h : after = before) : after.StemsFrom before failures := fun _ => .inl h

/-- The empty slot shows nothing that would have to stem from anything. -/
theorem stemsFrom_empty : empty.StemsFrom slot failures := by
  intro hsystemic
  cases hsystemic

/-- Clearing shows nothing new. -/
theorem stemsFrom_clearIf (slot : AlertSlot) (p : Alert → Bool) : (slot.clearIf p).value.StemsFrom slot failures := by
  rw [value_clearIf]
  split
  · exact stemsFrom_empty
  · exact .refl slot failures

/-- An alert that does not concern the device as a whole is raised for none of its failures. -/
theorem StemsFrom.raiseIf_of_local (h : between.StemsFrom before failures) (hlocal : alert.isSystemic = false)
    (due : Bool) (now : UInt32) : (between.raiseIf due alert now).StemsFrom before failures := by
  rw [raiseIf_eq]
  split
  · intro hsystemic
    rw [shows, current_mk_code, Option.any_some, hlocal] at hsystemic
    cases hsystemic
  · exact h

/-- Nor is any fault that the power chip reports with a reading. -/
theorem stemsFrom_afterReading (slot : AlertSlot) (now : UInt32) (reading : BatteryReading) :
    (slot.afterReading now reading).StemsFrom slot failures := by
  unfold afterReading
  split
  · rename_i fault _
    exact (StemsFrom.refl slot failures).raiseIf_of_local (by cases fault <;> rfl) true now
  · exact .refl slot failures

/-- An alert is raised for a failure where it is due. -/
theorem StemsFrom.raiseIf (h : between.StemsFrom before failures) {due : Bool} {now : UInt32}
    (hfailure : due = true → (alert, now) ∈ failures) : (between.raiseIf due alert now).StemsFrom before failures := by
  rw [raiseIf_eq]
  split
  next hraised =>
    rw [Bool.and_eq_true] at hraised
    exact fun _ => .inr ⟨(alert, now), hfailure hraised.1, rfl⟩
  next => exact h

/-- An alert that is raised for one of the failures stems from it. -/
theorem stemsFrom_raise {now : UInt32} (hfailure : (alert, now) ∈ failures) (slot : AlertSlot) :
    (slot.raise alert now).value.StemsFrom slot failures :=
  show (slot.raiseIf true alert now).StemsFrom slot failures from
    (StemsFrom.refl slot failures).raiseIf fun _ => hfailure

end AlertSlot

/-! ## Effects -/

section

variable {before after : Controller} {trace : List Exchange} {failures : List (Alert × UInt32)}

/-- Nothing among the actions after a connection concerns the device as a whole. -/
theorem Records.kept_stemsFrom (slot : AlertSlot) (failures : List (Alert × UInt32)) :
    Kept fun records => records.status.alert.StemsFrom slot failures where
  raise := fun _ _ now hlocal h => h.raiseIf_of_local hlocal true now
  remote := fun records remote report h => by
    obtain ⟨_, hfields⟩ := records.status.fields_applyRemotePower remote.power report
    rwa [hfields]
  clear := fun records p h => h.trans (AlertSlot.stemsFrom_clearIf records.status.alert p)
  battery := fun records reading now h => by
    rw [RuntimeStatus.value_updateBattery]
    exact h.trans (AlertSlot.stemsFrom_afterReading records.status.alert now reading)
  signal := fun _ _ h => h
  hook := fun _ _ h => h
  connection := fun _ _ h => h

/-- The effect raises no alert that concerns the device as a whole. -/
def Effect.isLocal : Effect → Bool
  | .raise alert => !alert.isSystemic
  | _ => true

/-- A local effect shows no new alert that concerns the device as a whole. -/
theorem Effect.Does.stemsFrom {effect : Effect} (h : effect.Does before trace after) (hlocal : effect.isLocal = true) :
    after.status.value.alert.StemsFrom before.status.value.alert failures := by
  have hkept := Records.kept_stemsFrom before.status.value.alert failures
  have hrefl := AlertSlot.StemsFrom.refl before.status.value.alert failures
  by_cases htouches : effect.touchesSlot = true
  · cases h with
    | battery c reading now => exact hkept.battery before.records reading now hrefl
    | raise c alert now => exact hkept.raise before.records alert now (by simpa [isLocal] using hlocal) hrefl
    | clear c alert => exact hkept.clear before.records (· == alert) hrefl
    | settle c moment =>
      rcases slot_resolveAlert before.status.value.alert (before.recoveryContext moment) with hsame | hempty
      · exact AlertSlot.stemsFrom_of_eq hsame
      · show AlertSlot.StemsFrom (resolveAlert _ _).value.2 _ _
        rw [hempty]
        exact AlertSlot.stemsFrom_empty
    | reload hpath => exact hkept.reloadRemote hrefl _ hpath
    | actOnline hpath =>
      obtain ⟨_, settled, hsettled, hrecords⟩ := hkept.actOnline hrefl _ _ _ hpath
      simp only [Controller.setRecords] at hrecords ⊢
      rw [hrecords, Records.status_settleResetCount]
      exact hsettled
    | _ => cases htouches
  · exact AlertSlot.stemsFrom_of_eq (h.alert_eq_of_untouched (Bool.eq_false_iff.mpr htouches))

/-- Nor does a sequence of such effects. -/
theorem Effects.stemsFrom {allowed : Effect → Bool} (h : Effects allowed before trace after)
    (hlocal : ∀ effect, allowed effect = true → effect.isLocal = true) :
    after.status.value.alert.StemsFrom before.status.value.alert failures := by
  refine h.fold (R := fun before _ after =>
    after.status.value.alert.StemsFrom before.status.value.alert failures) (fun c => .refl _ _) ?_
  exact fun effect _ _ _ _ _ hallowed hdoes hrest => (hdoes.stemsFrom (hlocal effect hallowed)).trans hrest

end

namespace Effect

variable {effect : Effect}

/-- Being online raises no such alert. -/
theorem isLocal_of_isOnline (h : effect.isOnline = true) : effect.isLocal = true := by
  unfold isOnline at h
  split at h <;> first | rfl | cases h

/-- Winding the radio down raises none. -/
theorem isLocal_of_windsDown (h : effect.windsDown = true) : effect.isLocal = true := by
  unfold windsDown at h
  split at h <;> first | rfl | cases h

/-- Planning a sleep raises none. -/
theorem isLocal_of_plans (h : effect.plans = true) : effect.isLocal = true := by
  unfold plans at h
  split at h <;> first | rfl | cases h

/-- Writing the records raises none. -/
theorem isLocal_of_writes (h : effect.writes = true) : effect.isLocal = true := by
  unfold writes at h
  split at h <;> first | rfl | cases h

/-- Accounting for what ended a sleep raises none. -/
theorem isLocal_of_accounts (h : effect.accounts = true) : effect.isLocal = true := by
  unfold accounts at h
  split at h <;> first | rfl | cases h

end Effect

/-! ## Connecting -/

/-- What is listed under one condition is listed under a weaker one. -/
theorem ite_subset_ite {α : Type} {p q : Prop} [Decidable p] [Decidable q] (h : p → q) (l : List α) :
    (if p then l else []) ⊆ if q then l else [] := by
  split
  next hp => rw [if_pos (h hp)]; exact List.Subset.refl l
  next => exact List.nil_subset _

/-- The moment after a deep sleep that came back is one of those. -/
theorem mem_returnMoments (first rest : List Exchange) (secs : Nat) (wake : WakeSources) (moment : Moment)
    (back : Bool) :
    moment ∈ returnMoments back (first ++ ⟨.deepSleep secs wake, .resumed⟩ :: ⟨.readClock, moment⟩ :: rest) := by
  induction first generalizing back with
  | nil => simp [returnMoments, Exchange.cameBack, Exchange.reading]
  | cons exchange first ih => exact List.mem_append_right _ (ih _)

namespace Controller

open Step

variable {c after : Controller} {trace : List Exchange} {outcome : Outcome} {moment : Moment}
  {failures : List (Alert × UInt32)}

/-- A connect session that is given up is a failure, and sleeping follows. -/
theorem ensures_connecting_stems (moment : Moment) :
    (connecting moment).Ensures c fun _ outcome after =>
      after.status.value.alert.StemsFrom c.status.value.alert
        (if outcome = .moveTo .sleeping then [(.connectTimeout, moment.now)] else []) := by
  refine (ensures_comesOnline moment).mono fun trace outcome after h => ?_
  cases h with
  | waits => exact .refl _ _
  | givesUp =>
    rw [if_pos rfl]
    exact AlertSlot.stemsFrom_raise (List.mem_singleton_self _) c.status.value.alert
  | @online _ rest connect _ _ _ _ _ honline =>
    have heffects : Effects Effect.isOnline { c with connect } rest after := within_online moment honline
    exact heffects.stemsFrom fun _ => Effect.isLocal_of_isOnline

/-! ## Sleeping -/

/-- Waking up shows no new alert that concerns the device as a whole. -/
theorem Wakes.stemsFrom (h : Wakes c moment trace after) :
    after.status.value.alert.StemsFrom c.status.value.alert failures := by
  cases h with
  | opened _ _ hrest => exact hrest.stemsFrom fun _ => Effect.isLocal_of_accounts
  | closed _ hrest => exact hrest.stemsFrom fun _ => Effect.isLocal_of_accounts

/-- Neither does a timed sleep. -/
theorem Naps.stemsFrom {plan : SleepPlan} (h : Naps c plan trace outcome after) :
    after.status.value.alert.StemsFrom c.status.value.alert failures := by
  cases h with
  | mk _ hwrites _ hwakes _ =>
    exact AlertSlot.StemsFrom.trans (hwrites.stemsFrom fun _ => Effect.isLocal_of_writes) hwakes.stemsFrom

/-- A deep sleep that came back is a failure, whatever is called before and afterwards. -/
theorem SleepsDeeply.stemsFrom {plan : SleepPlan} {now : UInt32} (h : SleepsDeeply c plan now trace outcome after)
    (first last : List Exchange) :
    after.status.value.alert.StemsFrom c.status.value.alert
      ((returnMoments false (first ++ trace ++ last)).map fun woken => (.sleepFault, woken.now)) := by
  have hready : ∀ {sensors writing ready failures}, Effects Effect.writes
      ({ c with sensors }.setCounting (c.counting.closeOccupancy c.status.value now).value) writing ready →
      ready.status.value.alert.StemsFrom c.status.value.alert failures := by
    intro sensors writing ready failures hwrites
    have hclosed : ({ c with sensors }.setCounting
        (c.counting.closeOccupancy c.status.value now).value).status.value.alert = c.status.value.alert :=
      RuntimeStatus.alert_of_health (CountingEngine.health_closeOccupancy ..)
    rw [← hclosed]
    exact hwrites.stemsFrom fun _ => Effect.isLocal_of_writes
  cases h with
  | restarting _ hwrites => exact hready hwrites
  | @resumed down writing planning rest _ ready _ _ moment _ _ _ hwrites _ hnaps hraised =>
    have hback : moment ∈ returnMoments false (first ++ (down ++ writing ++
        ⟨.deepSleep plan.seconds plan.wake, .resumed⟩ :: ⟨.readClock, moment⟩ :: (planning ++ rest)) ++ last) := by
      have hmem := mem_returnMoments (first ++ (down ++ writing)) (planning ++ rest ++ last) plan.seconds plan.wake
        moment false
      simpa only [List.append_assoc, List.cons_append] using hmem
    refine (hready hwrites).trans (AlertSlot.StemsFrom.trans ?_ hnaps.stemsFrom)
    rw [hraised]
    exact AlertSlot.stemsFrom_raise (List.mem_map.mpr ⟨moment, hback, rfl⟩) ready.status.value.alert

/-- So is a radio that is not down in time. -/
theorem SleepTick.stemsFrom (h : SleepTick c moment trace outcome after) (first last : List Exchange) :
    after.status.value.alert.StemsFrom c.status.value.alert
      ((if outcome = .moveTo .error then [(.modemFault, moment.now)] else []) ++
        (returnMoments false (first ++ trace ++ last)).map fun woken => (.sleepFault, woken.now)) := by
  cases h with
  | awake hwinds _ => exact hwinds.stemsFrom fun _ => Effect.isLocal_of_windsDown
  | stuck _ _ =>
    rw [if_pos rfl]
    exact AlertSlot.stemsFrom_raise List.mem_cons_self c.status.value.alert
  | @asleep winding _ _ _ _ _ hwinds hsleeps =>
    refine (hwinds.stemsFrom fun _ => Effect.isLocal_of_windsDown).trans ?_
    cases hsleeps with
    | timed hplans hnaps => exact (hplans.stemsFrom fun _ => Effect.isLocal_of_plans).trans hnaps.stemsFrom
    | @deep planning _ _ _ _ hplans hdeep =>
      have hfailed := hdeep.stemsFrom (first ++ winding ++ planning) last
      simp only [List.append_assoc] at hfailed ⊢
      exact (hplans.stemsFrom fun _ => Effect.isLocal_of_plans).trans (hfailed.mono (List.subset_append_right _ _))

/-! ## Reporting -/

/-- A report finds at most two failures. -/
theorem stemsFrom_alertAfterReport (c : Controller) (moment : Moment) (reading : BatteryReading) (taken : Bool) :
    (c.alertAfterReport moment reading taken).StemsFrom c.status.value.alert
      ((if moment.valid && (c.measured reading moment.now).offlineTooLong moment.now
          then [(.prolongedOffline, moment.now)] else []) ++
        if moment.valid && c.hookSilent moment.now then [(.webhookStale, moment.now)] else []) := by
  rw [alertAfterReport, alert_measured]
  refine (((AlertSlot.stemsFrom_afterReading _ _ reading).raiseIf_of_local rfl (!taken) moment.now).raiseIf
    fun hoffline => ?_).raiseIf fun hsilent => ?_
  · rw [if_pos hoffline]
    exact List.mem_cons_self
  · rw [if_pos (show (moment.valid && c.hookSilent moment.now) = true from hsilent)]
    exact List.mem_append_right _ (List.mem_singleton_self _)

/-- Besides the clock and the battery, no answer matters for it. -/
theorem stemsFrom_of_reporting {rest : List Exchange} {control : Control}
    (h : Path (tick.run c) (⟨.readClock, moment⟩ :: rest) (control, after)) (hstate : c.runState = .reporting) :
    after.status.value.alert.StemsFrom c.status.value.alert
      (tickFailures c moment (⟨.readClock, moment⟩ :: rest) after) := by
  obtain ⟨read, reading, report, taken, online, hnotable, halert⟩ := tick_reporting h hstate
  obtain ⟨hread, _⟩ := List.cons.inj (show ⟨.readClock, moment⟩ :: notable rest = _ from hnotable)
  cases hread
  have hbattery : ⟨.readBattery, reading⟩ ∈ notable (⟨.readClock, moment⟩ :: rest) := by simp [hnotable]
  have hreading : reading ∈ (⟨.readClock, moment⟩ :: rest).filterMap Exchange.batteryReading :=
    List.mem_filterMap.mpr ⟨_, (List.mem_filter.mp hbattery).1, rfl⟩
  rw [halert]
  refine (c.stemsFrom_alertAfterReport moment reading taken).mono fun failure hmem => ?_
  simp only [tickFailures, hstate]
  refine (List.mem_append.mp hmem).elim (fun hoffline => List.mem_append_left _ ?_) (List.mem_append_right _)
  refine ite_subset_ite (fun hdue => ?_) _ hoffline
  rw [Bool.and_eq_true] at hdue ⊢
  exact ⟨hdue.1, List.any_eq_true.mpr ⟨reading, hreading, hdue.2⟩⟩

/-! ## The tick -/

/-- Where an alert that concerns the device as a whole is on show after a tick, it was on show before, or it
was raised for one of the failures of the tick. -/
theorem stemsFrom_of_tick {rest : List Exchange} {control : Control}
    (h : Path (tick.run c) (⟨.readClock, moment⟩ :: rest) (control, after)) :
    after.status.value.alert.StemsFrom c.status.value.alert
      (tickFailures c moment (⟨.readClock, moment⟩ :: rest) after) := by
  by_cases hreporting : c.runState = .reporting
  · exact stemsFrom_of_reporting h hreporting
  obtain ⟨read, marked, polling, polled, middle, outcome, carried, closing, hpoll, hcarry, hflush, _, hcalls⟩ :=
    tick_parts h
  obtain ⟨hread, rfl⟩ := List.cons.inj hcalls
  cases hread
  have hwrites : Effects Effect.writes (carried.following outcome) closing after := within_flush_writes hflush
  have hmoved : ∀ next, outcome = .moveTo next → after.runState = next := by
    rintro next rfl
    exact hwrites.runState_eq rfl
  have hafter : after.status.value.alert = carried.status.value.alert := by
    rw [(quiet_flush hflush).2]
    cases outcome <;> rfl
  rw [hafter, ← c.alert_opened (marked || polled) moment]
  unfold tickFailures
  cases hstate : c.runState with
  | reporting => exact absurd hstate hreporting
  | connecting =>
    have hstems : carried.status.value.alert.StemsFrom _ _ :=
      ensures_connecting_stems moment (work_of_opened hcarry hstate)
    exact hstems.mono (ite_subset_ite (hmoved .sleeping) _)
  | sleeping =>
    have hsleeps := sleepTick_of_carryOut hcarry (by rwa [runState_opened])
    have hstems := hsleeps.stemsFrom (⟨.readClock, moment⟩ :: ⟨.takeSensorFlag, marked⟩ :: polling) closing
    refine hstems.mono fun failure hmem => ?_
    refine (List.mem_append.mp hmem).elim (fun hstuck => List.mem_append_left _ ?_) (List.mem_append_right _)
    exact ite_subset_ite (hmoved .error) _ hstuck
  | initialization | error | idle | firmwareUpdate =>
    have heffects := within_carryOut moment hcarry
    rw [runState_opened, hstate] at heffects
    refine Effects.stemsFrom heffects fun effect h => ?_
    cases effect with
    | raise alert => cases alert <;> first | rfl | cases h
    | _ => rfl

end Controller

end FieldCounter
