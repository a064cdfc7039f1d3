import FieldCounter.Proofs.Store
import FieldCounter.Proofs.Teardown
import FieldCounter.Proofs.Tick

/-!
# What sleeping comes to

A tick that sleeps falls into parts: winding the radio down, planning, a deep sleep perhaps, a timed
sleep, and waking. What each part does is said here once, with the calls that divide one part from
the next, so that a law about a sleep can be read off its parts and need not follow the program.
-/

namespace FieldCounter

open Program (Path)

/-- The effects of winding the radio down. -/
def Effect.windsDown : Effect → Bool
  | .ask .isConnected | .ask (.isSafeToSleep _) | .ask .pendingCount | .disconnect | .clear .modemFault => true
  | _ => false

/-- The effects of planning a sleep. -/
def Effect.plans : Effect → Bool
  | .sense | .plan => true
  | _ => false

/-- The effects of accounting for what ended a sleep. -/
def Effect.accounts : Effect → Bool
  | .ask .takeButtonFlag | .ask .takeSensorFlag | .detection | .raise .sensorFault => true
  | _ => false

/-- The writing of the records. -/
def Effect.writes : Effect → Bool
  | .writeConfig | .writeStatus => true
  | _ => false

/-- The effects between a failed deep sleep and the timed sleep in its place. -/
def Effect.replans : Effect → Bool
  | .raise .sleepFault | .sense | .plan => true
  | _ => false

/-- The effects of a tick that sleeps, apart from a deep sleep and the closing of the session before it. -/
def Effect.rests (effect : Effect) : Bool :=
  effect.windsDown || effect.plans || effect.replans || effect.accounts || effect.writes ||
    match effect with
    | .ask .readClock | .ask (.timedSleep _ _) | .powerUp | .powerDown => true
    | _ => false

namespace Effect

variable {effect : Effect}

/-- Winding the radio down is part of a tick that sleeps. -/
theorem rests_of_windsDown (h : effect.windsDown = true) : effect.rests = true := by simp [rests, h]

/-- So is planning a sleep. -/
theorem rests_of_plans (h : effect.plans = true) : effect.rests = true := by simp [rests, h]

/-- So is planning another one after a deep sleep came back. -/
theorem rests_of_replans (h : effect.replans = true) : effect.rests = true := by simp [rests, h]

/-- So is accounting for what ended a sleep. -/
theorem rests_of_accounts (h : effect.accounts = true) : effect.rests = true := by simp [rests, h]

/-- So is writing the records. -/
theorem rests_of_writes (h : effect.writes = true) : effect.rests = true := by simp [rests, h]

end Effect

/-! ## The settings -/

/-- The effect may change the settings. -/
def Effect.changesConfig : Effect → Bool
  | .reported | .actOnline | .reload | .countReset => true
  | _ => false

/-- An effect that does not change the settings leaves them as they are. -/
theorem Effect.Does.config_eq {effect : Effect} {before after : Controller} {trace : List Exchange}
    (h : effect.Does before trace after) (hkeeps : effect.changesConfig = false) :
    after.config.value = before.config.value := by
  cases h with
  | reported | actOnline | reload | countReset => cases hkeeps
  | writeConfig hpath => exact Persisted.value_of_flush hpath
  | enter uptime => exact congrArg (·.value) (before.config_prepare uptime)
  | _ => rfl

/-- Effects that leave the settings alone leave them as they are. -/
theorem Effects.config_eq {allowed : Effect → Bool} {before after : Controller} {trace : List Exchange}
    (h : Effects allowed before trace after)
    (hkeeps : ∀ effect, allowed effect = true → effect.changesConfig = false) :
    after.config.value = before.config.value := by
  induction h with
  | none c => rfl
  | cons hallowed hdoes _ ih => exact ih.trans (hdoes.config_eq (hkeeps _ hallowed))

namespace Effect

variable {effect : Effect}

/-- The opening of a tick does not change the settings. -/
theorem changesConfig_of_opens (h : effect.opens = true) : effect.changesConfig = false := by
  cases effect <;> first | rfl | cases h

/-- A sleep does not change the settings. -/
theorem changesConfig_of_rests (h : effect.rests = true) : effect.changesConfig = false := by
  cases effect <;> first | rfl | cases h

end Effect

/-! ## Deep sleeps that come back -/

/-- A deep sleep came back without a restart. -/
def CameBack (calls : List Exchange) : Prop :=
  ∃ secs wake, (⟨.deepSleep secs wake, .resumed⟩ : Exchange) ∈ calls

/-- The exchange is a deep sleep that came back. -/
def Exchange.cameBack : Exchange → Bool
  | ⟨.deepSleep _ _, .resumed⟩ => true
  | _ => false

/-- Whether a deep sleep came back is told from the exchanges one by one. -/
theorem cameBack_iff {calls : List Exchange} : CameBack calls ↔ calls.any Exchange.cameBack = true := by
  rw [List.any_eq_true]
  constructor
  · rintro ⟨secs, wake, hmem⟩
    exact ⟨_, hmem, rfl⟩
  · rintro ⟨exchange, hmem, hback⟩
    unfold Exchange.cameBack at hback
    split at hback
    · exact ⟨_, _, hmem⟩
    · cases hback

/-- It came back in one of the parts. -/
theorem cameBack_append {trace rest : List Exchange} :
    CameBack (trace ++ rest) ↔ CameBack trace ∨ CameBack rest := by
  simp only [cameBack_iff, List.any_append, Bool.or_eq_true]

instance (calls : List Exchange) : Decidable (CameBack calls) := decidable_of_iff' _ cameBack_iff

/-- Where the device may go after waking. -/
def RunState.followsSleep : RunState → Bool
  | .connecting | .reporting | .sleeping | .idle => true
  | _ => false

namespace Controller

open Step

variable {c : Controller}

/-- Whatever woke the device, it goes on to a state that may follow a sleep. -/
theorem followsSleep_stateAfterWake (c : Controller) (cause : WakeCause) (moment : Moment) (wasOpen : Bool) :
    (c.stateAfterWake cause moment wasOpen).followsSleep = true := by
  unfold stateAfterWake
  dsimp only
  split
  · rfl
  split
  · rfl
  split
  · rfl
  split
  · rfl
  · rfl

/-! ## Waking -/

/-- What a device that wakes at the moment does: in open hours it brings the sensor up first. -/
inductive Wakes (c : Controller) (moment : Moment) : List Exchange → Controller → Prop where
  | opened {first rest : List Exchange} {ready : Bool} {sensors : SensorManager} {after : Controller} :
      c.isOpen moment = true → Path (c.sensors.powerUp c.config.value.sensorType) first (ready, sensors) →
      Effects Effect.accounts { c with planner := c.planner.observeOpen, sensors } rest after →
      Wakes c moment (first ++ rest) after
  | closed {rest : List Exchange} {after : Controller} :
      c.isOpen moment = false → Effects Effect.accounts c rest after → Wakes c moment rest after

/-- Waking begins with a look at the clock. -/
theorem ensures_wakeUp (pins : WakePins) :
    (wakeUp pins).Ensures c fun trace outcome after =>
      ∃ moment rest next, trace = ⟨.readClock, moment⟩ :: rest ∧ Wakes c moment rest after ∧
        outcome = .moveTo next ∧ next.followsSleep = true := by
  refine ensures_call_bind.mpr fun moment => ensures_get_bind.mpr (ensures_logged_bind.mpr ?_)
  extract_lets rest
  have hrest : ∀ c, (rest ()).Ensures c fun trace outcome after =>
      Effects Effect.accounts c trace after ∧ ∃ next, outcome = .moveTo next ∧ next.followsSleep = true := by
    intro c
    have haccount : Within Effect.accounts (accountForWake (.ofPins pins) moment) c :=
      within_accountForWake _ moment rfl rfl rfl
    refine ensures_bind.mpr (Ensures.mono haccount fun trace _ after haccounts => ?_)
    refine ensures_get_bind.mpr (ensures_pure.mpr ?_)
    rw [List.append_nil]
    exact ⟨haccounts, _, rfl, followsSleep_stateAfterWake ..⟩
  refine ensures_ite.mpr ⟨fun hopen => ?_, fun hclosed => ?_⟩
  · refine ensures_modify_bind.mpr (ensures_bind.mpr (ensures_get_bind.mpr (ensures_bind.mpr ?_)))
    refine ensures_onSensors.mpr fun first result hup => ensures_ite.mpr ⟨fun _ => ?_, fun _ => ?_⟩
    · refine ensures_pure.mpr ((hrest _).mono fun trace outcome after hafter => ?_)
      obtain ⟨haccounts, next, houtcome, hnext⟩ := hafter
      rw [List.append_nil]
      exact ⟨moment, _, next, rfl, .opened hopen hup haccounts, houtcome, hnext⟩
    · refine ensures_logged_bind.mpr (ensures_updateStatus.mpr ((hrest _).mono fun trace outcome after hafter => ?_))
      obtain ⟨haccounts, next, houtcome, hnext⟩ := hafter
      rw [List.append_nil]
      exact ⟨moment, _, next, rfl, .opened hopen hup (.cons rfl (.raise _ .sensorFault moment.now) haccounts),
        houtcome, hnext⟩
  · refine (hrest c).mono fun trace outcome after hafter => ?_
    obtain ⟨haccounts, next, houtcome, hnext⟩ := hafter
    exact ⟨moment, _, next, rfl, .closed (by simpa using hclosed) haccounts, houtcome, hnext⟩

/-! ## Sleeping -/

/-- A flush writes the records and does nothing else. -/
theorem within_flush_writes : Within Effect.writes flush c := within_flush rfl rfl

/-- Before a timed sleep the sensor is powered down, unless it is to end the sleep. -/
def Spares (c : Controller) (plan : SleepPlan) (down : List Exchange) (sensors : SensorManager) : Prop :=
  if plan.wake.sensor then down = [] ∧ sensors = c.sensors else Path c.sensors.powerDown down sensors

/-- Sparing the sensor is at most one effect. -/
theorem Spares.effects {plan : SleepPlan} {down : List Exchange} {sensors : SensorManager} {allowed : Effect → Bool}
    (h : c.Spares plan down sensors) (hallowed : allowed .powerDown = true) :
    Effects allowed c down { c with sensors } := by
  unfold Spares at h
  split at h
  · obtain ⟨rfl, rfl⟩ := h
    exact .none c
  · exact .single hallowed (.powerDown h)

/-- What a timed sleep does. -/
inductive Naps (c : Controller) (plan : SleepPlan) : List Exchange → Outcome → Controller → Prop where
  | mk {down writing rest : List Exchange} {sensors : SensorManager} {ready after : Controller}
      {pins : WakePins} {moment : Moment} {next : RunState} :
      c.Spares plan down sensors → Effects Effect.writes { c with sensors } writing ready →
      Path ((wakeUp pins).run ready) (⟨.readClock, moment⟩ :: rest) (.moveTo next, after) →
      Wakes ready moment rest after → next.followsSleep = true →
      Naps c plan (down ++ writing ++ ⟨.timedSleep plan.seconds plan.wake, pins⟩ :: ⟨.readClock, moment⟩ :: rest)
        (.moveTo next) after

/-- Whatever ends it, a timed sleep goes this way. -/
theorem ensures_timedSleep (plan : SleepPlan) :
    (timedSleep plan).Ensures c fun trace outcome after => Naps c plan trace outcome after := by
  unfold timedSleep
  extract_lets rest
  have hrest : ∀ c, (rest ()).Ensures c fun trace outcome after =>
      ∃ writing ready pins moment waking next, Effects Effect.writes c writing ready ∧
        trace = writing ++ ⟨.timedSleep plan.seconds plan.wake, pins⟩ :: ⟨.readClock, moment⟩ :: waking ∧
        Path ((wakeUp pins).run ready) (⟨.readClock, moment⟩ :: waking) (outcome, after) ∧
        Wakes ready moment waking after ∧ outcome = .moveTo next ∧ next.followsSleep = true := by
    intro c
    refine ensures_bind.mpr (Ensures.mono within_flush_writes fun writing _ ready hwrites => ?_)
    refine ensures_logged_bind.mpr (ensures_call_bind.mpr fun pins trace result hpath => ?_)
    obtain ⟨moment, waking, next, rfl, hwakes, houtcome, hnext⟩ := ensures_wakeUp pins hpath
    exact ⟨writing, ready, pins, moment, waking, next, hwrites, rfl, hpath, hwakes, houtcome, hnext⟩
  refine ensures_ite.mpr ⟨fun hunarmed => ?_, fun harmed => ?_⟩
  · refine ensures_bind.mpr (ensures_onSensors.mpr (Program.ensures_map.mpr fun down sensors hdown => ?_))
    refine (hrest _).mono ?_
    rintro _ outcome after ⟨writing, ready, pins, moment, waking, next, hwrites, rfl, hpath, hwakes, rfl, hnext⟩
    rw [← List.append_assoc]
    have hspares : c.Spares plan down sensors := by
      rw [Spares, if_neg (by simpa using hunarmed)]
      exact hdown
    exact .mk hspares hwrites hpath hwakes hnext
  · refine (hrest c).mono ?_
    rintro _ outcome after ⟨writing, ready, pins, moment, waking, next, hwrites, rfl, hpath, hwakes, rfl, hnext⟩
    have hspares : c.Spares plan [] c.sensors := by
      rw [Spares, if_pos (by simpa using harmed)]
      exact ⟨rfl, rfl⟩
    exact .mk hspares hwrites hpath hwakes hnext

/-- What a waking device does is part of a tick that sleeps. -/
theorem Wakes.effects {moment : Moment} {trace : List Exchange} {after : Controller}
    (h : Wakes c moment trace after) : Effects Effect.rests c trace after := by
  cases h with
  | @opened _ _ _ sensors _ _ hup hrest =>
    have hseen : Effect.Does .plan { c with sensors } [] { c with planner := c.planner.observeOpen, sensors } := .plan id
    exact .cons rfl (.powerUp hup) (.cons rfl hseen (hrest.mono fun _ => Effect.rests_of_accounts))
  | closed _ hrest => exact hrest.mono fun _ => Effect.rests_of_accounts

/-- A timed sleep, with the waking, is a sequence of effects. -/
theorem Naps.effects {plan : SleepPlan} {trace : List Exchange} {outcome : Outcome} {after : Controller}
    (h : Naps c plan trace outcome after) : Effects Effect.rests c trace after := by
  cases h with
  | @mk down writing rest sensors ready _ pins moment next hspares hwrites _ hwakes _ =>
    have hdown : Effects Effect.rests c down { c with sensors } := hspares.effects rfl
    have hwritten : Effects Effect.rests { c with sensors } writing ready :=
      hwrites.mono fun _ => Effect.rests_of_writes
    have hslept : Effects Effect.rests ready
        (⟨.timedSleep plan.seconds plan.wake, pins⟩ :: ⟨.readClock, moment⟩ :: rest) after :=
      .cons rfl (.ask ready (.timedSleep plan.seconds plan.wake) pins)
        (.cons rfl (.ask ready .readClock moment) hwakes.effects)
    exact (hdown.append hwritten).append hslept

/-- What a deep sleep does: the sensor is powered down and the open session closed before it. Where it
comes back, no other is tried in this boot, and a timed sleep follows in its place. -/
inductive SleepsDeeply (c : Controller) (plan : SleepPlan) (now : UInt32) :
    List Exchange → Outcome → Controller → Prop where
  | restarting {down writing : List Exchange} {sensors : SensorManager} {ready : Controller} :
      Path c.sensors.powerDown down sensors →
      Effects Effect.writes
        ({ c with sensors }.setCounting (c.counting.closeOccupancy c.status.value now).value) writing ready →
      SleepsDeeply c plan now (down ++ writing ++ [⟨.deepSleep plan.seconds plan.wake, .restarting⟩]) .restart
        ready
  | resumed {down writing planning rest : List Exchange} {sensors : SensorManager}
      {ready between after : Controller} {moment : Moment} {again : SleepPlan} {outcome : Outcome} :
      Path c.sensors.powerDown down sensors →
      Effects Effect.writes
        ({ c with sensors }.setCounting (c.counting.closeOccupancy c.status.value now).value) writing ready →
      Effects Effect.replans ready planning between → Naps between again rest outcome after →
      between.status.value.alert = (ready.status.value.alert.raise .sleepFault moment.now).value →
      between.planner.isDeepAvailable = false →
      SleepsDeeply c plan now (down ++ writing ++
        ⟨.deepSleep plan.seconds plan.wake, .resumed⟩ :: ⟨.readClock, moment⟩ :: (planning ++ rest)) outcome after

/-- A deep sleep that came back is raised as a fault and spent, and a timed sleep follows in its place. -/
theorem ensures_afterFailedDeepSleep :
    afterFailedDeepSleep.Ensures c fun trace outcome after =>
      ∃ moment planning between again rest, trace = ⟨.readClock, moment⟩ :: (planning ++ rest) ∧
        Effects Effect.replans c planning between ∧ Naps between again rest outcome after ∧
        between.status.value.alert = (c.status.value.alert.raise .sleepFault moment.now).value ∧
        between.planner.isDeepAvailable = false := by
  refine ensures_call_bind.mpr fun moment => ensures_bind.mpr (ensures_updateStatus.mpr ?_)
  refine ensures_get_bind.mpr (ensures_logged_bind.mpr (ensures_modify_bind.mpr ?_))
  refine ensures_bind.mpr (ensures_get_bind.mpr (ensures_bind.mpr (ensures_lift.mpr fun looking uses hlook => ?_)))
  refine ensures_pure.mpr (ensures_logged_bind.mpr ((ensures_timedSleep _).mono fun rest outcome after hnaps => ?_))
  have hplans : ∀ planner : SleepPlanner, planner.isDeepAvailable = false → Effects Effect.replans
      (c.setStatus (c.status.value.raiseAlert .sleepFault moment.now).value) looking
      { c.setStatus (c.status.value.raiseAlert .sleepFault moment.now).value with planner } := by
    intro planner hspent
    exact .cons rfl (.plan fun h => by rw [hspent] at h; cases h) (.single rfl (.interrupt hlook))
  refine ⟨moment, looking, _, _, rest, ?_, .cons rfl (.raise c .sleepFault moment.now) (hplans _ rfl), hnaps, rfl, rfl⟩
  simp

/-- Whether or not it comes back, a deep sleep goes one of these ways. -/
theorem ensures_deepSleep (plan : SleepPlan) (now : UInt32) :
    (deepSleep plan now).Ensures c fun trace outcome after => SleepsDeeply c plan now trace outcome after := by
  refine ensures_bind.mpr (ensures_onSensors.mpr (Program.ensures_map.mpr fun down sensors hdown => ?_))
  refine ensures_bind.mpr (ensures_discard.mpr (ensures_onCounting.mpr (ensures_bind.mpr ?_)))
  refine Ensures.mono within_flush_writes fun writing _ ready hwrites => ?_
  refine ensures_logged_bind.mpr (ensures_call_bind.mpr fun answer => ?_)
  cases answer with
  | restarting =>
    refine ensures_pure.mpr ?_
    rw [List.nil_append, ← List.append_assoc]
    exact .restarting hdown hwrites
  | resumed =>
    refine ensures_afterFailedDeepSleep.mono ?_
    rintro _ outcome after ⟨moment, planning, between, again, rest, rfl, hplans, hnaps, hraised, hspent⟩
    rw [List.nil_append, ← List.append_assoc]
    exact .resumed hdown hwrites hplans hnaps hraised hspent

/-- A sleep until the next opening, which only the button may end before. -/
def untilOpening (c : Controller) (moment : Moment) : SleepPlan :=
  ⟨.deep, clampSleep (c.config.value.openHours.secondsUntilOpen (LocalTime.ofMoment moment)), ⟨true, true, false⟩⟩

/-- What is done once the radio is down: a sleep is planned and carried out. It is deep only outside open
hours, and where none has come back in this boot. -/
inductive Sleeps (c : Controller) (moment : Moment) : List Exchange → Outcome → Controller → Prop where
  | timed {planning rest : List Exchange} {ready after : Controller} {plan : SleepPlan} {outcome : Outcome} :
      Effects Effect.plans c planning ready → Naps ready plan rest outcome after →
      Sleeps c moment (planning ++ rest) outcome after
  | deep {planning rest : List Exchange} {ready after : Controller} {outcome : Outcome} :
      Effects Effect.plans c planning ready →
      SleepsDeeply ready (c.untilOpening moment) moment.now rest outcome after →
      c.isOpen moment = false → c.planner.isDeepAvailable = true →
      Sleeps c moment (planning ++ rest) outcome after

/-- What a sleep is planned from is read off the controller and the clock, and changes nothing. -/
theorem ensures_sleepInputs (moment : Moment) :
    (sleepInputs moment).Ensures c fun trace inputs after => c = after ∧ Effects Effect.plans c trace c ∧
      inputs.isOpen = c.isOpen moment ∧
      inputs.untilOpen = c.config.value.openHours.secondsUntilOpen (LocalTime.ofMoment moment) := by
  refine ensures_get_bind.mpr (ensures_bind.mpr (ensures_lift.mpr fun looking uses hlook => ?_))
  refine ensures_pure.mpr ⟨rfl, ?_, rfl, rfl⟩
  rw [List.append_nil]
  exact .single rfl (.interrupt hlook)

/-- Once the radio is down, the device sleeps in one of these ways. -/
theorem ensures_sleepNow (moment : Moment) :
    (sleepNow moment).Ensures c fun trace outcome after => Sleeps c moment trace outcome after := by
  refine ensures_bind.mpr ((ensures_sleepInputs moment).mono ?_)
  rintro looking inputs _ ⟨rfl, hlooked, hopen, huntil⟩
  refine ensures_get_bind.mpr (ensures_logged_bind.mpr ?_)
  have hplans : Effects Effect.plans c looking { c with planner := (c.planner.plan inputs).value.2 } := by
    have hplanned := hlooked.append
      (.single rfl (.plan fun h => SleepPlanner.isDeepAvailable_plan c.planner inputs ▸ h))
    rwa [List.append_nil] at hplanned
  cases hmay : c.planner.mayDeepSleep inputs with
  | true =>
    rw [SleepPlanner.value_plan_of_mayDeepSleep hmay] at hplans ⊢
    rw [huntil]
    refine ensures_modify_bind.mpr ((ensures_deepSleep _ _).mono fun rest outcome after hdeep => ?_)
    simp only [SleepPlanner.mayDeepSleep, Bool.and_eq_true, Bool.not_eq_true'] at hmay
    obtain ⟨⟨hclosed, hspared⟩, _⟩ := hmay
    refine .deep hplans hdeep (hopen.symm.trans hclosed) ?_
    rw [SleepPlanner.isDeepAvailable, hspared, Bool.not_false]
  | false =>
    refine ensures_modify_bind.mpr ?_
    rw [SleepPlanner.strategy_plan_of_not_mayDeepSleep hmay]
    exact (ensures_timedSleep _).mono fun rest outcome after hnaps => .timed hplans hnaps

/-- What a tick that sleeps does: it stays awake for now, or it is stuck with the radio, or it sleeps, which
in connected mode it does only where it begins outside open hours. -/
inductive SleepTick (c : Controller) (moment : Moment) : List Exchange → Outcome → Controller → Prop where
  | awake {trace : List Exchange} {outcome : Outcome} {after : Controller} :
      Effects Effect.windsDown c trace after → outcome = .remain ∨ outcome = .moveTo .idle →
      SleepTick c moment trace outcome after
  /-- In connected mode a radio that stays up is a fault. -/
  | stuck {trace : List Exchange} {disconnect : DisconnectSession} :
      c.config.value.isConnectedMode = true → Effects Effect.windsDown c trace { c with disconnect } →
      SleepTick c moment trace (.moveTo .error) ({ c with disconnect }.setStatus
        (c.status.value.raiseAlert .modemFault moment.now).value)
  | asleep {first rest : List Exchange} {ready after : Controller} {outcome : Outcome} :
      (c.config.value.isConnectedMode = true → c.isOpen moment = false) →
      Effects Effect.windsDown c first ready → Sleeps ready moment rest outcome after →
      SleepTick c moment (first ++ rest) outcome after

/-- Asking the queue whether it keeps the device awake winds the radio down as little as that step itself. -/
theorem effects_of_unheld {looking : List Exchange} (h : Unheld looking) :
    Effects Effect.windsDown c looking c := by
  have hlooked : ∀ online, Effects Effect.windsDown c [⟨.isConnected, online⟩] c :=
    fun online => .single rfl (.ask c .isConnected online)
  rcases h with rfl | rfl
  · exact hlooked false
  · exact (hlooked true).append (.single rfl (.ask c (.isSafeToSleep true) true))

/-- Seen without the calls that wind the radio down one by one, it is a tick that sleeps. -/
theorem TurnsIn.sleepTick {moment : Moment} {trace : List Exchange} {outcome : Outcome} {after : Controller}
    (h : TurnsIn c moment trace outcome after) : SleepTick c moment trace outcome after := by
  have hwound : ∀ {looking stepping progress disconnect}, Unheld looking →
      Path (c.teardown moment) stepping (progress, disconnect) →
      Effects Effect.windsDown c (looking ++ stepping) { c with disconnect } :=
    fun hlooking hstep => (effects_of_unheld hlooking).append (.single rfl (.disconnect hstep))
  cases h with
  | opened => exact .awake (.none c) (.inr rfl)
  | held pending =>
    have hasked : Effects Effect.windsDown c [⟨.isSafeToSleep true, false⟩, ⟨.pendingCount, pending⟩] c :=
      .cons rfl (.ask c (.isSafeToSleep true) false) (.single rfl (.ask c .pendingCount pending))
    exact .awake (.cons rfl (.ask c .isConnected true) hasked) (.inl rfl)
  | waits hlooking hstep => exact .awake (hwound hlooking hstep) (.inl rfl)
  | stuck hconnected _ hlooking hstep => exact .stuck hconnected (hwound hlooking hstep)
  | overdue hother hlooking hstep hsleep =>
    have hclosed : c.config.value.isConnectedMode = true → c.isOpen moment = false := by
      intro hconnected
      rw [hother] at hconnected
      cases hconnected
    exact .asleep hclosed (hwound hlooking hstep) (ensures_sleepNow moment hsleep)
  | @down _ _ _ disconnect _ _ hclosed hlooking hstep hsleep =>
    have hcleared := (hwound hlooking hstep).append (.single rfl (.clear { c with disconnect } .modemFault))
    rw [List.append_nil] at hcleared
    exact .asleep hclosed hcleared (ensures_sleepNow moment hsleep)

/-- Whatever the devices answer, the sleeping state does one of these things in a tick. -/
theorem ensures_sleeping (moment : Moment) :
    (sleeping moment).Ensures c fun trace outcome after => SleepTick c moment trace outcome after :=
  (ensures_turnsIn moment).mono fun _ _ _ h => h.sleepTick

/-- What the sleeping state is carried out as. -/
theorem sleepTick_of_carryOut {moment : Moment} {trace : List Exchange} {outcome : Outcome} {after : Controller}
    (h : Path ((carryOut moment).run c) trace (outcome, after)) (hstate : c.runState = .sleeping) :
    SleepTick c moment trace outcome after :=
  ensures_sleeping moment (work_of_carryOut h hstate)

end Controller

end FieldCounter
