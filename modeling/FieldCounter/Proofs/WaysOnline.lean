import FieldCounter.Proofs.ErrorEntry
import FieldCounter.Proofs.Unconnected

/-!
# What leads to a connection

From the states that need no connection the device turns to one that does for a reason: at the start because
the clock is not set, an update waits or the button is held; later because the button was pressed, in a sleep or
awake, because the radio offers an update, or because the operating mode has it come online by itself.
-/

namespace FieldCounter

open Program (Path)

/-- The state is carried out with a connect session. -/
def RunState.usesConnection : RunState → Bool
  | .connecting | .firmwareUpdate => true
  | .initialization | .error | .idle | .sleeping | .reporting => false

/-- The state is one of those between two connections. -/
def RunState.isSettled : RunState → Bool
  | .error | .idle | .sleeping | .reporting => true
  | .initialization | .connecting | .firmwareUpdate => false

namespace Controller

open Step

variable {c after : Controller} {moment : Moment} {trace : List Exchange} {outcome : Outcome} {control : Control}

/-- Something asks for a connection. -/
inductive Prompted (c : Controller) (moment : Moment) (calls : List Exchange) : Prop where
  | clock : c.runState = .initialization → moment.valid = false → Prompted c moment calls
  | update : c.runState = .initialization → c.status.value.updatePending = true → Prompted c moment calls
  | button : ⟨.takeButtonFlag, true⟩ ∈ calls → Prompted c moment calls
  | override : ⟨.overrideAsserted, true⟩ ∈ calls → Prompted c moment calls
  | offered : ⟨.updateOffered, true⟩ ∈ calls → Prompted c moment calls
  | woken {secs : Nat} {wake : WakeSources} {pins : WakePins} :
      ⟨.timedSleep secs wake, pins⟩ ∈ calls → pins.manual = true → Prompted c moment calls
  /-- The operating mode has the device come online by itself. -/
  | mode : c.config.value.operatingMode ≠ .disconnected → Prompted c moment calls

/-- Connected mode by itself asks for a connection. -/
theorem Prompted.of_isConnectedMode (h : c.config.value.isConnectedMode = true) : c.Prompted moment trace := by
  have hmode : c.config.value.operatingMode = .connected := by simpa [DeviceConfig.isConnectedMode] using h
  exact .mode (by rw [hmode]; decide)

/-- What a state that uses no connection leads to. -/
inductive TurnsTo (c : Controller) (moment : Moment) : List Exchange → Outcome → Controller → Prop where
  | settled {trace : List Exchange} {outcome : Outcome} {after : Controller} :
      (outcome.next c.runState).isSettled = true → TurnsTo c moment trace outcome after
  | connecting {trace : List Exchange} {after : Controller} :
      c.Prompted moment trace → TurnsTo c moment trace (.moveTo .connecting) after
  /-- The radio offers an update, and none was given up in this boot. -/
  | updating {trace : List Exchange} {after : Controller} : ⟨.updateOffered, true⟩ ∈ trace →
      after.updateWaiting = true → TurnsTo c moment trace (.moveTo .firmwareUpdate) after

/-! ## Starting -/

/-- The start looks at the button, and what it leads to depends on that, on the clock and on a waiting update. -/
def Starts (updatePending : Bool) (moment : Moment) (trace : List Exchange) (outcome : Outcome) : Prop :=
  ∃ pressed held, ⟨.takeButtonFlag, pressed⟩ ∈ trace ∧ ⟨.overrideAsserted, held⟩ ∈ trace ∧
    outcome = .moveTo (if moment.valid && !updatePending && !(pressed || held) then .idle else .connecting)

/-- Whatever comes before that leaves it to the same. -/
theorem ensures_starts_bind {α : Type} {x : Step α} {f : α → Step Outcome} {updatePending : Bool}
    (hx : Within RunState.initialization.has x c) (hpending : c.status.value.updatePending = updatePending)
    (hf : ∀ a between, between.status.value.updatePending = updatePending →
      (f a).Ensures between fun trace outcome _ => Starts updatePending moment trace outcome) :
    (x >>= f : Step Outcome).Ensures c fun trace outcome _ => Starts updatePending moment trace outcome := by
  refine ensures_bind.mpr (Ensures.mono hx fun earlier a between heffects => ?_)
  have hbetween := (heffects.updatePending_eq fun _ => rfl).trans hpending
  refine (hf a between hbetween).mono fun trace outcome after hstarts => ?_
  obtain ⟨pressed, held, hpressed, hheld, houtcome⟩ := hstarts
  exact ⟨pressed, held, List.mem_append_right _ hpressed, List.mem_append_right _ hheld, houtcome⟩

/-- Whatever the devices answer, starting up leads on in one of these ways. -/
theorem ensures_startUp (moment : Moment) :
    (startUp moment).Ensures c fun trace outcome _ => Starts c.status.value.updatePending moment trace outcome := by
  generalize hc : c.status.value.updatePending = updatePending
  refine ensures_starts_bind (.ask rfl) hc fun reason c hc => ensures_get_bind.mpr (ensures_logged_bind.mpr ?_)
  extract_lets rest sense clear
  have hrest : ∀ c : Controller, c.status.value.updatePending = updatePending →
      (rest ()).Ensures c fun trace outcome _ => Starts updatePending moment trace outcome := by
    rintro c rfl
    refine ensures_call_bind.mpr fun pressed => ensures_call_bind.mpr fun held => ensures_get_bind.mpr ?_
    refine ensures_ite.mpr ⟨fun hidle => ensures_pure.mpr ?_, fun hconnect => ?_⟩
    · exact ⟨pressed, held, by simp, by simp, by rw [if_pos hidle]⟩
    · refine ensures_logged_bind.mpr (ensures_pure.mpr ⟨pressed, held, by simp, by simp, ?_⟩)
      rw [if_neg hconnect]
  have hsense : ∀ c : Controller, c.status.value.updatePending = updatePending →
      (sense ()).Ensures c fun trace outcome _ => Starts updatePending moment trace outcome := by
    refine fun c hc => ensures_starts_bind (within_checkBattery rfl) hc fun _ c hc => ensures_get_bind.mpr ?_
    refine ensures_ite.mpr ⟨fun _ => ?_, fun _ => hrest c hc⟩
    exact ensures_starts_bind (within_ensureSensor rfl rfl) hc fun _ => hrest
  have hclear : ∀ c : Controller, c.status.value.updatePending = updatePending →
      (clear ()).Ensures c fun trace outcome _ => Starts updatePending moment trace outcome := by
    refine fun c hc => ensures_ite.mpr ⟨fun _ => ?_, fun _ => hsense c hc⟩
    refine ensures_starts_bind (within_clearAlert rfl) hc fun cleared c hc => ?_
    exact ensures_ite.mpr ⟨fun _ => ensures_logged_bind.mpr (hsense c hc), fun _ => hsense c hc⟩
  refine ensures_ite.mpr ⟨fun _ => ensures_logged_bind.mpr ?_, fun _ => hclear c hc⟩
  exact ensures_starts_bind (.modify rfl (.suppressWebhook _)) hc fun _ => hclear

/-- So it comes online only where something asks for it. -/
theorem Starts.turnsTo (h : Starts c.status.value.updatePending moment trace outcome)
    (hstate : c.runState = .initialization) : c.TurnsTo moment trace outcome after := by
  obtain ⟨pressed, held, hpressed, hheld, rfl⟩ := h
  split
  · exact .settled rfl
  next hprompted =>
    refine .connecting ?_
    simp only [Bool.and_eq_true, Bool.not_eq_true', Bool.or_eq_false_iff, not_and, Bool.not_eq_false] at hprompted
    cases hvalid : moment.valid with
    | false => exact .clock hstate hvalid
    | true =>
      cases hpending : c.status.value.updatePending with
      | true => exact .update hstate hpending
      | false =>
        cases pressed with
        | true => exact .button hpressed
        | false =>
          obtain rfl := hprompted ⟨hvalid, hpending⟩ rfl
          exact .override hheld

/-! ## Idling and reporting -/

/-- What idling comes to. -/
inductive Idles (c : Controller) (moment : Moment) : List Exchange → Outcome → Controller → Prop where
  | pressed : Idles c moment [⟨.takeButtonFlag, true⟩] (.moveTo .connecting) c
  | offered : c.updateDeferred = false →
      Idles c moment [⟨.takeButtonFlag, false⟩, ⟨.isConnected, true⟩, ⟨.updateOffered, true⟩]
        (.moveTo .firmwareUpdate) (c.setStatus { c.status.value with updatePending := true })
  /-- In connected mode the device comes online by itself. -/
  | reconnects {trace : List Exchange} : c.config.value.isConnectedMode = true →
      Idles c moment trace (.moveTo .connecting) c
  | settles {trace : List Exchange} {outcome : Outcome} : (outcome.next .idle).isSettled = true →
      Idles c moment trace outcome c

/-- A look at whether the device may sleep changes nothing. -/
theorem ensures_mayRest (moment : Moment) : (mayRest moment).Ensures c fun _ _ after => c = after := by
  refine ensures_get_bind.mpr (ensures_ite.mpr ⟨fun _ => ensures_pure.mpr rfl, fun _ => ?_⟩)
  exact ensures_call_bind.mpr fun _ => ensures_call_bind.mpr fun _ => ensures_pure.mpr rfl

/-- An update is looked for online, unless one was given up. -/
theorem ensures_offered :
    (pure (!c.updateDeferred) <&&> (liftM (call .isConnected) <&&> liftM (call .updateOffered)) : Step Bool).Ensures c
      fun trace offered after => c = after ∧ (offered = true →
        c.updateDeferred = false ∧ trace = [⟨.isConnected, true⟩, ⟨.updateOffered, true⟩]) := by
  refine ensures_and.mpr (ensures_pure.mpr ?_)
  cases c.updateDeferred with
  | true => exact ⟨rfl, nofun⟩
  | false =>
    rw [Bool.not_false, if_pos rfl]
    refine ensures_and.mpr (ensures_call.mpr fun online => ?_)
    cases online with
    | false => exact ⟨rfl, nofun⟩
    | true =>
      rw [if_pos rfl]
      refine ensures_call.mpr fun offered => ⟨rfl, fun hoffered => ⟨rfl, ?_⟩⟩
      rw [hoffered]
      rfl

/-- In connected mode a connection is looked for. -/
theorem ensures_missed :
    (pure c.config.value.isConnectedMode <&&> (not <$> liftM (call .isConnected)) : Step Bool).Ensures c
      fun _ missed after => c = after ∧ (missed = true → c.config.value.isConnectedMode = true) := by
  refine ensures_and.mpr (ensures_pure.mpr ?_)
  cases c.config.value.isConnectedMode with
  | false => exact ⟨rfl, nofun⟩
  | true =>
    rw [if_pos rfl]
    exact ensures_map.mpr (ensures_call.mpr fun _ => ⟨rfl, fun _ => rfl⟩)

/-- Whatever the devices answer, idling comes to one of these. -/
theorem ensures_idles (moment : Moment) :
    (idle moment).Ensures c fun trace outcome after => Idles c moment trace outcome after := by
  refine ensures_call_bind.mpr fun pressed => ensures_ite.mpr ⟨?_, fun hfree => ensures_get_bind.mpr ?_⟩
  · rintro rfl
    exact ensures_logged_bind.mpr (ensures_pure.mpr .pressed)
  obtain rfl : pressed = false := Bool.eq_false_iff.mpr hfree
  split
  · exact ensures_logged_bind.mpr (ensures_pure.mpr (.settles rfl))
  refine ensures_bind.mpr (ensures_offered.mono ?_)
  rintro looking offered _ ⟨rfl, hoffered⟩
  refine ensures_ite.mpr ⟨fun htrue => ?_, fun _ => ?_⟩
  · obtain ⟨hdeferred, rfl⟩ := hoffered htrue
    exact ensures_bind.mpr (ensures_modifyStatus.mpr (ensures_pure.mpr (.offered hdeferred)))
  refine ensures_ite.mpr ⟨fun _ => ensures_pure.mpr (.settles rfl), fun _ => ?_⟩
  refine ensures_ite.mpr ⟨fun _ => ensures_pure.mpr (.settles rfl), fun _ => ensures_bind.mpr ?_⟩
  refine ensures_missed.mono ?_
  rintro missing missed _ ⟨rfl, hmissed⟩
  refine ensures_ite.mpr ⟨fun htrue => ensures_logged_bind.mpr (ensures_pure.mpr (.reconnects (hmissed htrue))), ?_⟩
  refine fun _ => ensures_bind.mpr ((ensures_mayRest moment).mono ?_)
  rintro asking rests _ rfl
  refine ensures_ite.mpr ⟨fun _ => ensures_pure.mpr (.settles rfl), fun _ => ?_⟩
  exact ensures_logged_bind.mpr (ensures_pure.mpr (.settles rfl))

/-- So does idling come online only where something asks for it. -/
theorem Idles.turnsTo (h : c.Idles moment trace outcome after) (hstate : c.runState = .idle) :
    c.TurnsTo moment trace outcome after := by
  cases h with
  | pressed => exact .connecting (.button (by simp))
  | offered hdeferred => exact .updating (by simp) (by simp [updateWaiting, setStatus, hdeferred])
  | reconnects hmode => exact .connecting (.of_isConnectedMode hmode)
  | settles hsettled => exact .settled (hstate ▸ hsettled)

/-- A report leads to a connection only in the modes that have the device come online by itself. -/
theorem ensures_afterReportOffline_turns (now : UInt32) :
    (afterReportOffline now).Ensures c fun _ outcome _ =>
      outcome = .moveTo .idle ∨ outcome = .moveTo .connecting ∧ c.config.value.operatingMode ≠ .disconnected := by
  refine ensures_get_bind.mpr ?_
  cases hmode : c.config.value.operatingMode with
  | connected => exact ensures_pure.mpr (.inr ⟨rfl, by decide⟩)
  | disconnected => exact ensures_pure.mpr (.inl rfl)
  | lowPower =>
    refine ensures_ite.mpr ⟨fun _ => ensures_pure.mpr (.inr ⟨rfl, by decide⟩), fun _ => ?_⟩
    exact ensures_logged_bind.mpr (ensures_pure.mpr (.inl rfl))

/-- Reporting leads online only where something asks for it. -/
theorem ensures_reporting_turnsTo (moment : Moment) :
    (reporting moment).Ensures c fun trace outcome after => c.TurnsTo moment trace outcome after := by
  have hturns : (reporting moment).Ensures c fun _ outcome _ =>
      outcome = .moveTo .idle ∨ outcome = .moveTo .connecting ∧ c.config.value.operatingMode ≠ .disconnected := by
    generalize hc : c.config.value.operatingMode = mode
    have hlater : ∀ {x : Step Unit} {f : Unit → Step Outcome} {c : Controller}, Within RunState.reporting.has x c →
        c.config.value.operatingMode = mode → (∀ between : Controller, between.config.value.operatingMode = mode →
          (f ()).Ensures between fun _ outcome _ =>
            outcome = .moveTo .idle ∨ outcome = .moveTo .connecting ∧ mode ≠ .disconnected) →
        (x >>= f : Step Outcome).Ensures c fun _ outcome _ =>
          outcome = .moveTo .idle ∨ outcome = .moveTo .connecting ∧ mode ≠ .disconnected := by
      intro x f c hx hc hf
      refine ensures_bind.mpr (Ensures.mono hx fun _ _ between heffects => hf between ?_)
      exact (heffects.operatingMode_eq rfl rfl).trans hc
    refine hlater (within_closePeriod rfl rfl) hc fun c hc => hlater (within_checkBattery rfl) hc fun c hc => ?_
    refine hlater (within_queueReport moment.now) hc fun c hc => hlater (.modify rfl (.newPeriod _)) hc fun c hc => ?_
    refine hlater (.modify rfl (.reported _ moment.now)) hc fun c hc => ?_
    extract_lets rest
    have hrest : ∀ c : Controller, c.config.value.operatingMode = mode → (rest ()).Ensures c fun _ outcome _ =>
        outcome = .moveTo .idle ∨ outcome = .moveTo .connecting ∧ mode ≠ .disconnected := by
      rintro c rfl
      refine ensures_call_bind.mpr fun online => ensures_ite.mpr ⟨fun _ => ensures_pure.mpr (.inl rfl), fun _ => ?_⟩
      exact ensures_afterReportOffline_turns moment.now
    exact ensures_ite.mpr ⟨fun _ => hlater (within_checkConnectionHealth rfl rfl) hc hrest, fun _ => hrest c hc⟩
  refine hturns.mono fun trace outcome after houtcome => ?_
  rcases houtcome with rfl | ⟨rfl, hmode⟩
  · exact .settled rfl
  · exact .connecting (.mode hmode)

/-! ## Dealing with an alert -/

/-- The error state does not lead online. -/
theorem ensures_rescuing_turnsTo (moment : Moment) (hstate : c.runState = .error) :
    (rescuing moment).Ensures c fun trace outcome after => c.TurnsTo moment trace outcome after := by
  refine (ensures_attends moment).mono fun trace outcome after hattends => .settled ?_
  rw [hstate]
  cases hattends with
  | looks | dismisses | decides | waits => rfl
  | recovers _ _ hrecovers => cases hrecovers <;> rfl

/-! ## Sleeping -/

/-- After a sleep the device comes online at once where the button was pressed, or where the operating mode has it
do so. -/
def TurnsUp (pressed connected : Bool) (outcome : Outcome) : Prop :=
  (outcome.next .sleeping).isSettled = true ∨ outcome = .moveTo .connecting ∧ (pressed = true ∨ connected = true)

/-- A device that wakes comes online only by the button or by its operating mode. -/
theorem turnsUp_stateAfterWake (c : Controller) (pins : WakePins) (moment : Moment) (wasOpen : Bool) :
    TurnsUp pins.manual c.config.value.isConnectedMode
      (.moveTo (c.stateAfterWake (.ofPins pins) moment wasOpen)) := by
  unfold TurnsUp stateAfterWake
  dsimp only
  split
  next hmanual =>
    refine .inr ⟨rfl, .inl ?_⟩
    unfold WakeCause.ofPins at hmanual
    split at hmanual
    next hpressed => exact hpressed
    next => split at hmanual <;> cases hmanual
  split
  next hconnected => exact .inr ⟨rfl, .inr (Bool.and_eq_true_iff.mp hconnected).1⟩
  split
  · exact .inl rfl
  split
  · exact .inl rfl
  · exact .inl rfl

/-- What is done on waking does not change that. -/
theorem ensures_wakeUp_turnsUp (pins : WakePins) :
    (wakeUp pins).Ensures c fun _ outcome _ => TurnsUp pins.manual c.config.value.isConnectedMode outcome := by
  refine ensures_call_bind.mpr fun moment => ensures_get_bind.mpr (ensures_logged_bind.mpr ?_)
  extract_lets rest
  have hrest : ∀ between : Controller, between.config.value = c.config.value →
      (rest ()).Ensures between fun _ outcome _ => TurnsUp pins.manual c.config.value.isConnectedMode outcome := by
    intro between hbetween
    have haccount : Within Effect.accounts (accountForWake (.ofPins pins) moment) between :=
      within_accountForWake _ moment rfl rfl rfl
    refine ensures_bind.mpr (Ensures.mono haccount fun _ _ woken haccounts => ?_)
    refine ensures_get_bind.mpr (ensures_pure.mpr ?_)
    have hwoken := haccounts.config_eq fun _ h => Effect.changesConfig_of_rests (Effect.rests_of_accounts h)
    rw [← hbetween, ← hwoken]
    exact woken.turnsUp_stateAfterWake pins moment (c.isOpen moment)
  refine ensures_ite.mpr ⟨fun _ => ensures_modify_bind.mpr (ensures_bind.mpr ?_), fun _ => hrest c rfl⟩
  have hsensor : Within RunState.initialization.has (ensureSensor moment.now)
      { c with planner := c.planner.observeOpen } := within_ensureSensor rfl rfl
  refine Ensures.mono hsensor fun _ _ between heffects => hrest between (heffects.config_eq fun effect h => ?_)
  cases effect <;> first | rfl | cases h

/-- What a device that goes to sleep turns to, by the button where a timed sleep ended with it. -/
def TurnsOut (c : Controller) (trace : List Exchange) (outcome : Outcome) : Prop :=
  ∃ pressed, TurnsUp pressed c.config.value.isConnectedMode outcome ∧ (pressed = true → ∃ secs wake pins,
    (⟨.timedSleep secs wake, pins⟩ : Exchange) ∈ trace ∧ pins.manual = true)

/-- More may be done before. -/
theorem TurnsOut.prepend {ready : Controller} {rest : List Exchange} (h : ready.TurnsOut rest outcome)
    (hconfig : ready.config.value = c.config.value) (hcalls : rest ⊆ trace) : c.TurnsOut trace outcome := by
  obtain ⟨pressed, hturns, hpressed⟩ := h
  rw [hconfig] at hturns
  refine ⟨pressed, hturns, fun htrue => ?_⟩
  obtain ⟨secs, wake, pins, hmem, hmanual⟩ := hpressed htrue
  exact ⟨secs, wake, pins, hcalls hmem, hmanual⟩

/-- A sleep that restarts the device leads nowhere else. -/
theorem turnsOut_restart : c.TurnsOut trace .restart := ⟨false, .inl rfl, nofun⟩

/-- A timed sleep ends in this way. -/
theorem Naps.turnsOut {plan : SleepPlan} (h : Naps c plan trace outcome after) : c.TurnsOut trace outcome := by
  cases h with
  | @mk down writing rest sensors ready _ pins moment next hspares hwrites hwakes _ _ =>
    have hwritten := hwrites.config_eq fun _ h => Effect.changesConfig_of_rests (Effect.rests_of_writes h)
    have hturns := ensures_wakeUp_turnsUp pins hwakes
    have hready : ready.TurnsOut (⟨.timedSleep plan.seconds plan.wake, pins⟩ :: ⟨.readClock, moment⟩ :: rest)
        (.moveTo next) := ⟨pins.manual, hturns, fun hmanual => ⟨_, _, pins, List.mem_cons_self, hmanual⟩⟩
    exact hready.prepend hwritten (List.subset_append_right _ _)

/-- So does a sleep of either kind. -/
theorem Sleeps.turnsOut (h : Sleeps c moment trace outcome after) : c.TurnsOut trace outcome := by
  cases h with
  | timed hplans hnaps =>
    have hplanned := hplans.config_eq fun _ h => Effect.changesConfig_of_rests (Effect.rests_of_plans h)
    exact hnaps.turnsOut.prepend hplanned (List.subset_append_right _ _)
  | deep hplans hdeep =>
    have hplanned := hplans.config_eq fun _ h => Effect.changesConfig_of_rests (Effect.rests_of_plans h)
    cases hdeep with
    | restarting => exact turnsOut_restart
    | resumed _ hwrites hreplans hnaps =>
      have hwritten := hwrites.config_eq fun _ h => Effect.changesConfig_of_rests (Effect.rests_of_writes h)
      have hreplanned := hreplans.config_eq fun _ h => Effect.changesConfig_of_rests (Effect.rests_of_replans h)
      refine hnaps.turnsOut.prepend (hreplanned.trans (hwritten.trans hplanned)) ?_
      exact fun exchange hmem => by simp [hmem]

/-- The sleeping state leads online only where something asks for it. -/
theorem SleepTick.turnsTo (h : SleepTick c moment trace outcome after) (hstate : c.runState = .sleeping) :
    c.TurnsTo moment trace outcome after := by
  cases h with
  | awake _ houtcome =>
    rcases houtcome with rfl | rfl
    · exact .settled (hstate ▸ rfl)
    · exact .settled rfl
  | stuck => exact .settled rfl
  | asleep _ hwinds hsleeps =>
    have hwound := hwinds.config_eq fun _ h => Effect.changesConfig_of_rests (Effect.rests_of_windsDown h)
    obtain ⟨pressed, hturns, hpressed⟩ := hsleeps.turnsOut.prepend hwound (List.subset_append_right _ _)
    rcases hturns with hsettled | ⟨rfl, rfl | hconnected⟩
    · exact .settled (hstate ▸ hsettled)
    · obtain ⟨_, _, _, hmem, hmanual⟩ := hpressed rfl
      exact .connecting (.woken hmem hmanual)
    · exact .connecting (.of_isConnectedMode hconnected)

/-! ## The tick -/

/-- Accounting for a detection is no matter of a waiting update, and neither is entering a state. -/
@[simp] theorem updatePending_opened (detected : Bool) (moment : Moment) :
    (c.opened detected moment).status.value.updatePending = c.status.value.updatePending := by
  rw [status_opened]
  exact RuntimeStatus.updatePending_of_health (CountingEngine.health_service ..)

/-- A state that uses no connection leads to one that does only where something asks for it. -/
theorem ensures_turnsTo (moment : Moment) (hstate : c.runState.usesConnection = false) :
    (carryOut moment).Ensures c fun trace outcome after => c.TurnsTo moment trace outcome after := by
  rw [carryOut, ensures_get_bind]
  cases hrun : c.runState with
  | initialization => exact (ensures_startUp moment).mono fun _ _ _ hstarts => hstarts.turnsTo hrun
  | error => exact ensures_rescuing_turnsTo moment hrun
  | idle => exact (ensures_idles moment).mono fun _ _ _ hidles => hidles.turnsTo hrun
  | sleeping => exact (ensures_sleeping moment).mono fun _ _ _ hsleeps => hsleeps.turnsTo hrun
  | reporting => exact ensures_reporting_turnsTo moment
  | connecting | firmwareUpdate => rw [hrun] at hstate; cases hstate

end Controller

end FieldCounter
