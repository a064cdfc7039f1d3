import FieldCounter.Proofs.BringUp
import FieldCounter.Proofs.Opening
import FieldCounter.Proofs.Reaching

/-!
# What is in memory where execution may stop

A tick stops at a sleep or at a reset, and nowhere else; where a deep sleep comes back, it stops once more. Each
time the last thing it has done is to write the records, with what was left in memory. It goes on from there as if
it began with the answer, and where there is none, this is how it ends.
-/

namespace FieldCounter

open Program (Path Reaches)

/-- The effects of a tick that carries out the state, apart from those that stop it. -/
def RunState.passes (state : RunState) (effect : Effect) : Bool :=
  state.ticks effect && match effect with
    | .ask call => !call.stops
    | _ => true

namespace RunState

variable {state : RunState}

/-- What does not stop a tick is still one of its effects. -/
theorem ticks_of_passes {effect : Effect} (h : state.passes effect = true) : state.ticks effect = true :=
  (Bool.and_eq_true_iff.mp h).1

/-- A bare call among such effects is none at which execution may stop. -/
theorem not_stops_of_passes {call : Call} (h : state.passes (.ask call) = true) : call.stops = false := by
  simpa using (Bool.and_eq_true_iff.mp h).2

/-- No state but sleeping and the error state stops. -/
theorem not_stops_of_has {call : Call} (h : state.has (.ask call) = true)
    (hsleeping : state ≠ .sleeping) (herror : state ≠ .error) : call.stops = false := by
  cases state with
  | sleeping => exact absurd rfl hsleeping
  | error => exact absurd rfl herror
  | _ => cases call <;> first | rfl | cases h

end RunState

/-- A step that has only such effects does not stop. -/
theorem Step.Within.passes {state : RunState} {α : Type} {x : Step α} {c : Controller} (h : x.Within state.passes c) :
    x.Unstopped c :=
  h.unstopped fun _ => RunState.not_stops_of_passes

/-- Powering the sensor down leaves nothing powered, unless there is no driver to do it. -/
theorem SensorManager.powerDown_cases {manager down : SensorManager} {trace : List Exchange}
    (h : Path manager.powerDown trace down) : down.powered = false ∨ down = manager ∧ manager.driver = none := by
  cases manager.ensures_goesDown h with
  | wasDown hoff => exact hoff.symm.imp_right fun hnone => ⟨rfl, hnone⟩
  | sleeps => exact .inl rfl

namespace Controller

open Step

/-- How the state goes on after a call at which execution may stop. -/
def answered : (call : Call) → call.Answer → Step Outcome
  | .deepSleep _ _, .resumed => afterFailedDeepSleep
  | .timedSleep _ _, pins => wakeUp pins
  | _, _ => pure .restart

/-- How the tick goes on after it. -/
def resume (call : Call) (answer : call.Answer) : Step Control := do
  let control ← follow (← answered call answer)
  flush
  return control

variable {c halted : Controller} {first : List Exchange} {call : Call} {α : Type}

/-! ## Sleeps -/

/-- The device comes to a sleep by effects of sleeping, of which the last is to write the records. Before a deep
sleep the sensor is powered down and the session closed. -/
structure ComesToSleep (c : Controller) (first : List Exchange) (call : Call) (halted : Controller) : Prop where
  unreset : call.isReset = false
  flushed : ∃ earlier ready closing, first = earlier ++ closing ∧
    Effects RunState.sleeping.ticks c earlier ready ∧ Path (flush.run ready) closing ((), halted)
  closed : call.isDeepSleep = true → halted.status.value.occupied = false
  dark : call.isDeepSleep = true → halted.sensors.powered = false ∨ halted.sensors.driver = none

/-- More may be done before. -/
theorem ComesToSleep.prepend {between : Controller} {trace : List Exchange}
    (hfirst : Effects RunState.sleeping.ticks c trace between) (h : between.ComesToSleep first call halted) :
    c.ComesToSleep (trace ++ first) call halted := by
  obtain ⟨earlier, ready, closing, rfl, heffects, hflush⟩ := h.flushed
  exact ⟨h.unreset, ⟨trace ++ earlier, ready, closing, (List.append_assoc ..).symm, hfirst.append heffects, hflush⟩,
    h.closed, h.dark⟩

/-- The step comes to its sleeps in this way. -/
abbrev Approaches (x : Step Outcome) (c : Controller) : Prop := x.Stops c answered c.ComesToSleep

namespace Approaches

variable {x : Step α} {f : α → Step Outcome}

/-- A step that does not sleep comes to no sleep. -/
theorem none {x : Step Outcome} (hx : Within RunState.sleeping.passes x c) : Approaches x c :=
  hx.passes.stops

/-- The sleeps are come to in what follows. -/
theorem bind_of_ensures (hx : x.Ensures c fun trace a between =>
    Effects RunState.sleeping.passes c trace between ∧ Approaches (f a) between) : Approaches (x >>= f) c := by
  have hwithin : Within RunState.sleeping.passes x c := hx.mono fun _ _ _ h => h.1
  refine hwithin.passes.stops_bind (hx.mono fun trace a between h => ?_)
  obtain ⟨heffects, hstops⟩ := h
  exact hstops.mono fun _ _ _ hcomes => hcomes.prepend (heffects.mono fun _ => RunState.ticks_of_passes)

/-- Effects of sleeping may come before the sleep. -/
theorem bind (hx : Within RunState.sleeping.passes x c) (hf : ∀ a between, Approaches (f a) between) :
    Approaches (x >>= f) c :=
  bind_of_ensures (Ensures.mono hx fun _ a between heffects => ⟨heffects, hf a between⟩)

/-- A look at the controller makes no difference to a sleep that follows. -/
theorem get {f : Controller → Step Outcome} (hf : Approaches (f c) c) :
    Approaches (MonadState.get >>= f : Step Outcome) c := stops_get_bind hf

/-- Neither do notes. -/
theorem logged {x : Logged α} (hf : Approaches (f x.value) c) :
    Approaches ((liftM x : Step α) >>= f : Step Outcome) c := stops_logged_bind hf

/-- A choice comes to its sleeps in this way if both its sides do. -/
theorem ite {p : Prop} [Decidable p] {x y : Step Outcome} (hx : Approaches x c) (hy : Approaches y c) :
    Approaches (if p then x else y : Step Outcome) c := stops_ite (fun _ => hx) fun _ => hy

end Approaches

/-- A flush changes neither value, and has nothing to do with the sensor. -/
theorem values_of_flush {after : Controller} {trace : List Exchange} (h : Path (flush.run c) trace ((), after)) :
    after.config.value = c.config.value ∧ after.status.value = c.status.value ∧ after.sensors = c.sensors := by
  obtain ⟨_, _, _, _, _, _, hconfig, hstatus, _, rfl⟩ := flush_cases h
  exact ⟨Persisted.value_of_flush hconfig, Persisted.value_of_flush hstatus, rfl⟩

/-- Right before a sleep the records are written. -/
theorem approaches_flush {sleep : Call} {f : sleep.Answer → Step Outcome} {level : Level} {topic : Topic}
    {text : String} (hsleep : RunState.sleeping.ticks (.ask sleep) = true) (hunreset : sleep.isReset = false)
    (hclosed : sleep.isDeepSleep = true → c.status.value.occupied = false)
    (hdark : sleep.isDeepSleep = true → c.sensors.powered = false ∨ c.sensors.driver = none)
    (hnext : ∀ answer, f answer = answered sleep answer) (hlater : ∀ answer c, Approaches (f answer) c) :
    Approaches (do flush; note level topic text; f (← FieldCounter.call sleep)) c := by
  have hwrites : Within RunState.sleeping.passes flush c := within_flush rfl rfl
  refine hwrites.passes.stops_bind fun closing ⟨_, halted⟩ hflush => ?_
  refine stops_logged_bind (stops_call_bind ?_ hnext fun answer => (hlater answer halted).mono fun _ _ _ hcomes => ?_)
  · obtain ⟨_, hstatus, hsensors⟩ := values_of_flush hflush
    refine ⟨hunreset, ⟨[], c, closing, List.append_nil _, .none c, hflush⟩, fun hdeep => ?_, fun hdeep => ?_⟩
    · rw [hstatus]
      exact hclosed hdeep
    · rw [hsensors]
      exact hdark hdeep
  · have hslept := (hwrites hflush).mono fun _ => RunState.ticks_of_passes
    have hagain := hcomes.prepend (hslept.append (.single hsleep (.ask halted sleep answer)))
    rwa [List.append_assoc] at hagain

/-- A timed sleep is come to with the records written. -/
theorem approaches_timedSleep (plan : SleepPlan) : Approaches (timedSleep plan) c := by
  unfold timedSleep
  extract_lets rest
  have hrest : ∀ c, Approaches (rest ()) c := fun c =>
    approaches_flush rfl rfl (fun hdeep => by cases hdeep) (fun hdeep => by cases hdeep) (fun _ => rfl) fun pins c =>
      .none (within_wakeUp pins rfl rfl rfl rfl rfl rfl rfl)
  exact .ite (.bind (within_powerDownSensor rfl) fun _ c => hrest c) (hrest _)

/-- So is the timed sleep in place of a deep sleep that came back. -/
theorem approaches_afterFailedDeepSleep : Approaches afterFailedDeepSleep c := by
  refine .bind (.ask rfl) fun moment _ => .bind (within_raiseAlert rfl) fun _ _ => .get (.logged ?_)
  refine .bind (.modify rfl (.plan nofun)) fun _ _ => .bind (within_sleepInputs moment rfl) fun inputs _ => ?_
  exact .logged (approaches_timedSleep _)

/-- A deep sleep is come to with the sensor powered down, the session closed and the records written. -/
theorem approaches_deepSleep (plan : SleepPlan) (now : UInt32) : Approaches (deepSleep plan now) c := by
  refine .bind_of_ensures (ensures_onSensors.mpr (Program.ensures_map.mpr fun down sensors hdown => ?_))
  refine ⟨.single rfl (.powerDown hdown), .bind_of_ensures ?_⟩
  refine ensures_discard.mpr (ensures_onCounting.mpr ⟨.single rfl (.closeSession _ now), ?_⟩)
  refine approaches_flush rfl rfl (fun _ => ?_) (fun _ => ?_) (fun answer => ?_) fun answer c => ?_
  · exact CountingEngine.occupied_closeOccupancy ..
  · exact (SensorManager.powerDown_cases hdown).imp_right fun ⟨hsame, hnone⟩ => hsame ▸ hnone
  · cases answer <;> rfl
  · cases answer with
    | restarting => exact .none (.pure _)
    | resumed => exact approaches_afterFailedDeepSleep

/-- Whichever sleep is planned, it is come to in this way. -/
theorem approaches_sleepNow (moment : Moment) : Approaches (sleepNow moment) c := by
  refine .bind (within_sleepInputs moment rfl) fun inputs _ => .get (.logged ?_)
  refine .bind (.modify rfl (.plan fun h => SleepPlanner.isDeepAvailable_plan _ _ ▸ h)) fun _ _ => ?_
  split
  · exact approaches_deepSleep _ _
  · exact approaches_timedSleep _

/-- The sleeping state comes to its sleeps in this way. -/
theorem approaches_sleeping (moment : Moment) : Approaches (sleeping moment) c := by
  refine .get (.ite (.none (.note (.pure _))) (.bind ?_ fun busy _ => .ite ?_ ?_))
  · exact .and (.ask rfl) fun _ => .map (.ask rfl)
  · exact .none (.bind (.ask rfl) fun pending _ => .note (.pure _))
  refine .bind (within_stepDisconnect rfl) fun progress _ => ?_
  split
  · exact .none (.pure _)
  · exact .ite (.none (.note (.bind (within_raiseAlert rfl) fun _ _ => .pure _))) (.logged (approaches_sleepNow moment))
  · refine .bind (within_clearAlert rfl) fun cleared _ => ?_
    exact .ite (.logged (approaches_sleepNow moment)) (approaches_sleepNow moment)

/-! ## Resets -/

/-- The device comes to a reset with a flush, before which the reset was counted. -/
def ComesToReset (c : Controller) (first : List Exchange) (call : Call) (halted : Controller) : Prop :=
  call.isReset = true ∧ Path (flush.run (c.setConfig c.config.value.incrementResetCount)) first ((), halted)

/-- Recovering comes to its reset with the reset counted and a flush. -/
theorem stops_recover (resolution : Resolution) : (recover resolution).Stops c answered c.ComesToReset := by
  refine stops_modify_bind ?_
  have hwrites : ∀ c, Within RunState.error.passes flush c := fun c => within_flush rfl rfl
  refine (hwrites _).passes.stops_bind fun closing ⟨_, halted⟩ hflush => ?_
  refine stops_get_bind (stops_logged_bind ?_)
  have hreset : ∀ reset : Call, reset.isReset = true → c.ComesToReset (closing ++ []) reset halted := by
    intro reset hreset
    rw [List.append_nil]
    exact ⟨hreset, hflush⟩
  have hends : ∀ {P} outcome c, (pure outcome : Step Outcome).Stops c answered P := fun outcome c =>
    (Within.pure outcome : Within RunState.error.passes _ c).passes.stops
  cases resolution with
  | softReset => exact stops_call_bind (hreset .softReset rfl) (fun _ => rfl) fun _ => hends _ _
  | hardPowerCycle => exact stops_call_bind (hreset .hardPowerCycle rfl) (fun _ => rfl) fun _ => hends _ _
  | noAction => exact hends _ _

/-- The error state comes to a reset in this way only. -/
theorem stops_rescuing (moment : Moment) : (rescuing moment).Stops c answered c.ComesToReset := by
  refine stops_get_bind ?_
  split
  · have hwaits : Within RunState.error.passes (pure .remain : Step Outcome) c := .pure _
    exact stops_ite (fun _ => hwaits.passes.stops) fun _ => stops_recover _
  · have hdecides : Within RunState.error.passes
        (do if (← stepDisconnect moment) = .pending then return .remain else consultLadder moment) c :=
      .bind (within_stepDisconnect rfl) fun _ _ => .ite (.pure _) (within_consultLadder moment rfl rfl rfl)
    exact hdecides.passes.stops

/-! ## The tick -/

/-- How the device comes to a call at which execution may stop. Before a reset it only opened the tick. -/
inductive ComesTo (c : Controller) : List Exchange → Call → Controller → Prop where
  | sleep {first : List Exchange} {call : Call} {halted : Controller} : c.runState = .sleeping →
      c.ComesToSleep first call halted → ComesTo c first call halted
  | reset {opening closing : List Exchange} {opened : Controller} {call : Call} {halted : Controller} :
      Effects c.runState.ticks c opening opened → opened.config = c.config →
      (∀ exchange ∈ opening, exchange.call.touchesRecord = false) → opened.ComesToReset closing call halted →
      ComesTo c (opening ++ closing) call halted

/-- Only sleeping and the error state stop. -/
theorem stops_carryOut (moment : Moment) :
    (carryOut moment).Stops c answered fun first call halted =>
      c.runState = .sleeping ∧ c.ComesToSleep first call halted ∨ c.ComesToReset first call halted := by
  by_cases hsleeping : c.runState = .sleeping
  · have hstops : (carryOut moment).Stops c answered c.ComesToSleep := by
      refine stops_get_bind ?_
      rw [hsleeping]
      exact approaches_sleeping moment
    exact hstops.mono fun _ _ _ h => .inl ⟨hsleeping, h⟩
  by_cases herror : c.runState = .error
  · have hstops : (carryOut moment).Stops c answered c.ComesToReset := by
      refine stops_get_bind ?_
      rw [herror]
      exact stops_rescuing moment
    exact hstops.mono fun _ _ _ h => .inr h
  · exact ((within_carryOut moment).unstopped fun _ h => RunState.not_stops_of_has h hsleeping herror).stops

/-- Wherever execution may stop in a tick, the records were written last, and the tick goes on from the controller
that this left in memory. -/
theorem stops_tick : tick.Stops c resume c.ComesTo := by
  have hclock : Within RunState.idle.passes (liftM (FieldCounter.call .readClock) : Step Moment) c := .ask rfl
  refine hclock.passes.stops_bind (ensures_call.mpr fun moment => ?_)
  have hopens : ∀ effect, effect.opens = true → RunState.idle.passes effect = true := by
    intro effect h
    unfold Effect.opens at h
    split at h <;> first | rfl | cases h
  refine ((within_serviceCounting moment).mono hopens).passes.stops_bind fun looking ⟨_, counted⟩ hservice => ?_
  refine ((within_enterState moment).mono hopens).passes.stops_bind fun entering ⟨_, entered⟩ henter => ?_
  have hcount := (within_serviceCounting moment hservice).append (within_enterState moment henter)
  obtain ⟨marked, polling, polled, rfl, hpoll, rfl⟩ := ensures_serviceCounting moment hservice
  obtain ⟨rfl, rfl⟩ := ensures_entering moment henter
  have hopening : Effects c.runState.ticks c
      (⟨.readClock, moment⟩ :: ⟨.takeSensorFlag, marked⟩ :: polling) (c.opened (marked || polled) moment) := by
    rw [List.append_nil] at hcount
    refine .cons rfl (.ask c .readClock moment) (hcount.mono fun effect h => ?_)
    unfold Effect.opens at h
    split at h <;> first | rfl | cases h
  have huntouched : ∀ exchange ∈ ⟨.readClock, moment⟩ :: ⟨.takeSensorFlag, marked⟩ :: polling,
      exchange.call.touchesRecord = false := by
    refine List.forall_mem_cons.mpr ⟨rfl, List.forall_mem_cons.mpr ⟨rfl, fun exchange hmem => ?_⟩⟩
    have hlook := SensorManager.calls_poll _ hpoll exchange hmem
    cases hcall : exchange.call <;> first | rfl | (rw [hcall] at hlook; cases hlook)
  have hcloses : ∀ outcome c, (do let control ← follow outcome; flush; return control : Step Control).Unstopped c := by
    intro outcome c
    have hpasses : Within RunState.idle.passes (do let control ← follow outcome; flush; return control) c :=
      .bind (ensures_follow.mpr (effects_following rfl c outcome)) fun control _ =>
        .bind (within_flush rfl rfl) fun _ _ => .pure control
    exact hpasses.passes
  refine ((stops_carryOut moment).bind hcloses).mono fun first call halted hcomes => ?_
  have hcalls : [⟨.readClock, moment⟩] ++ (⟨.takeSensorFlag, marked⟩ :: polling ++ ([] ++ first)) =
      (⟨.readClock, moment⟩ :: ⟨.takeSensorFlag, marked⟩ :: polling) ++ first := by simp
  rw [hcalls]
  rcases hcomes with ⟨hsleeping, hsleep⟩ | hreset
  · have hstate : c.runState = .sleeping := (c.runState_opened (marked || polled) moment).symm.trans hsleeping
    rw [hstate] at hopening
    exact .sleep hstate (hsleep.prepend hopening)
  · exact .reset hopening (config_opened ..) huntouched hreset

end Controller

end FieldCounter
