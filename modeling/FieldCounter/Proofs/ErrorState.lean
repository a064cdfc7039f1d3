import FieldCounter.Proofs.Resets
import FieldCounter.Proofs.Sleeping

/-!
# Into the error state, and out of it

There are two ways into the error state: from idling, for an alert that is not the one from before the
boot, and from sleeping, when the radio is not down in time. In the error state a reset is decided on
by the alert on show, and made after a pause.
-/

namespace FieldCounter

open Program (Path)

/-- Nothing changes what is remembered of the slot at boot. -/
theorem Effect.Does.inheritedAlert_eq {effect : Effect} {before after : Controller} {trace : List Exchange}
    (h : effect.Does before trace after) : after.inheritedAlert = before.inheritedAlert := by
  cases h with
  | enter uptime =>
    show (before.prepare uptime).inheritedAlert = _
    unfold Controller.prepare
    split <;> rfl
  | _ => rfl

/-- Which alert was loaded at the boot is remembered as it is. -/
theorem Effects.inheritedAlert_eq {allowed : Effect → Bool} {before after : Controller} {trace : List Exchange}
    (h : Effects allowed before trace after) : after.inheritedAlert = before.inheritedAlert := by
  induction h with
  | none c => rfl
  | cons _ hdoes _ ih => exact ih.trans hdoes.inheritedAlert_eq

/-- Only entering a state notes it as carried out. -/
theorem Effect.Does.previous_eq {effect : Effect} {before after : Controller} {trace : List Exchange}
    (h : effect.Does before trace after) (henter : effect ≠ .enter) : after.previous = before.previous := by
  cases h with
  | enter => exact absurd rfl henter
  | _ => rfl

/-- Only entering a state notes which one was carried out. -/
theorem Effects.previous_eq {allowed : Effect → Bool} {before after : Controller} {trace : List Exchange}
    (h : Effects allowed before trace after) (henter : allowed .enter = false) : after.previous = before.previous := by
  induction h with
  | none c => rfl
  | cons hallowed hdoes _ ih =>
    refine ih.trans (hdoes.previous_eq ?_)
    rintro rfl
    rw [henter] at hallowed
    cases hallowed

/-- A state that was carried out in the last tick is not entered again. -/
theorem Effects.decision_eq_of_opens {before after : Controller} {trace : List Exchange}
    (h : Effects Effect.opens before trace after) (hprevious : before.previous = some before.runState) :
    after.decision = before.decision := by
  induction h with
  | none c => rfl
  | cons hallowed hdoes _ ih =>
    cases hdoes with
    | enter _ hnew => exact absurd hprevious hnew
    | ask | poll | sample | interrupt | health | service => exact ih hprevious
    | _ => cases hallowed

namespace Controller

open Step

variable {c after : Controller} {trace : List Exchange} {outcome : Outcome} {control : Control}

/-- A tick remembers the alert of the boot as it is. -/
theorem inheritedAlert_of_tick (h : Path (tick.run c) trace (control, after)) :
    after.inheritedAlert = c.inheritedAlert := by
  obtain ⟨first, closing, ready, heffects, hflush, rfl⟩ := effects_tick h
  exact (Effects.inheritedAlert_eq (within_flush_writes hflush)).trans heffects.inheritedAlert_eq

/-- Once a state is entered, it counts as the one carried out last. -/
theorem ensures_enterState (moment : Moment) :
    (enterState moment).Ensures c fun _ _ after => after.previous = some c.runState := by
  refine ensures_get_bind.mpr (ensures_ite.mpr ⟨fun hsame => ensures_pure.mpr hsame, fun _ => ?_⟩)
  extract_lets prepared rest
  have hrest : (rest ()).Ensures c fun _ _ after => after.previous = some c.runState := ensures_set.mpr rfl
  split
  · exact ensures_logged_bind.mpr hrest
  · exact ensures_logged_bind.mpr hrest

/-- After a tick, the state that it carried out is noted as carried out. -/
theorem previous_of_tick (h : Path (tick.run c) trace (control, after)) : after.previous = some c.runState := by
  have hprevious : tick.Ensures c fun _ _ after => after.previous = some c.runState := by
    refine ensures_bind.mpr (ensures_call.mpr fun moment => ensures_bind.mpr fun _ ⟨_, counted⟩ hservice => ?_)
    refine ensures_bind.mpr fun _ ⟨_, entered⟩ henter => ensures_bind.mpr fun _ ⟨outcome, carried⟩ hcarry => ?_
    refine ensures_bind.mpr (ensures_follow.mpr (ensures_bind.mpr fun _ ⟨_, after⟩ hflush => ensures_pure.mpr ?_))
    have hcounted : Effects Effect.opens c _ counted := within_serviceCounting moment hservice
    have hcarried : Effects entered.runState.has entered _ carried := within_carryOut moment hcarry
    have hfollow : (carried.following outcome).previous = carried.previous := by cases outcome <;> rfl
    have hwrites : Effects Effect.writes (carried.following outcome) _ after := within_flush_writes hflush
    rw [hwrites.previous_eq rfl, hfollow, hcarried.previous_eq (by cases entered.runState <;> rfl),
      ← hcounted.runState_eq rfl]
    exact ensures_enterState moment henter
  exact hprevious h

/-! ## States that do not lead there -/

/-- The state does not come to the error state. -/
def Avoids (x : Step Outcome) (c : Controller) : Prop :=
  x.Ensures c fun _ outcome _ => outcome ≠ .moveTo .error

/-- A decision for another state avoids the error state. -/
theorem Avoids.pure (h : outcome ≠ .moveTo .error) : Avoids (Pure.pure outcome) c := ensures_pure.mpr h

/-- It matters only what comes last. -/
theorem Avoids.bind {α : Type} {x : Step α} {f : α → Step Outcome} (hf : ∀ a between, Avoids (f a) between) :
    Avoids (x >>= f) c :=
  ensures_bind.mpr fun _ result _ => hf result.1 result.2

/-- A choice avoids the error state if both its sides do. -/
theorem Avoids.ite {p : Prop} [Decidable p] {x y : Step Outcome} (hx : Avoids x c) (hy : Avoids y c) :
    Avoids (if p then x else y) c :=
  ensures_ite.mpr ⟨fun _ => hx, fun _ => hy⟩

/-- Starting up does not lead to the error state. -/
theorem avoids_startUp (moment : Moment) : Avoids (startUp moment) c := by
  refine .bind fun reason _ => .bind fun controller _ => .bind fun _ _ => ?_
  extract_lets rest sense clear
  have hrest : ∀ c, Avoids (rest ()) c := fun c =>
    .bind fun pressed _ => .bind fun held _ => .bind fun controller _ =>
      .ite (.pure (by decide)) (.bind fun _ _ => .pure (by decide))
  have hsense : ∀ c, Avoids (sense ()) c := fun c =>
    .bind fun _ _ => .bind fun controller _ => .ite (.bind fun _ c => hrest c) (hrest _)
  have hclear : ∀ c, Avoids (clear ()) c := fun c =>
    .ite (.bind fun cleared _ => .ite (.bind fun _ c => hsense c) (hsense _)) (hsense _)
  exact .ite (.bind fun _ _ => .bind fun _ c => hclear c) (hclear _)

/-- Reporting does not lead to the error state. -/
theorem avoids_reporting (moment : Moment) : Avoids (reporting moment) c := by
  refine .bind fun _ _ => .bind fun _ _ => .bind fun _ _ => .bind fun _ _ => .bind fun _ _ => ?_
  extract_lets rest
  have hrest : ∀ c, Avoids (rest ()) c := by
    intro c
    refine .bind fun online _ => .ite (.pure (by decide)) (.bind fun controller _ => ?_)
    split
    · exact .pure (by decide)
    · exact .pure (by decide)
    · exact .ite (.pure (by decide)) (.bind fun _ _ => .pure (by decide))
  exact .ite (.bind fun _ c => hrest c) (hrest _)

/-- Being online does not lead to the error state. -/
theorem avoids_online (moment : Moment) : Avoids (online moment) c := by
  refine .bind fun _ _ => .bind fun offered _ => ?_
  extract_lets rest
  have hrest : ∀ c, Avoids (rest ()) c := by
    intro c
    refine .bind fun controller _ => .pure ?_
    split <;> decide
  exact .ite (.bind fun _ c => hrest c) (hrest _)

/-- Connecting does not lead to the error state: a session that is given up leads to sleep. -/
theorem avoids_connecting (moment : Moment) : Avoids (connecting moment) c := by
  refine (ensures_comesOnline moment).mono fun trace outcome after h => ?_
  cases h with
  | waits => decide
  | givesUp => decide
  | online _ _ honline => exact avoids_online moment honline

/-- The update state does not lead to the error state. -/
theorem avoids_updating (moment : Moment) : Avoids (updating moment) c := by
  have hdefer : ∀ c, Avoids deferUpdate c := fun c => .bind fun _ _ => .pure (by decide)
  refine .bind fun pressed _ => .ite (.bind fun _ _ => hdefer _) (.bind fun controller _ => ?_)
  refine .ite (.bind fun _ _ => hdefer _) (.bind fun progress _ => .ite (.pure (by decide)) ?_)
  refine .bind fun online _ => .ite (.pure (by decide)) (.bind fun _ _ => .bind fun offered _ => ?_)
  exact .ite (.pure (by decide)) (.bind fun _ _ => .bind fun _ _ => .pure (by decide))

/-! ## The ways there -/

/-- Idling leads there only for an alert that is not the one from before the boot. -/
theorem ensures_idle (moment : Moment) :
    (idle moment).Ensures c fun _ outcome after =>
      outcome = .moveTo .error → after = c ∧ c.status.value.alert ≠ c.inheritedAlert := by
  have hnever : ∀ {x : Step Outcome} {between : Controller}, Avoids x between →
      x.Ensures between fun _ outcome after =>
        outcome = .moveTo .error → after = c ∧ c.status.value.alert ≠ c.inheritedAlert := by
    intro x between havoids
    exact Ensures.mono havoids fun trace outcome after hne heq => absurd heq hne
  refine ensures_call_bind.mpr fun pressed => ensures_ite.mpr ⟨fun _ => hnever (.bind fun _ _ => ?_), fun _ => ?_⟩
  · exact .pure (by decide)
  refine ensures_get_bind.mpr ?_
  split
  · rename_i alert hsupervise
    refine ensures_logged_bind.mpr (ensures_pure.mpr fun _ => ⟨rfl, ?_⟩)
    obtain ⟨_, hdue⟩ := Option.filter_eq_some_iff.mp hsupervise
    simp only [alertRaisedThisBoot, Bool.and_eq_true, bne_iff_ne] at hdue
    exact hdue.1.2
  · refine hnever (.bind fun offered _ => .ite (.bind fun _ _ => .pure (by decide)) ?_)
    refine .ite (.pure (by decide)) (.ite (.pure (by decide)) (.bind fun offline _ => ?_))
    refine .ite (.bind fun _ _ => .pure (by decide)) (.bind fun rests _ => .ite (.pure (by decide)) ?_)
    exact .bind fun _ _ => .pure (by decide)

/-- What a tick that ends in the error state was. -/
inductive EntersError (c : Controller) (after : Controller) : Prop where
  | stayed : c.runState = .error → EntersError c after
  | supervised : c.runState = .idle → c.status.value.alert ≠ c.inheritedAlert →
      after.status.value.alert = c.status.value.alert → EntersError c after
  /-- In connected mode, the radio was not down in time, which is a fault of the modem. -/
  | stuck {now : UInt32} : c.runState = .sleeping → c.config.value.isConnectedMode = true →
      after.status.value.alert = (c.status.value.alert.raise .modemFault now).value → EntersError c after

/-- After a timed sleep the device does not go to the error state. -/
theorem Naps.outcome_ne {plan : SleepPlan} (h : Naps c plan trace outcome after) : outcome ≠ .moveTo .error := by
  rintro rfl
  cases h with
  | mk _ _ _ _ hnext => cases hnext

/-- After a sleep of either kind it does not go to the error state. -/
theorem Sleeps.outcome_ne {moment : Moment} (h : Sleeps c moment trace outcome after) : outcome ≠ .moveTo .error := by
  cases h with
  | timed _ hnaps => exact hnaps.outcome_ne
  | deep _ hdeep =>
    cases hdeep with
    | restarting => exact Outcome.noConfusion
    | resumed _ _ _ hnaps => exact hnaps.outcome_ne

/-- A state comes to the error state in one of these ways, unless it is the error state. -/
theorem ensures_carryOut_error (moment : Moment) (herror : c.runState ≠ .error) :
    (carryOut moment).Ensures c fun _ outcome after => outcome = .moveTo .error → EntersError c after := by
  have hnever : ∀ {x : Step Outcome}, Avoids x c →
      x.Ensures c fun _ outcome after => outcome = .moveTo .error → EntersError c after := by
    intro x havoids
    exact Ensures.mono havoids fun trace outcome after hne heq => absurd heq hne
  rw [carryOut, ensures_get_bind]
  cases hstate : c.runState with
  | error => exact absurd hstate herror
  | initialization => exact hnever (avoids_startUp moment)
  | reporting => exact hnever (avoids_reporting moment)
  | connecting => exact hnever (avoids_connecting moment)
  | firmwareUpdate => exact hnever (avoids_updating moment)
  | idle =>
    refine (ensures_idle moment).mono fun trace outcome after hidle heq => ?_
    obtain ⟨rfl, hraised⟩ := hidle heq
    exact .supervised hstate hraised rfl
  | sleeping =>
    refine (ensures_sleeping moment).mono fun trace outcome after hsleeps heq => ?_
    cases hsleeps with
    | awake _ houtcome =>
      rw [heq] at houtcome
      rcases houtcome with h | h <;> cases h
    | stuck hconnected _ => exact .stuck hstate hconnected rfl
    | asleep _ _ hsleeps => exact absurd heq hsleeps.outcome_ne

/-- A tick ends in the error state only where it was in it, idles on an alert to supervise, or is stuck with the radio
while sleeping. -/
theorem entersError_of_tick (h : Path (tick.run c) trace (control, after)) (herror : after.runState = .error) :
    EntersError c after := by
  obtain ⟨moment, opening, entered, middle, outcome, carried, closing, hopen, hcarry, hflush, _, rfl⟩ :=
    tick_cases h
  have hstate : entered.runState = c.runState := hopen.runState_eq rfl
  by_cases hbefore : c.runState = .error
  · exact .stayed hbefore
  have hwrites : Effects Effect.writes (carried.following outcome) closing after := within_flush_writes hflush
  rw [hwrites.runState_eq rfl] at herror
  have houtcome : outcome = .moveTo .error := by
    have hcarried : carried.runState = entered.runState :=
      Effects.runState_eq (within_carryOut moment hcarry) (by cases entered.runState <;> rfl)
    cases outcome with
    | moveTo next => exact congrArg Outcome.moveTo herror
    | remain => exact absurd (herror.symm.trans (hcarried.trans hstate)).symm hbefore
    | restart => exact absurd (herror.symm.trans (hcarried.trans hstate)).symm hbefore
  subst houtcome
  have hafter : after.status.value.alert = carried.status.value.alert := (quiet_flush hflush).2
  have halert := hopen.alert_eq fun _ => Effect.isCalm_of_opens
  have hconfig := hopen.config_eq fun _ => Effect.changesConfig_of_opens
  have henters := ensures_carryOut_error moment (by rwa [hstate]) hcarry rfl
  cases henters with
  | stayed hentered => exact absurd (hstate.symm.trans hentered) hbefore
  | supervised hidle hraised hkept =>
    rw [halert, hopen.inheritedAlert_eq] at hraised
    exact .supervised (hstate.symm.trans hidle) hraised (hafter.trans (hkept.trans halert))
  | stuck hsleeping hconnected hraised =>
    rw [hconfig] at hconnected
    rw [halert] at hraised
    exact .stuck (hstate.symm.trans hsleeping) hconnected (hafter.trans hraised)

end Controller

/-! ## In the error state -/

/-- The call by which a resolution is carried out. -/
def Resolution.call : Resolution → Option Call
  | .noAction => none
  | .softReset => some .softReset
  | .hardPowerCycle => some .hardPowerCycle

/-- None of the calls resets the device. -/
def Unreset (calls : List Exchange) : Prop := ∀ exchange ∈ calls, exchange.call.isReset = false

/-- Quiet effects do not reset the device. -/
theorem Effects.unreset {allowed : Effect → Bool} {before after : Controller} {trace : List Exchange}
    (h : Effects allowed before trace after) (hquiet : ∀ effect, allowed effect = true → effect.isQuiet = true) :
    Unreset trace :=
  fun exchange hmem => ((h.quiet hquiet).calls exchange hmem).1

/-- Winding the radio down is quiet. -/
theorem Effect.isQuiet_of_windsDown {effect : Effect} (h : effect.windsDown = true) : effect.isQuiet = true := by
  unfold windsDown at h
  split at h <;> first | rfl | cases h

/-- The opening of a tick is quiet. -/
theorem Effect.isQuiet_of_opens {effect : Effect} (h : effect.opens = true) : effect.isQuiet = true :=
  isQuiet_of_isCalm (isCalm_of_opens h)

namespace Controller

open Step

variable {c after : Controller} {trace : List Exchange} {outcome : Outcome} {control : Control}

/-- What recovering comes to: the reset is counted, the records are written, and the device is reset. -/
inductive Recovers (c : Controller) (resolution : Resolution) : List Exchange → Outcome → Controller → Prop where
  | idles {closing : List Exchange} {after : Controller} : resolution = .noAction →
      Path (flush.run (c.setConfig c.config.value.incrementResetCount)) closing ((), after) →
      Recovers c resolution closing (.moveTo .idle) after
  | resets {closing : List Exchange} {after : Controller} {call : Call} (answer : call.Answer) :
      resolution.call = some call → call.isReset = true →
      Path (flush.run (c.setConfig c.config.value.incrementResetCount)) closing ((), after) →
      Recovers c resolution (closing ++ [⟨call, answer⟩]) .restart after

/-- Whatever storage answers, recovering goes one of these ways. -/
theorem ensures_recovers (resolution : Resolution) :
    (recover resolution).Ensures c fun trace outcome after => Recovers c resolution trace outcome after := by
  refine ensures_modify_bind.mpr (ensures_bind.mpr fun closing result hflush => ?_)
  refine ensures_get_bind.mpr (ensures_logged_bind.mpr ?_)
  cases resolution with
  | noAction =>
    refine ensures_pure.mpr ?_
    rw [List.append_nil]
    exact .idles rfl hflush
  | softReset => exact ensures_call_bind.mpr fun answer => ensures_pure.mpr (.resets answer rfl rfl hflush)
  | hardPowerCycle => exact ensures_call_bind.mpr fun answer => ensures_pure.mpr (.resets answer rfl rfl hflush)

/-- What carrying out the error state comes to. -/
inductive Attends (c : Controller) (moment : Moment) : List Exchange → Outcome → Controller → Prop where
  /-- The radio is not down yet. -/
  | looks {trace : List Exchange} {disconnect : DisconnectSession} : c.decision = none →
      Path (c.teardown moment) trace (.pending, disconnect) → Attends c moment trace .remain { c with disconnect }
  /-- The radio is down or given up, and the ladder has no reset for the alert on show. -/
  | dismisses {trace : List Exchange} {progress : DisconnectProgress} {disconnect : DisconnectSession}
      {alert : AlertSlot} : c.decision = none →
      Path (c.teardown moment) trace (progress, disconnect) → progress ≠ .pending →
      (resolveAlert c.status.value.alert (c.recoveryContext moment)).value = (.noAction, alert) →
      Attends c moment trace (.moveTo .idle)
        { c with
          disconnect
          status := { c.status with value := { c.status.value with alert } }
          errorRecheckAt := min (moment.uptimeMs.toNat + errorRecheckSecs * 1000) uptimeMax }
  /-- It has one. -/
  | decides {trace : List Exchange} {progress : DisconnectProgress} {disconnect : DisconnectSession}
      {resolution : Resolution} {alert : AlertSlot} : c.decision = none →
      Path (c.teardown moment) trace (progress, disconnect) → progress ≠ .pending →
      (resolveAlert c.status.value.alert (c.recoveryContext moment)).value = (resolution, alert) →
      resolution ≠ .noAction → Attends c moment trace .remain
        { c with
          disconnect
          status := { c.status with value := { c.status.value with alert } }
          decision := some (resolution, moment.uptimeMs) }
  | waits {resolution : Resolution} {decided : UInt64} : c.decision = some (resolution, decided) →
      msBetween decided moment.uptimeMs < resetSettleMs → Attends c moment [] .remain c
  | recovers {resolution : Resolution} {decided : UInt64} {trace : List Exchange} {outcome : Outcome}
      {after : Controller} : c.decision = some (resolution, decided) →
      resetSettleMs ≤ msBetween decided moment.uptimeMs → Recovers c resolution trace outcome after →
      Attends c moment trace outcome after

/-- Whatever the devices answer, the error state attends to its alert in one of these ways. -/
theorem ensures_attends (moment : Moment) :
    (rescuing moment).Ensures c fun trace outcome after => Attends c moment trace outcome after := by
  refine ensures_get_bind.mpr ?_
  cases hdecision : c.decision with
  | some decision =>
    refine ensures_ite.mpr ⟨fun hpause => ensures_pure.mpr (.waits hdecision hpause), fun hover => ?_⟩
    exact (ensures_recovers decision.1).mono fun _ _ _ => .recovers hdecision (Nat.not_lt.mp hover)
  | none =>
    refine ensures_bind.mpr ((ensures_teardown moment).mono ?_)
    rintro trace progress _ ⟨disconnect, hstep, rfl⟩
    refine ensures_ite.mpr ⟨?_, fun hends => ?_⟩
    · rintro rfl
      refine ensures_pure.mpr ?_
      rw [List.append_nil]
      exact .looks hdecision hstep
    refine ensures_get_bind.mpr (ensures_logged_bind.mpr (ensures_modify_bind.mpr (ensures_ite.mpr ⟨?_, ?_⟩)))
    · intro hnone
      refine ensures_modify_bind.mpr (ensures_pure.mpr ?_)
      rw [List.append_nil]
      exact .dismisses hdecision hstep hends (Prod.ext hnone rfl)
    · intro hreset
      refine ensures_logged_bind.mpr (ensures_modify_bind.mpr (ensures_pure.mpr ?_))
      rw [List.append_nil]
      exact .decides hdecision hstep hends rfl hreset

/-- What a tick that begins in the error state comes to. -/
theorem attends_of_tick (h : Path (tick.run c) trace (control, after)) (hstate : c.runState = .error) :
    ∃ moment marked polling polled middle outcome carried closing,
      Path c.sensors.poll polling polled ∧
      (c.opened (marked || polled) moment).Attends moment middle outcome carried ∧
      Path (flush.run (carried.following outcome)) closing ((), after) ∧ control = outcome.control ∧
      trace = ⟨.readClock, moment⟩ :: ⟨.takeSensorFlag, marked⟩ :: polling ++ middle ++ closing := by
  obtain ⟨moment, marked, polling, polled, middle, outcome, carried, closing, hpoll, hcarry, hflush, hcontrol,
    hcalls⟩ := tick_parts h
  have hattends := ensures_attends moment (work_of_opened hcarry hstate)
  exact ⟨moment, marked, polling, polled, middle, outcome, carried, closing, hpoll, hattends, hflush, hcontrol, hcalls⟩

/-- What the error state does in one tick. -/
inductive Rescues (c : Controller) (moment : Moment) : List Exchange → Outcome → Controller → Prop where
  /-- The pause after a decision is not over. -/
  | waits {decision : Resolution × UInt64} : c.decision = some decision → Rescues c moment [] .remain c
  | recovers {resolution : Resolution} {decided : UInt64} {trace : List Exchange} {outcome : Outcome}
      {after : Controller} : c.decision = some (resolution, decided) →
      (∀ exchange ∈ trace, exchange.call.isReset = true → resolution.call = some exchange.call) →
      (resolution ≠ .noAction → outcome = .restart) → Rescues c moment trace outcome after
  /-- The radio is not down yet, or nothing is to be done. -/
  | undecided {trace : List Exchange} {outcome : Outcome} {after : Controller} :
      Unreset trace → after.decision = none → Rescues c moment trace outcome after
  | decides {trace : List Exchange} {after : Controller} {resolution : Resolution} :
      c.decision = none → Unreset trace → (resolveAlert c.status.value.alert (c.recoveryContext moment)).value.1 = resolution →
      resolution ≠ .noAction → after.decision = some (resolution, moment.uptimeMs) → after.runState = c.runState →
      Rescues c moment trace .remain after

/-- Recovering makes the reset of the resolution and no other. -/
theorem Recovers.resets_only {resolution : Resolution} (h : c.Recovers resolution trace outcome after) :
    (∀ exchange ∈ trace, exchange.call.isReset = true → resolution.call = some exchange.call) ∧
      (resolution ≠ .noAction → outcome = .restart) := by
  have hunreset : ∀ {ready closing}, Path (flush.run ready) closing ((), after) → Unreset closing :=
    fun hflush exchange hmem => ((quiet_flush hflush).1.calls exchange hmem).1
  cases h with
  | idles hnone hflush =>
    refine ⟨fun exchange hmem hreset => ?_, fun hne => absurd hnone hne⟩
    cases (hunreset hflush exchange hmem).symm.trans hreset
  | resets answer hcall _ hflush =>
    refine ⟨fun exchange hmem hreset => ?_, fun _ => rfl⟩
    rcases List.mem_append.mp hmem with hclosing | hlast
    · cases (hunreset hflush exchange hclosing).symm.trans hreset
    · rw [List.mem_singleton.mp hlast]
      exact hcall

/-- Whatever the devices answer, the error state does one of these things in a tick. -/
theorem ensures_rescues (moment : Moment) :
    (rescuing moment).Ensures c fun trace outcome after => Rescues c moment trace outcome after := by
  refine (ensures_attends moment).mono fun trace outcome after hattends => ?_
  have hunreset : ∀ {progress disconnect}, Path (c.teardown moment) trace (progress, disconnect) → Unreset trace := by
    intro progress disconnect hstep
    have hstepped : Effects Effect.windsDown c trace { c with disconnect } := .single rfl (.disconnect hstep)
    exact hstepped.unreset fun _ => Effect.isQuiet_of_windsDown
  cases hattends with
  | looks hdecision hstep => exact .undecided (hunreset hstep) hdecision
  | dismisses hdecision hstep => exact .undecided (hunreset hstep) hdecision
  | decides hdecision hstep _ hresolution hreset =>
    exact .decides hdecision (hunreset hstep) (congrArg Prod.fst hresolution) hreset rfl rfl
  | waits hdecision => exact .waits hdecision
  | recovers hdecision _ hrecover =>
    obtain ⟨hcalls, hrestart⟩ := hrecover.resets_only
    exact .recovers hdecision hcalls hrestart

/-- What a tick in the error state does. -/
inductive RescueTick (c : Controller) : List Exchange → Control → Controller → Prop where
  | waits {calls : List Exchange} {control : Control} {after : Controller} :
      Unreset calls → after.decision = c.decision → after.runState = .error → RescueTick c calls control after
  | recovers {resolution : Resolution} {decided : UInt64} {calls : List Exchange} {control : Control}
      {after : Controller} : c.decision = some (resolution, decided) →
      (∀ exchange ∈ calls, exchange.call.isReset = true → resolution.call = some exchange.call) →
      (resolution ≠ .noAction → control = .restart) → RescueTick c calls control after
  | undecided {calls : List Exchange} {control : Control} {after : Controller} :
      Unreset calls → after.decision = none → RescueTick c calls control after
  | decides {moment : Moment} {rest : List Exchange} {resolution : Resolution} {decided : UInt64}
      {control : Control} {after : Controller} : (c.previous = some .error → c.decision = none) →
      Unreset (⟨.readClock, moment⟩ :: rest) →
      (resolveAlert c.status.value.alert (c.recoveryContext moment)).value.1 = resolution →
      resolution ≠ .noAction → after.decision = some (resolution, decided) → after.runState = .error →
      RescueTick c (⟨.readClock, moment⟩ :: rest) control after

/-- In the error state a tick waits, recovers, stays undecided or decides. -/
theorem rescueTick_of_tick (h : Path (tick.run c) trace (control, after)) (hstate : c.runState = .error) :
    RescueTick c trace control after := by
  obtain ⟨moment, opening, entered, middle, outcome, carried, closing, hopen, hcarry, hflush, rfl, rfl⟩ :=
    tick_cases h
  have hopened := hopen.quiet fun _ => Effect.isQuiet_of_opens
  have hentered : entered.runState = .error := (hopen.runState_eq rfl).trans hstate
  have hrescues : Rescues entered moment middle outcome carried := by
    rw [carryOut] at hcarry
    refine (ensures_get_bind (P := fun trace outcome after => Rescues entered moment trace outcome after)).mpr ?_ hcarry
    rw [hentered]
    exact ensures_rescues moment
  have hresets : ∀ exchange ∈ ⟨.readClock, moment⟩ :: opening ++ middle ++ closing,
      exchange.call.isReset = true → exchange ∈ middle := by
    intro exchange hmem hreset
    rcases List.mem_append.mp hmem with hmem | hclosing
    · rcases List.mem_append.mp hmem with hmem | hmiddle
      · rcases List.mem_cons.mp hmem with rfl | hopening
        · cases hreset
        · rw [(hopened.calls exchange hopening).1] at hreset
          cases hreset
      · exact hmiddle
    · rw [((quiet_flush hflush).1.calls exchange hclosing).1] at hreset
      cases hreset
  have hunreset : Unreset middle → Unreset (⟨.readClock, moment⟩ :: opening ++ middle ++ closing) := by
    intro hmiddle exchange hmem
    refine Bool.eq_false_iff.mpr fun hreset => ?_
    rw [hmiddle exchange (hresets exchange hmem hreset)] at hreset
    cases hreset
  have hdecided : ∀ {decision}, entered.decision = some decision → c.decision = some decision := by
    intro decision hdecision
    rcases hopened.decision with hsame | hnone
    · rw [← hsame, hdecision]
    · rw [hnone] at hdecision
      cases hdecision
  -- writing the records changes neither the state nor the decision
  obtain ⟨_, _, config, _, _, status, _, _, _, rfl⟩ := flush_cases hflush
  cases hrescues with
  | waits hdecision =>
    have hnone : Unreset [] := fun exchange hmem => absurd hmem List.not_mem_nil
    exact .waits (hunreset hnone) (hdecision.trans (hdecided hdecision).symm) hentered
  | recovers hdecision hcalls hrestart =>
    refine .recovers (hdecided hdecision) (fun exchange hmem hreset => ?_) fun hne => ?_
    · exact hcalls exchange (hresets exchange hmem hreset) hreset
    · rw [hrestart hne]
      rfl
  | undecided hmiddle hnone =>
    refine .undecided (hunreset hmiddle) ?_
    cases outcome <;> exact hnone
  | decides hbefore hmiddle hresolution hne hdecision hstays =>
    have hundecided : c.previous = some .error → c.decision = none := fun hprevious =>
      (hopen.decision_eq_of_opens (hprevious.trans (congrArg some hstate.symm))).symm.trans hbefore
    have hcontext : entered.recoveryContext moment = c.recoveryContext moment := by
      unfold recoveryContext
      rw [hopen.config_eq fun _ => Effect.changesConfig_of_opens]
    rw [hopen.alert_eq fun _ => Effect.isCalm_of_opens, hcontext] at hresolution
    exact .decides hundecided (hunreset hmiddle) hresolution hne hdecision (hstays.trans hentered)

end Controller

/-! ## In the other states -/

/-- Only deciding makes a decision. -/
theorem Effect.Does.decision_eq {effect : Effect} {before after : Controller} {trace : List Exchange}
    (h : effect.Does before trace after) (hdecide : effect ≠ .decide) :
    after.decision = before.decision ∨ after.decision = none := by
  cases h with
  | decide => exact absurd rfl hdecide
  | enter uptime => exact before.decision_prepare uptime
  | _ => exact .inl rfl

/-- Only the error state decides on a reset and makes one. -/
theorem RunState.awaits_of_ticks {state : RunState} {effect : Effect} (herror : state ≠ .error)
    (h : state.ticks effect = true) :
    effect ≠ .decide ∧ ∀ call, effect = .ask call → call.isReset = false := by
  constructor
  · rintro rfl
    cases state <;> first | exact absurd rfl herror | cases h
  · rintro call rfl
    cases state with
    | error => exact absurd rfl herror
    | _ => cases call <;> first | rfl | cases h

/-- In a state other than the error state no tick resets the device, and none comes to a decision. -/
theorem Controller.unreset_of_tick {c after : Controller} {trace : List Exchange} {control : Control}
    (h : Path (tick.run c) trace (control, after)) (hstate : c.runState ≠ .error) :
    Unreset trace ∧ (after.decision = c.decision ∨ after.decision = none) := by
  obtain ⟨before, closing, ready, heffects, hflush, rfl⟩ := effects_tick h
  have hall : Effects c.runState.ticks c (before ++ closing) after := heffects.append (within_flush rfl rfl hflush)
  constructor
  · intro exchange hmem
    obtain ⟨effect, hallowed, hcall⟩ := hall.mayCall exchange hmem
    refine Bool.eq_false_iff.mpr fun hreset => ?_
    have hasked := (RunState.awaits_of_ticks hstate hallowed).2 _ (Effect.eq_ask_of_mayCall hcall (.inl hreset))
    rw [hasked] at hreset
    cases hreset
  · refine hall.fold (R := fun before _ after => after.decision = before.decision ∨ after.decision = none)
      (fun _ => .inl rfl) fun effect before trace between rest after hallowed hdoes hrest => ?_
    rcases hrest with hsame | hnone
    · rw [hsame]
      exact hdoes.decision_eq (RunState.awaits_of_ticks hstate hallowed).1
    · exact .inr hnone

end FieldCounter
