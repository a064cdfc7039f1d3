import FieldCounter.Proofs.ErrorState
import FieldCounter.Proofs.Opening

/-!
# When exactly the error state is entered

A tick enters the error state from idling exactly where the button was not pressed and an alert is to be
supervised, and from sleeping exactly where, in connected mode and outside open hours, the radio was to be
down by then and is not. Both tests are made on the controller before the tick and on what the tick is told.
-/

namespace FieldCounter

open Program (Path)

/-- The state that is carried out next, after the given one. -/
def Outcome.next (outcome : Outcome) (state : RunState) : RunState :=
  match outcome with
  | .moveTo next => next
  | .remain | .restart => state

/-! ## The calls of the opening and of the closing -/

/-- The calls by which a tick opens and closes: to the sensor, for its mark, and to write the records. -/
def Call.frames (call : Call) : Bool := call.isLook || call.isWrite || call == .takeSensorFlag

/-- A reset neither opens nor closes a tick. -/
theorem Call.frames_of_isReset {call : Call} (h : call.isReset = true) : call.frames = false := by
  cases call <;> first | rfl | cases h

namespace Controller

open Step

variable {c : Controller} {trace : List Exchange} {outcome : Outcome} {moment : Moment}

/-- The look for detections is part of how a tick opens. -/
theorem frames_opening {polling : List Exchange} {polled : Bool} (marked : Bool)
    (h : Path c.sensors.poll polling polled) :
    ∀ exchange ∈ (⟨.takeSensorFlag, marked⟩ :: polling : List Exchange), exchange.call.frames = true := by
  intro exchange hmem
  rcases List.mem_cons.mp hmem with rfl | hrest
  · rfl
  · simp [Call.frames, SensorManager.calls_poll _ h exchange hrest]

/-- The writing of the records is how a tick closes. -/
theorem frames_flush {after : Controller} (h : Path (flush.run c) trace ((), after)) :
    ∀ exchange ∈ trace, exchange.call.frames = true := by
  intro exchange hmem
  obtain ⟨effect, hwrites, hcall⟩ := (within_flush_writes h).mayCall exchange hmem
  have hwrite : exchange.call.isWrite = true := by
    cases effect <;> first | exact hcall | cases hwrites
  simp [Call.frames, hwrite]

/-- Besides the clock and what frames it, a tick makes its calls while its state is carried out. -/
theorem mem_of_not_frames {ready after : Controller} {marked polled : Bool} {polling middle closing : List Exchange}
    {exchange : Exchange} (hpoll : Path c.sensors.poll polling polled)
    (hflush : Path (flush.run ready) closing ((), after))
    (hmem : exchange ∈ ⟨.takeSensorFlag, marked⟩ :: polling ++ middle ++ closing)
    (hframes : exchange.call.frames = false) : exchange ∈ middle := by
  rcases List.mem_append.mp hmem with hmem | hclosing
  · rcases List.mem_append.mp hmem with hopening | hmiddle
    · rw [frames_opening marked hpoll exchange hopening] at hframes
      cases hframes
    · exact hmiddle
  · rw [frames_flush hflush exchange hclosing] at hframes
    cases hframes

/-- What a tick is told apart from its opening and its closing, it is told by the state it carries out. -/
theorem told_of_tick {after : Controller} {rest : List Exchange} {control : Control}
    (h : Path (tick.run c) (⟨.readClock, moment⟩ :: rest) (control, after)) :
    ∃ detected middle outcome carried closing,
      Path ((carryOut moment).run (c.opened detected moment)) middle (outcome, carried) ∧
      Path (flush.run (carried.following outcome)) closing ((), after) ∧
      ∀ exchange : Exchange, exchange.call.frames = false → (exchange ∈ rest ↔ exchange ∈ middle) := by
  obtain ⟨read, marked, polling, polled, middle, outcome, carried, closing, hpoll, hcarry, hflush, _, hcalls⟩ :=
    tick_parts h
  obtain ⟨hread, rfl⟩ := List.cons.inj hcalls
  cases hread
  refine ⟨marked || polled, middle, outcome, carried, closing, hcarry, hflush, fun exchange hframes => ⟨?_, ?_⟩⟩
  · exact fun hmem => mem_of_not_frames hpoll hflush hmem hframes
  · exact fun hmem => by simp [hmem]

/-- The next state of a tick is the one that its outcome leads to. -/
theorem runState_of_tick {entered carried after : Controller} {middle closing : List Exchange}
    (hcarry : Path ((carryOut moment).run entered) middle (outcome, carried))
    (hflush : Path (flush.run (carried.following outcome)) closing ((), after)) :
    after.runState = outcome.next entered.runState := by
  have hwrites : Effects Effect.writes (carried.following outcome) closing after := within_flush_writes hflush
  have hcarried : carried.runState = entered.runState :=
    Effects.runState_eq (within_carryOut moment hcarry) (by cases entered.runState <;> rfl)
  rw [hwrites.runState_eq rfl]
  cases outcome with
  | moveTo next => rfl
  | remain | restart => exact hcarried

/-- A tick that does not begin in the state ends in it where what it carried out so decided. -/
theorem runState_eq_iff {entered carried after : Controller} {middle closing : List Exchange} {state : RunState}
    (hcarry : Path ((carryOut moment).run entered) middle (outcome, carried))
    (hflush : Path (flush.run (carried.following outcome)) closing ((), after)) (hstate : entered.runState ≠ state) :
    after.runState = state ↔ outcome = .moveTo state := by
  rw [runState_of_tick hcarry hflush]
  cases outcome with
  | moveTo next => exact ⟨congrArg Outcome.moveTo, Outcome.moveTo.inj⟩
  | remain | restart => exact iff_of_false hstate nofun

/-! ## From idling -/

/-- Opening a tick is no matter of what is to be supervised. -/
@[simp] theorem alertToSupervise_opened (detected : Bool) (moment later : Moment) :
    (c.opened detected moment).alertToSupervise later = c.alertToSupervise later := by
  simp only [alertToSupervise, alertRaisedThisBoot, alert_opened, inheritedAlert_opened, errorRecheckAt_opened]

/-- An alert is to be supervised where one that concerns the device as a whole is on show, is not the one from
before the boot, and is not put off. -/
theorem alertToSupervise_iff :
    (c.alertToSupervise moment).isSome = true ↔ c.status.value.alert.shows Alert.isSystemic = true ∧
      c.status.value.alert ≠ c.inheritedAlert ∧ c.errorRecheckAt ≤ moment.uptimeMs.toNat := by
  unfold alertToSupervise AlertSlot.shows alertRaisedThisBoot
  cases c.status.value.alert.current with
  | none => simp
  | some alert => cases hsystemic : alert.isSystemic <;> simp [Option.filter, hsystemic]

/-- Idling leads to the error state exactly where the button was not pressed and there is an alert to supervise. -/
theorem ensures_idle_iff (moment : Moment) :
    (idle moment).Ensures c fun trace outcome _ =>
      outcome = .moveTo .error ↔ ⟨.takeButtonFlag, true⟩ ∉ trace ∧ (c.alertToSupervise moment).isSome = true := by
  refine ensures_call_bind.mpr fun pressed => ensures_ite.mpr ⟨fun hpressed => ?_, fun hunpressed => ?_⟩
  · refine ensures_logged_bind.mpr (ensures_pure.mpr ?_)
    simp [hpressed]
  have hunpressed : pressed = false := by simpa using hunpressed
  refine ensures_get_bind.mpr ?_
  split
  next alert hsupervise =>
    refine ensures_logged_bind.mpr (ensures_pure.mpr ?_)
    simp [hsupervise, hunpressed]
  next hnone =>
    have hnone : c.alertToSupervise moment = none := Option.eq_none_iff_forall_ne_some.mpr hnone
    have hnever : ∀ {x : Step Outcome}, Avoids x c → x.Ensures c fun rest outcome _ =>
        outcome = .moveTo .error ↔ ⟨.takeButtonFlag, true⟩ ∉ (⟨.takeButtonFlag, pressed⟩ :: rest : List Exchange) ∧
          (c.alertToSupervise moment).isSome = true := by
      intro x havoids
      refine Ensures.mono havoids fun rest outcome _ hne => ?_
      simp [hne, hnone]
    refine hnever (.bind fun offered _ => .ite (.bind fun _ _ => .pure (by decide)) ?_)
    refine .ite (.pure (by decide)) (.ite (.pure (by decide)) (.bind fun offline _ => ?_))
    refine .ite (.bind fun _ _ => .pure (by decide)) (.bind fun rests _ => .ite (.pure (by decide)) ?_)
    exact .bind fun _ _ => .pure (by decide)

/-- Idling leads to the error state exactly where the button was not pressed and an alert is to be
supervised. -/
theorem error_iff_of_idle {after : Controller} {rest : List Exchange} {control : Control}
    (h : Path (tick.run c) (⟨.readClock, moment⟩ :: rest) (control, after)) (hstate : c.runState = .idle) :
    after.runState = .error ↔ ⟨.takeButtonFlag, true⟩ ∉ rest ∧ (c.alertToSupervise moment).isSome = true := by
  obtain ⟨detected, middle, outcome, carried, closing, hcarry, hflush, htold⟩ := told_of_tick h
  have hidle : outcome = .moveTo .error ↔
      ⟨.takeButtonFlag, true⟩ ∉ middle ∧ (c.alertToSupervise moment).isSome = true := by
    rw [← alertToSupervise_opened detected moment moment]
    exact ensures_idle_iff moment (work_of_opened hcarry hstate)
  have hstays : (c.opened detected moment).runState ≠ .error := by
    rw [runState_opened, hstate]
    decide
  rw [runState_eq_iff hcarry hflush hstays, htold _ rfl]
  exact hidle

end Controller

/-! ## From sleeping -/

/-- The session is given up: it was before, or it waits for a modem that is not found off although both
budgets are used up. -/
def DisconnectSession.Overdue (session : DisconnectSession) (cloudBudget modemBudget : UInt32) (uptimeMs : UInt64)
    (calls : List Exchange) : Prop :=
  session.phase = .timedOut ∨ (session.phase = .modemOff ∧ ⟨.isModemOff, true⟩ ∉ calls ∧
    addSat cloudBudget modemBudget < uptimeSecs session.startedAt uptimeMs)

namespace DisconnectSession

variable {session : DisconnectSession} {cloudBudget modemBudget : UInt32} {uptimeMs : UInt64}
  {calls more : List Exchange}

/-- Of the calls, it only matters whether the modem was found off. -/
theorem Overdue.imp (h : session.Overdue cloudBudget modemBudget uptimeMs calls)
    (hoff : (⟨.isModemOff, true⟩ : Exchange) ∈ more → (⟨.isModemOff, true⟩ : Exchange) ∈ calls) :
    session.Overdue cloudBudget modemBudget uptimeMs more := by
  rcases h with hphase | ⟨hphase, hon, hbudget⟩
  · exact .inl hphase
  · exact .inr ⟨hphase, mt hoff hon, hbudget⟩

/-- A session that was not started is not given up. -/
theorem not_overdue_start : ¬({} : DisconnectSession).Overdue cloudBudget modemBudget uptimeMs calls := by
  rintro (hphase | ⟨hphase, _⟩) <;> cases hphase

/-- Neither starting a session nor closing the cloud session gives up. -/
theorem ensures_start_ne :
    (start uptimeMs).Ensures fun _ result => ∀ secs, result.1 ≠ .timedOut secs := by
  refine Program.ensures_bind.mpr fun _ _ _ => Program.ensures_ite.mpr ⟨fun _ => ?_, fun _ => ?_⟩
  · exact Program.ensures_pure.mpr nofun
  refine Program.ensures_bind.mpr fun _ _ _ => Program.ensures_ite.mpr ⟨fun _ => ?_, fun _ => ?_⟩
  · exact Program.ensures_logged_bind.mpr (Program.ensures_bind.mpr fun _ _ _ => Program.ensures_pure.mpr nofun)
  · exact Program.ensures_logged_bind.mpr (Program.ensures_bind.mpr fun _ _ _ => Program.ensures_pure.mpr nofun)

/-- As long as a teardown waits for the cloud session to close, it is not given up. -/
theorem ensures_awaitCloud_ne (since : UInt64) :
    (session.awaitCloud since cloudBudget uptimeMs).Ensures fun _ result => ∀ secs, result.1 ≠ .timedOut secs := by
  unfold awaitCloud
  extract_lets secs rest
  have hrest : (rest ()).Ensures fun _ result => ∀ secs, result.1 ≠ .timedOut secs :=
    Program.ensures_bind.mpr fun _ _ _ => Program.ensures_pure.mpr nofun
  refine Program.ensures_bind.mpr fun _ _ _ => Program.ensures_ite.mpr ⟨fun _ => ?_, fun _ => ?_⟩
  · exact Program.ensures_logged_bind.mpr hrest
  · refine Program.ensures_ite.mpr ⟨fun _ => Program.ensures_logged_bind.mpr hrest, fun _ => ?_⟩
    exact Program.ensures_pure.mpr nofun

/-- A step gives the session up exactly where it is overdue. -/
theorem ensures_step_iff :
    (session.step cloudBudget modemBudget uptimeMs).Ensures fun trace result =>
      (∃ secs, result.1 = .timedOut secs) ↔ session.Overdue cloudBudget modemBudget uptimeMs trace := by
  unfold step
  cases hphase : session.phase with
  | notStarted => exact ensures_start_ne.mono fun trace result hne => by simp [hne, Overdue, hphase]
  | cloudTeardown since =>
    exact (ensures_awaitCloud_ne since).mono fun trace result hne => by simp [hne, Overdue, hphase]
  | modemOff =>
    refine Program.ensures_bind.mpr (Program.ensures_call.mpr fun off => Program.ensures_ite.mpr ⟨fun hoff => ?_, ?_⟩)
    · refine Program.ensures_logged_bind.mpr (Program.ensures_pure.mpr ?_)
      simp [Overdue, hphase, hoff]
    · intro hoff
      refine Program.ensures_ite.mpr ⟨fun hbudget => Program.ensures_logged_bind.mpr ?_, fun hbudget => ?_⟩
      · refine Program.ensures_pure.mpr ?_
        simpa [Overdue, hphase, hoff] using hbudget
      · refine Program.ensures_pure.mpr ?_
        simpa [Overdue, hphase, hoff] using hbudget
  | done => exact Program.ensures_pure.mpr (by simp [Overdue, hphase])
  | timedOut => exact Program.ensures_pure.mpr (by simp [Overdue, hphase])

end DisconnectSession

namespace Controller

open Step

variable {c after : Controller} {trace : List Exchange} {outcome : Outcome} {moment : Moment}

/-- In connected mode and outside open hours, nothing in the queue keeps the device awake, and switching the
radio off is given up. -/
structure TeardownFails (c : Controller) (moment : Moment) (calls : List Exchange) : Prop where
  connected : c.config.value.isConnectedMode = true
  closed : c.isOpen moment = false
  unheld : ⟨.isSafeToSleep true, false⟩ ∉ calls
  overdue : c.disconnect.Overdue c.config.value.cloudDisconnectSecs c.config.value.modemOffSecs moment.uptimeMs calls

/-- Where the teardown is not given up, it does not fail, whatever else is called. -/
theorem not_teardownFails {stepping more : List Exchange} {progress : DisconnectProgress}
    {disconnect : DisconnectSession} (hstep : Path (c.teardown moment) stepping (progress, disconnect))
    (hgoes : ∀ secs, progress ≠ .timedOut secs) (hmore : stepping ⊆ more) : ¬c.TeardownFails moment more := by
  intro hfails
  obtain ⟨secs, htimed⟩ := (DisconnectSession.ensures_step_iff hstep).mpr (hfails.overdue.imp fun hmem => hmore hmem)
  exact hgoes secs htimed

/-- The state leads to the error state exactly where that fails. -/
theorem TurnsIn.error_iff (h : TurnsIn c moment trace outcome after) :
    outcome = .moveTo .error ↔ c.TeardownFails moment trace := by
  cases h with
  | opened _ hopen =>
    refine iff_of_false nofun fun hfails => ?_
    rw [hfails.closed] at hopen
    cases hopen
  | held => exact iff_of_false nofun fun hfails => hfails.unheld (by simp)
  | waits _ hstep =>
    exact iff_of_false nofun (not_teardownFails hstep nofun (List.subset_append_right _ _))
  | @stuck looking stepping _ secs hconnected hclosed hlooking hstep =>
    have hasked : ∀ exchange ∈ looking, exchange.call ≠ .isModemOff ∧ exchange ≠ ⟨.isSafeToSleep true, false⟩ := by
      rcases hlooking with rfl | rfl <;> simp
    have hstepping := DisconnectSession.calls_step _ _ _ _ hstep
    refine iff_of_true rfl ⟨hconnected, hclosed, fun hmem => ?_, ?_⟩
    · rcases List.mem_append.mp hmem with hlooked | hstepped
      · exact (hasked _ hlooked).2 rfl
      · cases hstepping _ hstepped
    · refine ((DisconnectSession.ensures_step_iff hstep).mp ⟨secs, rfl⟩).imp fun hmem => ?_
      exact (List.mem_append.mp hmem).resolve_left fun hlooked => (hasked _ hlooked).1 rfl
  | overdue hother _ _ hsleep =>
    refine iff_of_false (ensures_sleepNow moment hsleep).outcome_ne fun hfails => ?_
    rw [hfails.connected] at hother
    cases hother
  | @down looking stepping rest _ _ _ _ _ hstep hsleep =>
    refine iff_of_false (ensures_sleepNow moment hsleep).outcome_ne (not_teardownFails hstep nofun ?_)
    exact fun exchange hmem => List.mem_append_left rest (List.mem_append_right looking hmem)

/-- Sleeping leads to the error state exactly where switching the radio off fails in a stay that began
earlier. -/
theorem error_iff_of_sleeping {after : Controller} {rest : List Exchange} {control : Control}
    (h : Path (tick.run c) (⟨.readClock, moment⟩ :: rest) (control, after)) (hstate : c.runState = .sleeping) :
    after.runState = .error ↔ c.previous = some .sleeping ∧ c.TeardownFails moment rest := by
  obtain ⟨detected, middle, outcome, carried, closing, hcarry, hflush, htold⟩ := told_of_tick h
  have hturns := ensures_turnsIn moment (work_of_opened hcarry hstate)
  have hstays : (c.opened detected moment).runState ≠ .error := by
    rw [runState_opened, hstate]
    decide
  refine (runState_eq_iff hcarry hflush hstays).trans (hturns.error_iff.trans ?_)
  have hheld := htold ⟨.isSafeToSleep true, false⟩ rfl
  have hmodem := htold ⟨.isModemOff, true⟩ rfl
  have hdisconnect := c.disconnect_opened detected moment hstate
  constructor
  · rintro ⟨hconnected, hclosed, hunheld, hoverdue⟩
    rw [config_opened] at hconnected hoverdue
    rw [isOpen, config_opened] at hclosed
    rw [hdisconnect] at hoverdue
    split at hoverdue
    next hprevious => exact ⟨hprevious, hconnected, hclosed, mt hheld.mp hunheld, hoverdue.imp hmodem.mp⟩
    next => exact absurd hoverdue DisconnectSession.not_overdue_start
  · rintro ⟨hprevious, hconnected, hclosed, hunheld, hoverdue⟩
    rw [if_pos hprevious] at hdisconnect
    refine ⟨by rwa [config_opened], by rwa [isOpen, config_opened], mt hheld.mpr hunheld, ?_⟩
    rw [hdisconnect, config_opened]
    exact hoverdue.imp hmodem.mpr

end Controller

end FieldCounter
