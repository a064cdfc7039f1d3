import FieldCounter.Proofs.Opening

/-!
# What the teardown reports

Before it sleeps, the device takes one look at the radio in every tick on behalf of the disconnect session
of its stay, unless open hours or the queue keep it awake. What the look reports decides about the tick: a
radio that is down, or in most modes one that is given up, lets the device sleep.
-/

namespace FieldCounter

open Program (Path)

/-- The queue does not keep the device awake: it is offline, or it is safe to sleep. -/
def Unheld (looking : List Exchange) : Prop :=
  looking = [⟨.isConnected, false⟩] ∨ looking = [⟨.isConnected, true⟩, ⟨.isSafeToSleep true, true⟩]

namespace Controller

open Step

variable {c : Controller} {moment : Moment}

/-- One look at the radio on behalf of the disconnect session. -/
def teardown (c : Controller) (moment : Moment) : Program (DisconnectProgress × DisconnectSession) :=
  c.disconnect.step c.config.value.cloudDisconnectSecs c.config.value.modemOffSecs moment.uptimeMs

/-- What carrying out the sleeping state comes to. -/
inductive TurnsIn (c : Controller) (moment : Moment) : List Exchange → Outcome → Controller → Prop where
  /-- In connected mode, open hours end the stay. -/
  | opened : c.config.value.isConnectedMode = true → c.isOpen moment = true → TurnsIn c moment [] (.moveTo .idle) c
  /-- Online, the queue keeps the device awake. -/
  | held (pending : UInt32) :
      TurnsIn c moment [⟨.isConnected, true⟩, ⟨.isSafeToSleep true, false⟩, ⟨.pendingCount, pending⟩] .remain c
  /-- The radio is not down yet. -/
  | waits {looking stepping : List Exchange} {disconnect : DisconnectSession} :
      Unheld looking → Path (c.teardown moment) stepping (.pending, disconnect) →
      TurnsIn c moment (looking ++ stepping) .remain { c with disconnect }
  /-- In connected mode, a radio that stays up is a fault. -/
  | stuck {looking stepping : List Exchange} {disconnect : DisconnectSession} {secs : UInt32} :
      c.config.value.isConnectedMode = true → c.isOpen moment = false → Unheld looking →
      Path (c.teardown moment) stepping (.timedOut secs, disconnect) →
      TurnsIn c moment (looking ++ stepping) (.moveTo .error) { c with
        disconnect, status := { c.status with value := (c.status.value.raiseAlert .modemFault moment.now).value } }
  /-- In the other modes the device sleeps all the same. -/
  | overdue {looking stepping rest : List Exchange} {disconnect : DisconnectSession} {secs : UInt32}
      {outcome : Outcome} {after : Controller} :
      c.config.value.isConnectedMode = false → Unheld looking →
      Path (c.teardown moment) stepping (.timedOut secs, disconnect) →
      Path ((sleepNow moment).run { c with disconnect }) rest (outcome, after) →
      TurnsIn c moment (looking ++ stepping ++ rest) outcome after
  /-- A radio that is down is no fault any more, and the device sleeps. -/
  | down {looking stepping rest : List Exchange} {disconnect : DisconnectSession} {outcome : Outcome}
      {after : Controller} :
      (c.config.value.isConnectedMode = true → c.isOpen moment = false) → Unheld looking →
      Path (c.teardown moment) stepping (.done, disconnect) →
      Path ((sleepNow moment).run { c with
        disconnect
        status := { c.status with value := (c.status.value.clearAlertIf (· == .modemFault)).value } }) rest
        (outcome, after) →
      TurnsIn c moment (looking ++ stepping ++ rest) outcome after

/-- A look at the radio changes the disconnect session alone. -/
theorem ensures_teardown (moment : Moment) :
    (stepDisconnect moment).Ensures c fun trace progress after =>
      ∃ disconnect, Path (c.teardown moment) trace (progress, disconnect) ∧ after = { c with disconnect } := by
  refine ensures_get_bind.mpr (ensures_bind.mpr (ensures_lift.mpr fun trace result hpath => ?_))
  refine ensures_modify_bind.mpr (ensures_pure.mpr ⟨result.2, ?_, rfl⟩)
  rwa [List.append_nil]

/-- The queue is asked only online. -/
theorem ensures_held :
    (liftM (call .isConnected) <&&> (not <$> liftM (call (.isSafeToSleep true))) : Step Bool).Ensures c
      fun trace held after => c = after ∧
        if held then trace = [⟨.isConnected, true⟩, ⟨.isSafeToSleep true, false⟩] else Unheld trace := by
  refine ensures_and.mpr (ensures_call.mpr fun online => ?_)
  cases online with
  | false => exact ⟨rfl, .inl rfl⟩
  | true =>
    rw [if_pos rfl]
    refine ensures_map.mpr (ensures_call.mpr fun safe => ⟨rfl, ?_⟩)
    cases safe with
    | false => rfl
    | true => exact .inr rfl

/-- Whatever the devices answer, the sleeping state goes one of these ways. -/
theorem ensures_turnsIn (moment : Moment) :
    (sleeping moment).Ensures c fun trace outcome after => TurnsIn c moment trace outcome after := by
  refine ensures_get_bind.mpr (ensures_get_bind.mpr (ensures_ite.mpr ⟨fun hopen => ?_, fun hclosed => ?_⟩))
  · obtain ⟨hconnected, hopen⟩ := Bool.and_eq_true_iff.mp hopen
    exact ensures_logged_bind.mpr (ensures_pure.mpr (.opened hconnected hopen))
  have hclosed : c.config.value.isConnectedMode = true → c.isOpen moment = false := by simpa using hclosed
  refine ensures_bind.mpr (ensures_held.mono ?_)
  rintro looking held _ ⟨rfl, hlooking⟩
  refine ensures_ite.mpr ⟨fun hheld => ?_, fun hfree => ?_⟩
  · refine ensures_call_bind.mpr fun pending => ensures_logged_bind.mpr (ensures_pure.mpr ?_)
    rw [if_pos hheld] at hlooking
    rw [hlooking]
    exact .held pending
  rw [if_neg hfree] at hlooking
  refine ensures_bind.mpr ((ensures_teardown moment).mono ?_)
  rintro stepping progress _ ⟨disconnect, hstep, rfl⟩
  cases progress with
  | pending =>
    refine ensures_pure.mpr ?_
    rw [List.append_nil]
    exact .waits hlooking hstep
  | timedOut secs =>
    refine ensures_ite.mpr ⟨fun hconnected => ?_, fun hother => ?_⟩
    · refine ensures_logged_bind.mpr (ensures_bind.mpr (ensures_updateStatus.mpr (ensures_pure.mpr ?_)))
      rw [List.append_nil, List.append_nil]
      exact .stuck hconnected (hclosed hconnected) hlooking hstep
    · refine ensures_logged_bind.mpr fun rest ⟨outcome, after⟩ hsleep => ?_
      simp only [← List.append_assoc]
      exact .overdue (Bool.eq_false_iff.mpr hother) hlooking hstep hsleep
  | done =>
    refine ensures_bind.mpr (ensures_get_bind.mpr (ensures_bind.mpr (ensures_updateStatus.mpr ?_)))
    have hdown : (sleepNow moment).Ensures { c with
        disconnect
        status := { c.status with value := (c.status.value.clearAlertIf (· == .modemFault)).value } }
        fun rest outcome after => TurnsIn c moment (looking ++ (stepping ++ rest)) outcome after := by
      intro rest ⟨outcome, after⟩ hsleep
      simp only [← List.append_assoc]
      exact .down hclosed hlooking hstep hsleep
    exact ensures_pure.mpr (ensures_ite.mpr ⟨fun _ => ensures_logged_bind.mpr hdown, fun _ => hdown⟩)

/-! ## Ticks -/

/-- In a tick that begins in the sleeping state, the look at the radio is taken within the first calls, and
it reports the progress. -/
inductive TeardownReports (c : Controller) (progress : DisconnectProgress) : List Exchange → Prop where
  | mk {moment : Moment} (marked : Bool) {polled : Bool} {polling looking stepping : List Exchange}
      {disconnect : DisconnectSession} (rest : List Exchange) :
      c.runState = .sleeping → Path c.sensors.poll polling polled → Unheld looking →
      Path ((c.opened (marked || polled) moment).teardown moment) stepping (progress, disconnect) →
      TeardownReports c progress
        (⟨.readClock, moment⟩ :: ⟨.takeSensorFlag, marked⟩ :: polling ++ (looking ++ stepping ++ rest))

/-- Later calls make no difference to that. -/
theorem TeardownReports.append {progress : DisconnectProgress} {calls : List Exchange}
    (h : c.TeardownReports progress calls) (more : List Exchange) : c.TeardownReports progress (calls ++ more) := by
  cases h with
  | @mk moment marked _ polling looking stepping _ rest hstate hpoll hlooking hstep =>
    have hmore := TeardownReports.mk marked (rest ++ more) hstate hpoll hlooking hstep
    simpa only [List.cons_append, List.append_assoc] using hmore

end Controller

end FieldCounter
