import FieldCounter.Proofs.Counting
import FieldCounter.Proofs.Tick

/-!
# How a tick opens

Before it carries out its state, a tick looks at the clock, accounts for what was detected, and enters the
state unless it was carried out in the last tick. Which controller the state is then carried out on is
said here exactly: it differs from the one before in what is counted and in the sessions it begins.
-/

namespace FieldCounter

open Program (Path)

namespace Controller

open Step

variable {c : Controller}

/-- The controller once the tick has accounted for a detection, or for the lack of one. -/
def serviced (c : Controller) (detected : Bool) (moment : Moment) : Controller :=
  c.setCounting (c.counting.service detected c.config.value.countingMode c.config.value.debounceMs
    c.status.value moment).value

/-- The controller once its state is entered, unless it was carried out in the last tick. -/
def entering (c : Controller) (uptimeMs : UInt64) : Controller :=
  if c.previous = some c.runState then c else { c.prepare uptimeMs with previous := some c.runState }

/-- The controller on which a tick carries out its state. -/
def opened (c : Controller) (detected : Bool) (moment : Moment) : Controller :=
  (c.serviced detected moment).entering moment.uptimeMs

/-- Entering a state changes nothing but the sessions, and what is noted of them. -/
theorem entering_eq (c : Controller) (uptimeMs : UInt64) :
    ∃ previous connect disconnect update decision actedOnline connectForReport,
      c.entering uptimeMs =
        { c with previous, connect, disconnect, update, decision, actedOnline, connectForReport } := by
  unfold entering prepare
  split
  · exact ⟨_, _, _, _, _, _, _, rfl⟩
  · split <;> exact ⟨_, _, _, _, _, _, _, rfl⟩

/-- A new stay in the sleeping state begins with a new disconnect session. -/
theorem disconnect_entering (hstate : c.runState = .sleeping) (uptimeMs : UInt64) :
    (c.entering uptimeMs).disconnect = if c.previous = some .sleeping then c.disconnect else {} := by
  unfold entering prepare
  rw [hstate]
  split <;> rfl

/-- A new stay in the connecting state begins with a new connect session, of which nothing is done yet. -/
theorem connect_entering (hstate : c.runState = .connecting) (uptimeMs : UInt64) :
    (c.entering uptimeMs).connect = (if c.previous = some .connecting then c.connect else {}) ∧
      (c.entering uptimeMs).actedOnline = (if c.previous = some .connecting then c.actedOnline else false) ∧
      (c.entering uptimeMs).connectForReport =
        if c.previous = some .connecting then c.connectForReport else decide (c.previous = some .reporting) := by
  unfold entering prepare
  rw [hstate]
  split
  · exact ⟨rfl, rfl, rfl⟩
  · exact ⟨rfl, rfl, rfl⟩

/-- A new stay in the error state begins with a new disconnect session, and with nothing decided. -/
theorem rescue_entering (hstate : c.runState = .error) (uptimeMs : UInt64) :
    (c.entering uptimeMs).disconnect = (if c.previous = some .error then c.disconnect else {}) ∧
      (c.entering uptimeMs).decision = if c.previous = some .error then c.decision else none := by
  unfold entering prepare
  rw [hstate]
  split
  · exact ⟨rfl, rfl⟩
  · exact ⟨rfl, rfl⟩

section

variable (c : Controller) (detected : Bool) (moment : Moment)

/-- The opening of a tick leaves the state alone. -/
@[simp] theorem runState_opened : (c.opened detected moment).runState = c.runState := by
  obtain ⟨_, _, _, _, _, _, _, h⟩ := (c.serviced detected moment).entering_eq moment.uptimeMs
  rw [opened, h]
  rfl

/-- It leaves the settings alone. -/
@[simp] theorem config_opened : (c.opened detected moment).config = c.config := by
  obtain ⟨_, _, _, _, _, _, _, h⟩ := (c.serviced detected moment).entering_eq moment.uptimeMs
  rw [opened, h]
  rfl

/-- It leaves alone which alert was loaded at the boot. -/
@[simp] theorem inheritedAlert_opened : (c.opened detected moment).inheritedAlert = c.inheritedAlert := by
  obtain ⟨_, _, _, _, _, _, _, h⟩ := (c.serviced detected moment).entering_eq moment.uptimeMs
  rw [opened, h]
  rfl

/-- It leaves alone when the next look at an alert is due. -/
@[simp] theorem errorRecheckAt_opened : (c.opened detected moment).errorRecheckAt = c.errorRecheckAt := by
  obtain ⟨_, _, _, _, _, _, _, h⟩ := (c.serviced detected moment).entering_eq moment.uptimeMs
  rw [opened, h]
  rfl

/-- It leaves alone whether an update was given up. -/
@[simp] theorem updateDeferred_opened : (c.opened detected moment).updateDeferred = c.updateDeferred := by
  obtain ⟨_, _, _, _, _, _, _, h⟩ := (c.serviced detected moment).entering_eq moment.uptimeMs
  rw [opened, h]
  rfl

/-- Entering a state is no matter of the status. -/
theorem status_opened : (c.opened detected moment).status = (c.serviced detected moment).status := by
  obtain ⟨_, _, _, _, _, _, _, h⟩ := (c.serviced detected moment).entering_eq moment.uptimeMs
  rw [opened, h]

/-- Nor is counting one of the alert slot. -/
@[simp] theorem alert_opened :
    (c.opened detected moment).status.value.alert = c.status.value.alert := by
  rw [status_opened]
  exact RuntimeStatus.alert_of_health (c.counting.health_service c.status.value moment detected _ _)

/-- Entering the error state forgets a decision, and nothing else does before the state is carried out. -/
theorem decision_opened :
    (c.opened detected moment).decision = c.decision ∨ (c.opened detected moment).decision = none := by
  unfold opened entering
  split
  · exact .inl rfl
  · exact (c.serviced detected moment).decision_prepare moment.uptimeMs

/-- On entering the connecting state, the session and its marks are set up anew. -/
theorem connect_opened (hstate : c.runState = .connecting) :
    (c.opened detected moment).connect = (if c.previous = some .connecting then c.connect else {}) ∧
      (c.opened detected moment).actedOnline = (if c.previous = some .connecting then c.actedOnline else false) ∧
      (c.opened detected moment).connectForReport =
        if c.previous = some .connecting then c.connectForReport else decide (c.previous = some .reporting) :=
  connect_entering (c := c.serviced detected moment) hstate moment.uptimeMs

/-- On entering the sleeping state, the teardown is set up anew. -/
theorem disconnect_opened (hstate : c.runState = .sleeping) :
    (c.opened detected moment).disconnect = if c.previous = some .sleeping then c.disconnect else {} :=
  disconnect_entering (c := c.serviced detected moment) hstate moment.uptimeMs

/-- On entering the error state, the teardown and the decision are set up anew. -/
theorem rescue_opened (hstate : c.runState = .error) :
    (c.opened detected moment).disconnect = (if c.previous = some .error then c.disconnect else {}) ∧
      (c.opened detected moment).decision = if c.previous = some .error then c.decision else none :=
  rescue_entering (c := c.serviced detected moment) hstate moment.uptimeMs

end

/-- Entering a state does not decide which one is carried out. -/
theorem work_of_opened {detected : Bool} {moment : Moment} {state : RunState} {trace : List Exchange}
    {result : Outcome × Controller} (h : Path ((carryOut moment).run (c.opened detected moment)) trace result)
    (hstate : c.runState = state) : Path ((work moment state).run (c.opened detected moment)) trace result :=
  work_of_carryOut h ((c.runState_opened detected moment).trans hstate)

/-- Whatever the sensor answers, the counting is serviced with a detection or without one. -/
theorem ensures_serviceCounting (moment : Moment) :
    (serviceCounting moment).Ensures c fun trace _ after =>
      ∃ marked polling polled, trace = ⟨.takeSensorFlag, marked⟩ :: polling ∧ Path c.sensors.poll polling polled ∧
        after = c.serviced (marked || polled) moment := by
  refine ensures_call_bind.mpr fun marked => ensures_get_bind.mpr (ensures_bind.mpr (ensures_lift.mpr ?_))
  intro polling polled hpoll
  refine ensures_get_bind.mpr (ensures_discard.mpr (ensures_onCounting.mpr ?_))
  rw [List.append_nil]
  exact ⟨marked, polling, polled, rfl, hpoll, rfl⟩

/-- Entering the state makes no call. -/
theorem ensures_entering (moment : Moment) :
    (enterState moment).Ensures c fun trace _ after => trace = [] ∧ after = c.entering moment.uptimeMs := by
  refine ensures_get_bind.mpr (ensures_ite.mpr ⟨fun hsame => ensures_pure.mpr ⟨rfl, ?_⟩, fun hnew => ?_⟩)
  · exact (if_pos hsame).symm
  extract_lets prepared rest
  have hrest : (rest ()).Ensures c fun trace _ after => trace = [] ∧ after = c.entering moment.uptimeMs :=
    ensures_set.mpr ⟨rfl, (if_neg hnew).symm⟩
  split
  · exact ensures_logged_bind.mpr hrest
  · exact ensures_logged_bind.mpr hrest

/-- A tick carries out its state once the clock was looked at and a detection was accounted for, if the
mark was found or the sensor told of one. -/
theorem tick_parts {after : Controller} {trace : List Exchange} {control : Control}
    (h : Path (tick.run c) trace (control, after)) :
    ∃ moment marked polling polled middle outcome carried closing,
      Path c.sensors.poll polling polled ∧
      Path ((carryOut moment).run (c.opened (marked || polled) moment)) middle (outcome, carried) ∧
      Path (flush.run (carried.following outcome)) closing ((), after) ∧ control = outcome.control ∧
      trace = ⟨.readClock, moment⟩ :: ⟨.takeSensorFlag, marked⟩ :: polling ++ middle ++ closing := by
  have hparts : tick.Ensures c fun trace control after =>
      ∃ moment marked polling polled middle outcome carried closing,
        Path c.sensors.poll polling polled ∧
        Path ((carryOut moment).run (c.opened (marked || polled) moment)) middle (outcome, carried) ∧
        Path (flush.run (carried.following outcome)) closing ((), after) ∧ control = outcome.control ∧
        trace = ⟨.readClock, moment⟩ :: ⟨.takeSensorFlag, marked⟩ :: polling ++ middle ++ closing := by
    refine ensures_call_bind.mpr fun moment => ensures_bind.mpr ((ensures_serviceCounting moment).mono ?_)
    rintro _ _ counted ⟨marked, polling, polled, rfl, hpoll, rfl⟩
    refine ensures_bind.mpr ((ensures_entering moment).mono ?_)
    rintro _ _ entered ⟨rfl, rfl⟩
    refine ensures_bind.mpr fun middle ⟨outcome, carried⟩ hcarry => ensures_bind.mpr (ensures_follow.mpr ?_)
    refine ensures_bind.mpr fun closing ⟨_, after⟩ hflush => ensures_pure.mpr ?_
    refine ⟨moment, marked, polling, polled, middle, outcome, carried, closing, hpoll, hcarry, hflush, rfl, ?_⟩
    simp
  exact hparts h

/-- What the first calls of a tick are. -/
theorem opening_of_tick {after : Controller} {trace : List Exchange} {control : Control}
    (h : Path (tick.run c) trace (control, after)) :
    ∃ moment marked polling polled rest, Path c.sensors.poll polling polled ∧
      trace = ⟨.readClock, moment⟩ :: ⟨.takeSensorFlag, marked⟩ :: (polling ++ rest) := by
  obtain ⟨moment, marked, polling, polled, middle, _, _, closing, hpoll, _, _, _, rfl⟩ := tick_parts h
  exact ⟨moment, marked, polling, polled, middle ++ closing, hpoll, by simp⟩

/-- A tick looks at the clock first. -/
theorem clock_of_tick {after : Controller} {trace : List Exchange} {control : Control}
    (h : Path (tick.run c) trace (control, after)) : ∃ moment rest, trace = ⟨.readClock, moment⟩ :: rest := by
  obtain ⟨moment, _, _, _, _, _, rfl⟩ := opening_of_tick h
  exact ⟨moment, _, rfl⟩

end Controller

end FieldCounter
