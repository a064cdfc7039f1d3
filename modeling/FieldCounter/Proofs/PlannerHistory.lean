import FieldCounter.SleepPlan
import Mathlib.Data.List.DropRight

/-!
# Sleep plans and what went before them

The planner keeps two marks, and whatever it plans depends on them and on the inputs of the moment. Beside it stands
here the whole list of what happened to it: every plan it made, every time it was told that the device is open, every
time it was told that a deep sleep failed. The marks say of that list what the rule about deep sleep asks: whether one
ever failed, and whether one was planned since the device was last seen open. A plan for open hours is such a sight
as well.
-/

namespace FieldCounter

/-- What the planner is asked for or told. -/
inductive PlannerCall where
  | plan (inputs : SleepInputs)
  | observeOpen
  | markDeepUnreliable
deriving DecidableEq, Repr

/-- What happened to the planner: it made a plan for the inputs, or was told something. -/
inductive PlannerEvent where
  | planned (inputs : SleepInputs) (plan : SleepPlan)
  | openObserved
  | deepFailed
deriving DecidableEq, Repr

namespace PlannerEvent

/-- The device is seen open. -/
def seesOpen : PlannerEvent → Bool
  | .planned inputs _ => inputs.isOpen
  | .openObserved => true
  | .deepFailed => false

/-- A deep sleep was planned. -/
def plansDeep : PlannerEvent → Bool
  | .planned _ plan => plan.strategy == .deep
  | .openObserved | .deepFailed => false

end PlannerEvent

/-- The events since the device was last seen open, all of them if it never was. -/
def sinceOpen (events : List PlannerEvent) : List PlannerEvent := events.rtakeWhile fun event => !event.seesOpen

/-- An event that sees the device open leaves none since; any other is one more. -/
theorem sinceOpen_concat (events : List PlannerEvent) (event : PlannerEvent) :
    sinceOpen (events ++ [event]) = if event.seesOpen then [] else sinceOpen events ++ [event] := by
  rw [sinceOpen, List.rtakeWhile_concat]
  cases event.seesOpen <;> rfl

namespace SleepPlanner

variable {planner : SleepPlanner} {past : List PlannerEvent}

/-- What comes of a call, and the planner after it. -/
def perform (planner : SleepPlanner) : PlannerCall → PlannerEvent × SleepPlanner
  | .plan inputs => (.planned inputs (planner.plan inputs).value.1, (planner.plan inputs).value.2)
  | .observeOpen => (.openObserved, planner.observeOpen)
  | .markDeepUnreliable => (.deepFailed, planner.markDeepUnreliable.value)

/-- The planner after the calls. -/
def performAll (planner : SleepPlanner) (calls : List PlannerCall) : SleepPlanner :=
  calls.foldl (fun planner call => (planner.perform call).2) planner

/-- What came of the calls, one event for each. -/
def history (planner : SleepPlanner) : List PlannerCall → List PlannerEvent
  | [] => []
  | call :: rest => (planner.perform call).1 :: (planner.perform call).2.history rest

/-- The marks of the planner say what happened to it. -/
structure Remembers (planner : SleepPlanner) (past : List PlannerEvent) : Prop where
  failed : planner.deepUnreliable = true ↔ .deepFailed ∈ past
  attempted : planner.deepAttempted = true ↔ ∃ event ∈ sinceOpen past, event.plansDeep = true

/-- A new planner has no past. -/
theorem remembers_nil : ({} : SleepPlanner).Remembers [] where
  failed := by simp
  attempted := by simp [sinceOpen]

/-- Seen open, the device may sleep deeply again. -/
theorem Remembers.observeOpen (h : planner.Remembers past) {event : PlannerEvent} (hopen : event.seesOpen = true)
    (hevent : event ≠ .deepFailed) : planner.observeOpen.Remembers (past ++ [event]) where
  failed := by simpa [SleepPlanner.observeOpen, hevent.symm] using h.failed
  attempted := by simp [SleepPlanner.observeOpen, sinceOpen_concat, hopen]

/-- Inside open hours no deep sleep is tried. -/
theorem isOpen_of_mayDeepSleep {inputs : SleepInputs} (h : planner.mayDeepSleep inputs = true) :
    inputs.isOpen = false := by
  simp only [mayDeepSleep, Bool.and_eq_true, Bool.not_eq_true'] at h
  exact h.1.1

/-- A plan is remembered where it is a deep one, and where it is made for open hours. -/
theorem Remembers.plan (h : planner.Remembers past) (inputs : SleepInputs) :
    (planner.plan inputs).value.2.Remembers (past ++ [.planned inputs (planner.plan inputs).value.1]) := by
  cases hmay : planner.mayDeepSleep inputs with
  | true =>
    have hclosed := isOpen_of_mayDeepSleep hmay
    rw [value_plan_of_mayDeepSleep hmay]
    constructor
    · simpa using h.failed
    · simp [sinceOpen_concat, PlannerEvent.seesOpen, PlannerEvent.plansDeep, hclosed]
  | false =>
    rw [value_plan_of_not_mayDeepSleep hmay]
    cases hopen : inputs.isOpen with
    | true => exact h.observeOpen (by simpa [PlannerEvent.seesOpen] using hopen) (by simp)
    | false =>
      constructor
      · simpa using h.failed
      · simpa [sinceOpen_concat, PlannerEvent.seesOpen, PlannerEvent.plansDeep, hopen] using h.attempted

/-- A call keeps the marks of the planner up. -/
theorem Remembers.perform (h : planner.Remembers past) (call : PlannerCall) :
    (planner.perform call).2.Remembers (past ++ [(planner.perform call).1]) := by
  cases call with
  | plan inputs => exact h.plan inputs
  | observeOpen => exact h.observeOpen rfl (by simp [SleepPlanner.perform])
  | markDeepUnreliable =>
    constructor
    · simp [SleepPlanner.perform, markDeepUnreliable]
    · simpa [SleepPlanner.perform, markDeepUnreliable, sinceOpen_concat, PlannerEvent.seesOpen,
        PlannerEvent.plansDeep] using h.attempted

/-- After any calls the marks of the planner say what happened to it. -/
theorem Remembers.performAll (h : planner.Remembers past) (calls : List PlannerCall) :
    (planner.performAll calls).Remembers (past ++ planner.history calls) := by
  induction calls generalizing planner past with
  | nil => rwa [history, List.append_nil]
  | cons call rest ih =>
    have hrest := ih (h.perform call)
    rwa [List.append_assoc] at hrest

/-! ## Plans -/

variable {inputs : SleepInputs}

/-- A plan is deep exactly where a deep sleep is allowed. -/
theorem strategy_plan_eq_deep_iff :
    (planner.plan inputs).value.1.strategy = .deep ↔ planner.mayDeepSleep inputs = true := by
  cases hmay : planner.mayDeepSleep inputs with
  | true =>
    rw [value_plan_of_mayDeepSleep hmay]
    exact iff_of_true rfl rfl
  | false =>
    rw [strategy_plan_of_not_mayDeepSleep hmay]
    exact iff_of_false nofun nofun

/-- In terms of what happened, a deep sleep may be tried outside open hours where none failed and none was planned
since the device was last seen open. -/
theorem Remembers.mayDeepSleep_iff (h : planner.Remembers past) :
    planner.mayDeepSleep inputs = true ↔
      inputs.isOpen = false ∧ .deepFailed ∉ past ∧ ∀ event ∈ sinceOpen past, event.plansDeep = false := by
  have hattempted : planner.deepAttempted = false ↔ ∀ event ∈ sinceOpen past, event.plansDeep = false := by
    rw [← Bool.not_eq_true, h.attempted]
    simp
  simp only [mayDeepSleep, Bool.and_eq_true, Bool.not_eq_true', and_assoc, hattempted, ← h.failed,
    Bool.not_eq_true]

/-- The timer and the button end every sleep, and the sensor ends one that is planned for open hours where it can. -/
theorem wake_plan (planner : SleepPlanner) (inputs : SleepInputs) :
    (planner.plan inputs).value.1.wake = ⟨true, true, inputs.isOpen && inputs.sensorInterrupt⟩ := by
  cases hmay : planner.mayDeepSleep inputs with
  | true => rw [value_plan_of_mayDeepSleep hmay, isOpen_of_mayDeepSleep hmay, Bool.false_and]
  | false => rw [value_plan_of_not_mayDeepSleep hmay]

/-- The sensor is armed in timed sleeps only. -/
theorem sensor_plan_iff :
    (planner.plan inputs).value.1.wake.sensor = true ↔
      (planner.plan inputs).value.1.strategy = .timed ∧ inputs.isOpen = true ∧ inputs.sensorInterrupt = true := by
  rw [wake_plan, Bool.and_eq_true]
  constructor
  · rintro ⟨hopen, hinterrupt⟩
    refine ⟨?_, hopen, hinterrupt⟩
    cases hmay : planner.mayDeepSleep inputs with
    | true =>
      rw [isOpen_of_mayDeepSleep hmay] at hopen
      cases hopen
    | false => exact strategy_plan_of_not_mayDeepSleep hmay
  · exact And.right

/-- A plan is for a second at least and for no longer than the longest sleep. -/
theorem seconds_plan_bounds (planner : SleepPlanner) (inputs : SleepInputs) :
    1 ≤ (planner.plan inputs).value.1.seconds ∧ (planner.plan inputs).value.1.seconds ≤ maxSleep := by
  cases hmay : planner.mayDeepSleep inputs with
  | true =>
    rw [value_plan_of_mayDeepSleep hmay]
    exact clampSleep_bounds _
  | false =>
    rw [value_plan_of_not_mayDeepSleep hmay]
    exact clampSleep_bounds _

/-- Whatever a new planner was asked and told before, it plans a deep sleep exactly where a valid clock shows the
device outside open hours, no deep sleep ever failed, and none was planned since the device was last seen open. The
sensor is armed exactly in a timed sleep that is planned for open hours, where it reports by interrupt; the timer and
the button always are; and the length is one that the platform accepts. -/
theorem plan_after_history (calls : List PlannerCall) (inputs : SleepInputs) :
    let past := ({} : SleepPlanner).history calls
    let plan := ((({} : SleepPlanner).performAll calls).plan inputs).value.1
    (plan.strategy = .deep ↔
        inputs.timeValid = true ∧ inputs.openHours.isOpen inputs.localTime = false ∧ .deepFailed ∉ past ∧
          ∀ event ∈ sinceOpen past, event.plansDeep = false) ∧
      (plan.wake.sensor = true ↔ plan.strategy = .timed ∧ inputs.isOpen = true ∧ inputs.sensorInterrupt = true) ∧
      plan.wake.timer = true ∧ plan.wake.manual = true ∧ 1 ≤ plan.seconds ∧ plan.seconds ≤ maxSleep := by
  intro past plan
  have hremembers : (({} : SleepPlanner).performAll calls).Remembers past := remembers_nil.performAll calls
  have hdeep : plan.strategy = .deep ↔
      inputs.isOpen = false ∧ .deepFailed ∉ past ∧ ∀ event ∈ sinceOpen past, event.plansDeep = false :=
    strategy_plan_eq_deep_iff.trans hremembers.mayDeepSleep_iff
  have hwake : plan.wake = ⟨true, true, inputs.isOpen && inputs.sensorInterrupt⟩ := wake_plan _ inputs
  refine ⟨?_, sensor_plan_iff, ?_, ?_, seconds_plan_bounds _ inputs⟩
  · rw [hdeep, SleepInputs.isOpen, Bool.or_eq_false_iff, Bool.not_eq_false', and_assoc]
  · rw [hwake]
  · rw [hwake]

/-- Deep once in a closed time, again after open hours, and not after a failure. -/
example :
    let inputs : Bool → SleepInputs := fun valid => {
      now := 1699999500, timeValid := valid, interval := 3600, openHours := ⟨6, 22⟩
      localTime := ⟨22, 79500, 0⟩, debounceRemaining := none, sensorInterrupt := true }
    (({} : SleepPlanner).history [.plan (inputs true), .plan (inputs true), .plan (inputs false), .plan (inputs true),
        .markDeepUnreliable, .observeOpen, .plan (inputs true)]).map PlannerEvent.plansDeep =
      [true, false, false, true, false, false, false] := by
  decide

end SleepPlanner

end FieldCounter
