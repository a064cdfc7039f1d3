import FieldCounter.Proofs.FallingAsleep
import FieldCounter.Proofs.NextOpening
import FieldCounter.Proofs.StoredBeforeStop

/-!
# When the device sleeps deeply

A deep sleep ends in a restart, which loses the open session and the sensor's supply, so it is to be gone into only
where there is nothing to lose: outside open hours, with the session closed, the sensor off and the radio as good as
down. It happens once in a boot at most. Either it restarts the device, or it comes back, and then none is tried
again until the next boot.
-/

namespace FieldCounter

open Program (Path Reaches)

/-! ## Its length -/

namespace SensorManager

variable {manager : SensorManager}

/-- Only what has a driver is powered. -/
def Driven (manager : SensorManager) : Prop := manager.powered = true → manager.driver ≠ none

/-- Bringing a sensor up begins with a driver for it. -/
theorem ensures_powerUp_driver (code : UInt8) :
    (manager.powerUp code).Ensures fun _ result => result.2.driver ≠ none := by
  refine (manager.ensures_powerUp_parts code).mono ?_
  rintro _ result ⟨_, _, _, _, _, _, hinstalls, hreadies, _⟩
  rw [hreadies.driver_eq]
  exact hinstalls.driver_ne_none

end SensorManager

/-- What a deep sleep relies on: the records are usable, and only what has a driver is powered. -/
structure Controller.Orderly (c : Controller) : Prop where
  sane : c.records.Sane
  driven : c.sensors.Driven

/-- Every effect keeps to that. -/
theorem Effect.Does.orderly {effect : Effect} {before after : Controller} {trace : List Exchange}
    (h : effect.Does before trace after) (horderly : before.Orderly) : after.Orderly := by
  refine ⟨h.sane horderly.sane, ?_⟩
  by_cases hup : effect = .powerUp
  · subst hup
    cases h with
    | powerUp hpath => exact fun _ => SensorManager.ensures_powerUp_driver _ hpath
  by_cases hdown : effect = .powerDown
  · subst hdown
    cases h with
    | powerDown hpath =>
      intro hpowered
      rcases SensorManager.powerDown_cases hpath with hoff | ⟨rfl, _⟩
      · rw [hoff] at hpowered
        cases hpowered
      · exact horderly.driven hpowered
  · rw [SensorManager.Driven, h.sensors_eq hup hdown]
    exact horderly.driven

/-- Any effects leave in order what a deep sleep relies on. -/
theorem Effects.orderly {allowed : Effect → Bool} {before after : Controller} {trace : List Exchange}
    (h : Effects allowed before trace after) (horderly : before.Orderly) : after.Orderly := by
  induction h with
  | none c => exact horderly
  | cons _ hdoes _ ih => exact ih (hdoes.orderly horderly)

/-- A tick keeps it in order. -/
theorem Controller.Orderly.tick {c after : Controller} {trace : List Exchange} {control : Control}
    (h : c.Orderly) (hpath : Path (Controller.tick.run c) trace (control, after)) : after.Orderly := by
  obtain ⟨first, closing, ready, heffects, hflush, rfl⟩ := Controller.effects_tick hpath
  have hwrites : Effects Effect.writes ready closing after := Controller.within_flush_writes hflush
  exact hwrites.orderly (heffects.orderly h)

/-- A boot comes to an orderly controller. -/
theorem Controller.orderly_of_boot {c : Controller} {trace : List Exchange} (h : Path Controller.boot trace c) :
    c.Orderly := by
  have hsane := sane_of_boot h
  obtain ⟨_, _, _, _, _, _, _, _, _, rfl⟩ := boot_cases h
  exact ⟨hsane, fun hpowered => by cases hpowered⟩

/-- So does every event, and a boot puts it in order. -/
theorem Event.Leads.orderly {event : Event} {state next : Option Controller} (h : event.Leads state next)
    (horderly : ∀ c ∈ state, c.Orderly) : ∀ c ∈ next, c.Orderly := by
  intro c hc
  cases h with
  | boot hpath =>
    obtain rfl := Option.some.inj hc
    exact Controller.orderly_of_boot hpath
  | @tick before after trace control hpath =>
    cases control with
    | proceed =>
      obtain rfl := Option.some.inj hc
      exact (horderly before rfl).tick hpath
    | restart => cases hc
  | raise before alert now =>
    obtain rfl := Option.some.inj hc
    have hraised : Effect.Does (.raise alert) before [] _ := .raise before alert now
    exact hraised.orderly (horderly before rfl)

/-- Whatever the devices answer, so it stays throughout a run. -/
theorem Run.orderly {state last : Option Controller} {history : List Event} (hrun : Run state history last)
    (horderly : ∀ c ∈ state, c.Orderly) : ∀ c ∈ last, c.Orderly := by
  induction hrun with
  | nil state => exact horderly
  | cons hleads _ ih => exact ih (hleads.orderly horderly)

/-! ## Counting sleeps -/

/-- So many of the calls were deep sleeps. -/
def deepSleeps (calls : List Exchange) : Nat := calls.countP (·.call.isDeepSleep)

/-- The call is a timed sleep. -/
def Call.isTimedSleep : Call → Bool
  | .timedSleep _ _ => true
  | _ => false

/-- A prompt call is no deep sleep. -/
theorem Call.isDeepSleep_of_isPrompt {call : Call} (h : call.isPrompt = true) : call.isDeepSleep = false := by
  cases call <;> first | rfl | cases h

/-- A prompt call is no timed sleep. -/
theorem Call.isTimedSleep_of_isPrompt {call : Call} (h : call.isPrompt = true) : call.isTimedSleep = false := by
  cases call <;> first | rfl | cases h

/-- So many of the calls were timed sleeps. -/
def timedSleeps (calls : List Exchange) : Nat := calls.countP (·.call.isTimedSleep)

section

variable {calls first rest : List Exchange}

/-- Deep sleeps are counted part by part. -/
@[simp] theorem deepSleeps_append : deepSleeps (first ++ rest) = deepSleeps first + deepSleeps rest :=
  List.countP_append

/-- Timed sleeps are counted part by part. -/
@[simp] theorem timedSleeps_append : timedSleeps (first ++ rest) = timedSleeps first + timedSleeps rest :=
  List.countP_append

/-- Deep sleeps are counted call by call. -/
@[simp] theorem deepSleeps_cons (exchange : Exchange) :
    deepSleeps (exchange :: rest) = deepSleeps rest + if exchange.call.isDeepSleep then 1 else 0 :=
  List.countP_cons

/-- Timed sleeps are counted call by call. -/
@[simp] theorem timedSleeps_cons (exchange : Exchange) :
    timedSleeps (exchange :: rest) = timedSleeps rest + if exchange.call.isTimedSleep then 1 else 0 :=
  List.countP_cons

/-- Calls that take no time are no sleeps. -/
theorem Prompt.deepSleeps_eq (h : Prompt calls) : deepSleeps calls = 0 :=
  List.countP_eq_zero.mpr fun exchange hmem => Bool.eq_false_iff.mp (Call.isDeepSleep_of_isPrompt (h exchange hmem))

/-- Prompt calls are no timed sleeps. -/
theorem Prompt.timedSleeps_eq (h : Prompt calls) : timedSleeps calls = 0 :=
  List.countP_eq_zero.mpr fun exchange hmem => Bool.eq_false_iff.mp (Call.isTimedSleep_of_isPrompt (h exchange hmem))

end

/-! ## Effects -/

/-- Deep sleep does not become available again. -/
theorem Effect.Does.isDeepAvailable {effect : Effect} {before after : Controller} {trace : List Exchange}
    (h : effect.Does before trace after) (hafter : after.planner.isDeepAvailable = true) :
    before.planner.isDeepAvailable = true := by
  cases h with
  | plan hkept => exact hkept hafter
  | enter uptime =>
    unfold Controller.prepare at hafter
    split at hafter <;> exact hafter
  | _ => exact hafter

/-- A deep sleep that is available after some effects was so before them: no effect brings it back. -/
theorem Effects.isDeepAvailable {allowed : Effect → Bool} {before after : Controller} {trace : List Exchange}
    (h : Effects allowed before trace after) (hafter : after.planner.isDeepAvailable = true) :
    before.planner.isDeepAvailable = true := by
  induction h with
  | none c => exact hafter
  | cons _ hdoes _ ih => exact hdoes.isDeepAvailable (ih hafter)

namespace Controller

open Step

variable {c after : Controller} {moment : Moment} {trace : List Exchange} {outcome : Outcome}

/-! ## Sleeping -/

/-- A timed sleep is one sleep. -/
theorem Naps.sleeps {plan : SleepPlan} (h : Naps c plan trace outcome after) :
    deepSleeps trace = 0 ∧ timedSleeps trace = 1 := by
  cases h with
  | @mk down writing rest sensors _ _ _ _ _ hspares hwrites _ hwakes _ =>
    have hdown : Prompt down := by
      have hdowned : Effects Effect.readies c down { c with sensors } := hspares.effects rfl
      exact hdowned.prompt_of_readies
    have hwriting := (hwrites.mono fun _ => Effect.readies_of_writes).prompt_of_readies
    constructor
    · simp [hdown.deepSleeps_eq, hwriting.deepSleeps_eq, hwakes.prompt.deepSleeps_eq, Call.isDeepSleep]
    · simp [hdown.timedSleeps_eq, hwriting.timedSleeps_eq, hwakes.prompt.timedSleeps_eq, Call.isTimedSleep]

/-- What follows a deep sleep in its tick: no other sleep where it restarts the device, and one timed sleep where it
comes back, after which none is available any more. -/
inductive AfterDeepSleep : DeepSleepOutcome → List Exchange → Control → Controller → Prop where
  | restarting {rest : List Exchange} (after : Controller) : Prompt rest → AfterDeepSleep .restarting rest .restart after
  | resumed {rest : List Exchange} {control : Control} {after : Controller} :
      deepSleeps rest = 0 → timedSleeps rest = 1 → after.planner.isDeepAvailable = false →
      AfterDeepSleep .resumed rest control after

/-- The end of the tick makes no difference to that. -/
theorem AfterDeepSleep.close {answer : DeepSleepOutcome} {rest closing : List Exchange} {control : Control}
    {carried : Controller} (h : AfterDeepSleep answer rest control carried)
    (hflush : Path (flush.run (carried.following outcome)) closing ((), after)) :
    AfterDeepSleep answer (rest ++ closing) control after := by
  have hclosing : Prompt closing := prompt_flush hflush
  have hends : Effects RunState.sleeping.ticks carried ([] ++ closing) after :=
    (effects_following rfl carried outcome).append (within_flush rfl rfl hflush)
  cases h with
  | restarting _ hrest => exact .restarting after (hrest.append hclosing)
  | resumed hdeep htimed hspent =>
    refine .resumed ?_ ?_ (Bool.eq_false_iff.mpr fun havailable => ?_)
    · rw [deepSleeps_append, hdeep, hclosing.deepSleeps_eq]
    · rw [timedSleeps_append, htimed, hclosing.timedSleeps_eq]
    · rw [hends.isDeepAvailable havailable] at hspent
      cases hspent

/-- A deep sleep is not followed by another one in its tick. -/
theorem AfterDeepSleep.deepSleeps_eq {answer : DeepSleepOutcome} {rest : List Exchange} {control : Control}
    (h : AfterDeepSleep answer rest control after) : deepSleeps rest = 0 := by
  cases h with
  | restarting _ hrest => exact hrest.deepSleeps_eq
  | resumed hdeep => exact hdeep

/-- A deep sleep is gone into ready for it, and at once. -/
theorem SleepsDeeply.parts {plan : SleepPlan} {now : UInt32} (h : SleepsDeeply c plan now trace outcome after) :
    ∃ first answer rest, trace = first ++ ⟨.deepSleep plan.seconds plan.wake, answer⟩ :: rest ∧ Prompt first ∧
      AfterDeepSleep answer rest outcome.control after := by
  have hearly : ∀ {down sensors writing ready}, Path c.sensors.powerDown down sensors →
      Effects Effect.writes ({ c with sensors }.setCounting
        (c.counting.closeOccupancy c.status.value now).value) writing ready → Prompt (down ++ writing) := by
    intro down sensors writing ready hdown hwrites
    have hdowned : Effects Effect.readies c down { c with sensors } := .single rfl (.powerDown hdown)
    exact hdowned.prompt_of_readies.append (hwrites.mono fun _ => Effect.readies_of_writes).prompt_of_readies
  cases h with
  | restarting hdown hwrites => exact ⟨_, _, [], rfl, hearly hdown hwrites, .restarting after fun _ hmem => nomatch hmem⟩
  | resumed hdown hwrites hplans hnaps _ hspent =>
    have hplanning := (hplans.mono fun _ => Effect.readies_of_replans).prompt_of_readies
    obtain ⟨hdeep, htimed⟩ := hnaps.sleeps
    refine ⟨_, _, _, rfl, hearly hdown hwrites, .resumed ?_ ?_ ?_⟩
    · simp [hplanning.deepSleeps_eq, hdeep, Call.isDeepSleep]
    · simp [hplanning.timedSleeps_eq, htimed, Call.isTimedSleep]
    · refine Bool.eq_false_iff.mpr fun havailable => ?_
      rw [hnaps.effects.isDeepAvailable havailable] at hspent
      cases hspent

/-- The device may sleep once the teardown reports this of the radio. -/
def Accepts (c : Controller) : DisconnectProgress → Prop
  | .done => True
  | .timedOut _ => c.config.value.isConnectedMode = false
  | .pending => False

/-- The calls of a tick so far let the device sleep deeply: it is outside open hours by the only look at the clock,
none has come back in this boot, and the teardown has reported what it takes. -/
structure MaySleepDeeply (c : Controller) (moment : Moment) (first : List Exchange) : Prop where
  clock : ∃ opening, first = ⟨.readClock, moment⟩ :: opening ∧ Prompt opening
  closed : c.isOpen moment = false
  available : c.planner.isDeepAvailable = true
  radio : ∃ progress, c.TeardownReports progress first ∧ c.Accepts progress

/-- There was none before it in the tick. -/
theorem MaySleepDeeply.deepSleeps_eq {first : List Exchange} (h : c.MaySleepDeeply moment first) :
    deepSleeps first = 0 := by
  obtain ⟨opening, rfl, hopening⟩ := h.clock
  simp [hopening.deepSleeps_eq, Call.isDeepSleep]

/-- A tick in which the device sleeps deeply. -/
inductive DeepTick (c : Controller) : List Exchange → Control → Controller → Prop where
  | mk (moment : Moment) {first rest : List Exchange} {answer : DeepSleepOutcome} {control : Control}
      {after : Controller} :
      c.MaySleepDeeply moment first → AfterDeepSleep answer rest control after →
      DeepTick c (first ++ ⟨.deepSleep (c.untilOpening moment).seconds (c.untilOpening moment).wake, answer⟩ :: rest)
        control after

/-- A tick sleeps deeply once at most, and only where none has come back before; after it there is no other. -/
theorem DeepTick.once {control : Control} (h : c.DeepTick trace control after) :
    deepSleeps trace = 1 ∧ c.planner.isDeepAvailable = true ∧
      (control = .restart ∨ after.planner.isDeepAvailable = false) := by
  cases h with
  | mk moment hmay hafter =>
    refine ⟨?_, hmay.available, ?_⟩
    · rw [deepSleeps_append, deepSleeps_cons, hmay.deepSleeps_eq, hafter.deepSleeps_eq]
      rfl
    · cases hafter with
      | restarting => exact .inl rfl
      | resumed _ _ hspent => exact .inr hspent

end Controller

/-! ## Runs -/

end FieldCounter
