import FieldCounter.Proofs.Supply
import Mathlib.Data.List.Basic

/-!
# What a tick does to the sensor

A tick tries to bring the sensor up where the device starts in it, or wakes from a timed sleep, and is
open at that moment. Everything else that a tick does, a change of the hour included, leaves the sensor
as it is, or powers it down before a sleep.
-/

namespace FieldCounter

open Program (Path)

/-! ## Starting and waking -/

/-- The device starts, or wakes from a timed sleep, at the moment. -/
def Controller.ResumesAt (before : Controller) (calls : List Exchange) (moment : Moment) : Prop :=
  (before.runState = .initialization ∧ ∃ rest, calls = ⟨.readClock, moment⟩ :: rest) ∨
    ∃ first secs wake pins rest, calls = first ++ ⟨.timedSleep secs wake, pins⟩ :: ⟨.readClock, moment⟩ :: rest

/-- There is no timed sleep among the calls. -/
def Awake (calls : List Exchange) : Prop :=
  ∀ secs wake pins, (⟨.timedSleep secs wake, pins⟩ : Exchange) ∉ calls

/-- Where the device is open, the last that is done with the sensor is an attempt to bring it up;
otherwise the sensor is left alone. -/
inductive Lifts : Bool → List Exchange → Prop where
  | opened {manager : SensorManager} {code : UInt8} {result : Bool × SensorManager} {first up rest : List Exchange} :
      Still first → Path (manager.powerUp code) up result → Still rest → Lifts true (first ++ up ++ rest)
  | closed {calls : List Exchange} : Still calls → Lifts false calls

namespace Lifts

variable {isOpen : Bool} {first calls rest : List Exchange}

/-- More calls may come before and after. -/
theorem extend (h : Lifts isOpen calls) (hfirst : Still first) (hrest : Still rest) :
    Lifts isOpen (first ++ calls ++ rest) := by
  cases h with
  | @opened _ _ _ early up late hearly hup hlate =>
    have hlifts := Lifts.opened (hfirst.append hearly) hup (hlate.append hrest)
    simpa only [List.append_assoc] using hlifts
  | closed hcalls => exact .closed ((hfirst.append hcalls).append hrest)

/-- An attempt leaves the sensor up or given up. -/
theorem supply_eq_off_iff (h : Lifts isOpen calls) {supply : Supply} :
    calls.foldl Supply.next supply = .off ↔ isOpen = false ∧ supply = .off := by
  cases h with
  | opened hfirst hup hrest =>
    obtain ⟨_, hsupply⟩ := SensorManager.ensures_powerUp _ _ hup
    rw [List.foldl_append, List.foldl_append, hrest.supply_eq, hsupply]
    split <;> simp
  | closed hcalls => simp [hcalls.supply_eq]

/-- Apart from the attempt the sensor is left alone. -/
theorem keepsSupply_or_isBringUp (h : Lifts isOpen calls) :
    ∀ exchange ∈ calls, exchange.call.keepsSupply = true ∨ exchange.call.isBringUp = true := by
  intro exchange hmem
  cases h with
  | opened hfirst hup hrest =>
    rcases List.mem_append.mp hmem with hearlier | hlate
    · rcases List.mem_append.mp hearlier with hearly | htrying
      · exact .inl (hfirst exchange hearly)
      · exact .inr (SensorManager.calls_powerUp _ _ hup exchange htrying)
    · exact .inl (hrest exchange hlate)
  | closed hcalls => exact .inl (hcalls exchange hmem)

/-- Bringing the sensor up takes no timed sleep. -/
theorem awake (h : Lifts isOpen calls) : Awake calls := by
  intro secs wake pins hmem
  rcases h.keepsSupply_or_isBringUp _ hmem with h | h <;> cases h

/-- Bringing the sensor up does not power it down. -/
theorem not_powersDown (h : Lifts isOpen calls) : ¬PowersDown calls := by
  intro hdown
  obtain ⟨exchange, hmem, hcall⟩ := List.mem_map.mp hdown
  have hkinds := h.keepsSupply_or_isBringUp exchange hmem
  rw [hcall] at hkinds
  rcases hkinds with h | h <;> cases h

end Lifts

/-- Calls that do not sleep in place leave the device awake. -/
theorem Dark.awake {calls : List Exchange} (h : Dark calls) : Awake calls := by
  intro secs wake pins hmem
  have hdark := h _ hmem
  cases hdark

/-- In a state other than the first, nothing is brought up, unless the device wakes from a timed sleep.
Before a sleep that the sensor may end, only a deep sleep that came back powers the sensor down. -/
inductive Slept (hours : OpenHours) : List Exchange → Prop where
  | unwoken {calls : List Exchange} : Dark calls → Slept hours calls
  | woken {first rest : List Exchange} {secs : Nat} {wake : WakeSources} {pins : WakePins} {moment : Moment} :
      Dark first →
      (wake.sensor = true → PowersDown first → CameBack first) →
      Lifts (moment.inOpenHours hours) rest →
      Slept hours (first ++ ⟨.timedSleep secs wake, pins⟩ :: ⟨.readClock, moment⟩ :: rest)

/-- More calls may come before and after. -/
theorem Slept.extend {hours : OpenHours} {first calls rest : List Exchange} (h : Slept hours calls)
    (hfirst : Dark first) (hdeep : PowersDown first → CameBack first) (hrest : Still rest) :
    Slept hours (first ++ calls ++ rest) := by
  cases h with
  | unwoken hcalls => exact .unwoken ((hfirst.append hcalls).append hrest.dark)
  | @woken early late secs wake pins moment hearly harmed hlifts =>
    have hslept : Slept hours ((first ++ early) ++ ⟨.timedSleep secs wake, pins⟩ :: ⟨.readClock, moment⟩ ::
        ([] ++ late ++ rest)) := by
      refine .woken (hfirst.append hearly) (fun hsensor hdown => ?_) (hlifts.extend (fun _ h => by cases h) hrest)
      exact cameBack_append.mpr ((powersDown_append.mp hdown).imp hdeep (harmed hsensor))
    simpa only [List.append_assoc, List.nil_append, List.cons_append] using hslept

/-- How a tick deals with the sensor. -/
inductive SensorTick (before : Controller) : List Exchange → Prop where
  | started {moment : Moment} {rest : List Exchange} : before.runState = .initialization →
      Lifts (before.isOpen moment) rest → SensorTick before (⟨.readClock, moment⟩ :: rest)
  | stayed {calls : List Exchange} : before.runState ≠ .initialization →
      Slept before.config.value.openHours calls → SensorTick before calls

namespace Controller

variable {before : Controller} {first rest calls : List Exchange} {secs : Nat} {wake : WakeSources}
  {pins : WakePins} {moment other : Moment}

/-- Where nothing sleeps after it, the look at the clock in the first tick is the only moment. -/
theorem resumesAt_start_iff (hstate : before.runState = .initialization) (hrest : Awake rest) :
    before.ResumesAt (⟨.readClock, moment⟩ :: rest) other ↔ other = moment := by
  constructor
  · rintro (⟨_, _, hcalls⟩ | ⟨early, secs, wake, pins, late, hcalls⟩)
    · cases hcalls
      rfl
    · have hmem : (⟨.timedSleep secs wake, pins⟩ : Exchange) ∈ (⟨.readClock, moment⟩ : Exchange) :: rest := by
        simp [hcalls]
      rcases List.mem_cons.mp hmem with heq | hlater
      · cases heq
      · exact absurd hlater (hrest secs wake pins)
  · rintro rfl
    exact .inl ⟨hstate, rest, rfl⟩

/-- So is the waking from the only timed sleep of a later tick. -/
theorem resumesAt_wake_iff (hstate : before.runState ≠ .initialization) (hfirst : Dark first)
    (hrest : Awake rest) :
    before.ResumesAt (first ++ ⟨.timedSleep secs wake, pins⟩ :: ⟨.readClock, moment⟩ :: rest) other ↔
      other = moment := by
  constructor
  · rintro (⟨hstart, _⟩ | ⟨early, secs', wake', pins', late, hcalls⟩)
    · exact absurd hstart hstate
    · have hlater : (⟨.timedSleep secs' wake', pins'⟩ : Exchange) ∉ (⟨.readClock, moment⟩ : Exchange) :: rest := by
        simpa using hrest secs' wake' pins'
      obtain ⟨_, _, hsame⟩ := (List.append_cons_inj_of_notMem (hfirst.awake _ _ _) hlater).mp hcalls
      cases hsame
      rfl
  · rintro rfl
    exact .inr ⟨first, secs, wake, pins, rest, rfl⟩

/-- In a state other than the first, a device that stays awake does not resume. -/
theorem not_resumesAt (hstate : before.runState ≠ .initialization) (hcalls : Dark calls) :
    ¬before.ResumesAt calls other := by
  rintro (⟨hstart, _⟩ | ⟨early, secs, wake, pins, late, rfl⟩)
  · exact hstate hstart
  · exact hcalls.awake secs wake pins (by simp)

end Controller

namespace SensorTick

variable {before : Controller} {calls pre post : List Exchange} {secs : Nat} {wake : WakeSources} {pins : WakePins}

/-- A timed sleep comes before all attempts of its tick. -/
theorem of_timedSleep (h : SensorTick before (pre ++ ⟨.timedSleep secs wake, pins⟩ :: post)) :
    Dark pre ∧ (wake.sensor = true → PowersDown pre → CameBack pre) := by
  have hmem : (⟨.timedSleep secs wake, pins⟩ : Exchange) ∈ pre ++ ⟨.timedSleep secs wake, pins⟩ :: post := by simp
  generalize hcalls : pre ++ ⟨.timedSleep secs wake, pins⟩ :: post = calls at h hmem
  cases h with
  | started _ hlifts =>
    rcases List.mem_cons.mp hmem with heq | hrest
    · cases heq
    · exact absurd hrest (hlifts.awake _ _ _)
  | stayed _ hslept =>
    cases hslept with
    | unwoken hdark => exact absurd hmem (hdark.awake _ _ _)
    | woken hdark harmed hlifts =>
      have hrest := hlifts.awake secs wake pins
      obtain ⟨rfl, heq, _⟩ :=
        (List.append_cons_inj_of_notMem (hdark.awake _ _ _) (by simpa using hrest)).mp hcalls.symm
      cases heq
      exact ⟨hdark, harmed⟩

/-- A tick brings the sensor up at the moment it starts or wakes, if the device is open then. Otherwise
the sensor is off afterwards if it was before, or is powered down in the tick. -/
theorem supply_eq_off_iff (h : SensorTick before calls) {supply : Supply} :
    calls.foldl Supply.next supply = .off ↔
      (¬∃ moment, before.isOpen moment = true ∧ before.ResumesAt calls moment) ∧
        (PowersDown calls ∨ supply = .off) := by
  cases h with
  | @started moment rest hstate hlifts =>
    have hread : supply.next ⟨.readClock, moment⟩ = supply := rfl
    have hdown : ¬PowersDown (⟨.readClock, moment⟩ :: rest) := by
      simp [powersDown_cons, hlifts.not_powersDown]
    simp only [Controller.resumesAt_start_iff hstate hlifts.awake]
    rw [List.foldl_cons, hread, hlifts.supply_eq_off_iff]
    simp [hdown]
  | stayed hstate hslept =>
    cases hslept with
    | unwoken hdark => simp [Controller.not_resumesAt hstate hdark, hdark.supply_eq_off_iff]
    | @woken first rest secs wake pins moment hdark _ hlifts =>
      have hslept : ∀ between : Supply,
          (between.next ⟨.timedSleep secs wake, pins⟩).next ⟨.readClock, moment⟩ = between := fun between => rfl
      have hdown : PowersDown (first ++ ⟨.timedSleep secs wake, pins⟩ :: ⟨.readClock, moment⟩ :: rest) ↔
          PowersDown first := by
        simp [powersDown_append, powersDown_cons, hlifts.not_powersDown]
      simp only [Controller.resumesAt_wake_iff hstate hdark hlifts.awake]
      rw [hdown, List.foldl_append, List.foldl_cons, List.foldl_cons, hslept, hlifts.supply_eq_off_iff,
        hdark.supply_eq_off_iff]
      simp [Controller.isOpen]

end SensorTick

/-! ## Ticks -/

namespace Controller

open Step

variable {c after : Controller} {trace : List Exchange} {outcome : Outcome} {moment : Moment}

/-- The first tick of a boot brings the sensor up in open hours. -/
theorem lifts_startUp (moment : Moment) :
    (startUp moment).Ensures c fun trace _ _ => Lifts (c.isOpen moment) trace := by
  refine ensures_call_bind.mpr fun reason => ensures_get_bind.mpr (ensures_logged_bind.mpr ?_)
  extract_lets rest sense clear
  have hrest : ∀ c, Within Effect.keepsSupply (rest ()) c := by
    intro c
    refine .bind (.ask rfl) fun pressed _ => .bind (.ask rfl) fun held _ => .get (.ite (.pure _) ?_)
    exact .note (.pure _)
  have hsense : ∀ between : Controller, between.config = c.config →
      (sense ()).Ensures between fun trace _ _ => Lifts (c.isOpen moment) (⟨.resetReason, reason⟩ :: trace) := by
    intro between hsame
    refine ensures_bind.mpr (ensures_call_bind.mpr fun reading => ensures_updateStatus.mpr ?_)
    have hopens : ∀ status, ({ between with status } : Controller).isOpen moment = c.isOpen moment := fun status =>
      congrArg (fun config : Persisted DeviceConfig => moment.inOpenHours config.value.openHours) hsame
    have hlooked : Still [⟨.resetReason, reason⟩, ⟨.readBattery, reading⟩] := .cons rfl (.cons rfl still_nil)
    refine ensures_get_bind.mpr (ensures_ite.mpr ⟨fun hopen => ?_, fun hclosed => ?_⟩)
    · have htrue : c.isOpen moment = true := (hopens _).symm.trans hopen
      rw [htrue]
      refine ensures_bind.mpr (ensures_get_bind.mpr (ensures_bind.mpr (ensures_onSensors.mpr ?_)))
      intro up result hup
      have hlifts : ∀ between, (rest ()).Ensures between fun trace _ _ =>
          Lifts true ([⟨.resetReason, reason⟩, ⟨.readBattery, reading⟩] ++ up ++ trace) := fun between =>
        Ensures.mono (hrest between) fun trace _ _ heffects => .opened hlooked hup (heffects.still fun _ => id)
      refine ensures_ite.mpr ⟨fun _ => ensures_pure.mpr ?_, fun _ => ensures_logged_bind.mpr ?_⟩
      · simpa using hlifts _
      · refine ensures_updateStatus.mpr ?_
        simpa using hlifts _
    · have hfalse : c.isOpen moment = false := by simpa [hopens] using hclosed
      rw [hfalse]
      refine Ensures.mono (hrest _) fun trace _ _ heffects => ?_
      exact .closed (hlooked.append (heffects.still fun _ => id))
  have hclear : ∀ between : Controller, between.config = c.config →
      (clear ()).Ensures between fun trace _ _ => Lifts (c.isOpen moment) (⟨.resetReason, reason⟩ :: trace) := by
    intro between hsame
    refine ensures_ite.mpr ⟨fun _ => ensures_bind.mpr (ensures_get_bind.mpr ?_), fun _ => hsense between hsame⟩
    refine ensures_bind.mpr (ensures_updateStatus.mpr (ensures_pure.mpr ?_))
    refine ensures_ite.mpr ⟨fun _ => ensures_logged_bind.mpr (hsense _ hsame), fun _ => hsense _ hsame⟩
  refine ensures_ite.mpr ⟨fun _ => ensures_logged_bind.mpr (ensures_modify_bind.mpr (hclear _ rfl)), fun _ => ?_⟩
  exact hclear c rfl

/-- So does waking from a timed sleep. -/
theorem Wakes.lifts (h : Wakes c moment trace after) : Lifts (c.isOpen moment) trace := by
  cases h with
  | opened hopen hup haccounts =>
    rw [hopen]
    exact .opened still_nil hup (haccounts.still fun _ => Effect.keepsSupply_of_accounts)
  | closed hclosed haccounts =>
    rw [hclosed]
    exact .closed (haccounts.still fun _ => Effect.keepsSupply_of_accounts)

/-- Before a timed sleep the sensor is powered down, unless it may end the sleep. -/
theorem Spares.dark {plan : SleepPlan} {down : List Exchange} {sensors : SensorManager}
    (h : c.Spares plan down sensors) : Dark down ∧ (plan.wake.sensor = true → down = []) := by
  unfold Spares at h
  split at h
  · rw [h.1]
    exact ⟨still_nil.dark, fun _ => rfl⟩
  · refine ⟨fun exchange hmem => ?_, fun hsensor => absurd hsensor ‹_›⟩
    rw [SensorManager.calls_powerDown _ h exchange hmem]
    rfl

/-- A timed sleep can be ended by the sensor only if it is not powered down for it. -/
theorem Naps.slept {plan : SleepPlan} (h : Naps c plan trace outcome after) :
    Slept c.config.value.openHours trace := by
  cases h with
  | mk hspares hwrites _ hwakes _ =>
    obtain ⟨hdown, harmed⟩ := hspares.dark
    have hwriting := hwrites.still fun _ => Effect.keepsSupply_of_writes
    have hconfig := hwrites.config_eq fun _ h => Effect.changesConfig_of_rests (Effect.rests_of_writes h)
    have hlifts := hwakes.lifts
    rw [isOpen, hconfig] at hlifts
    refine .woken (hdown.append hwriting.dark) (fun hsensor hpowers => ?_) hlifts
    rw [harmed hsensor, List.nil_append] at hpowers
    exact absurd hpowers hwriting.not_powersDown

/-- A deep sleep powers the sensor down, and may come back. -/
theorem SleepsDeeply.slept {plan : SleepPlan} {now : UInt32} (h : SleepsDeeply c plan now trace outcome after) :
    Slept c.config.value.openHours trace := by
  have hdark : ∀ {down sensors writing ready}, Path c.sensors.powerDown down sensors → Effects Effect.writes
        ({ c with sensors }.setCounting (c.counting.closeOccupancy c.status.value now).value) writing ready →
      Dark (down ++ writing) ∧ ready.config.value = c.config.value := by
    intro down sensors writing ready hdown hwrites
    have hwriting := hwrites.still fun _ => Effect.keepsSupply_of_writes
    have hconfig := hwrites.config_eq fun _ h => Effect.changesConfig_of_rests (Effect.rests_of_writes h)
    refine ⟨Dark.append (fun exchange hmem => ?_) hwriting.dark, hconfig⟩
    rw [SensorManager.calls_powerDown _ hdown exchange hmem]
    rfl
  cases h with
  | restarting hdown hwrites =>
    exact .unwoken ((hdark hdown hwrites).1.append (.cons rfl still_nil.dark))
  | @resumed down writing planning rest _ _ _ _ moment again _ hdown hwrites hplans hnaps =>
    obtain ⟨hfirst, hready⟩ := hdark hdown hwrites
    have hplanning := hplans.still fun _ => Effect.keepsSupply_of_replans
    have hbetween := hplans.config_eq fun _ h => Effect.changesConfig_of_rests (Effect.rests_of_replans h)
    have hslept := hnaps.slept
    rw [hbetween, hready] at hslept
    have hresumed : (⟨.deepSleep plan.seconds plan.wake, .resumed⟩ : Exchange) ∈
        down ++ writing ++ ⟨.deepSleep plan.seconds plan.wake, .resumed⟩ :: ⟨.readClock, moment⟩ :: planning := by
      simp
    have hdeep : Dark (⟨.deepSleep plan.seconds plan.wake, .resumed⟩ :: ⟨.readClock, moment⟩ :: planning) :=
      .cons rfl (.cons rfl hplanning.dark)
    have hall := hslept.extend (hfirst.append hdeep) (fun _ => ⟨_, _, hresumed⟩) still_nil
    simpa only [List.append_assoc, List.cons_append, List.append_nil] using hall

/-- A tick that sleeps deals with the sensor in this way. -/
theorem SleepTick.slept (h : SleepTick c moment trace outcome after) : Slept c.config.value.openHours trace := by
  have hstill : ∀ {rest ready}, Effects Effect.windsDown c rest ready →
      Still rest ∧ ready.config.value = c.config.value := by
    intro rest ready hwinds
    exact ⟨hwinds.still fun _ => Effect.keepsSupply_of_windsDown,
      hwinds.config_eq fun _ h => Effect.changesConfig_of_rests (Effect.rests_of_windsDown h)⟩
  have hplanned : ∀ {ready planning between}, Effects Effect.plans ready planning between →
      Still planning ∧ between.config.value = ready.config.value := by
    intro ready planning between hplans
    exact ⟨hplans.still fun _ => Effect.keepsSupply_of_plans,
      hplans.config_eq fun _ h => Effect.changesConfig_of_rests (Effect.rests_of_plans h)⟩
  cases h with
  | awake hwinds => exact .unwoken (hstill hwinds).1.dark
  | stuck _ hwinds => exact .unwoken (hstill hwinds).1.dark
  | asleep _ hwinds hsleeps =>
    obtain ⟨hwound, hready⟩ := hstill hwinds
    cases hsleeps with
    | timed hplans hnaps =>
      obtain ⟨hplanning, hbetween⟩ := hplanned hplans
      have hslept := hnaps.slept
      rw [hbetween, hready] at hslept
      have hall := hslept.extend (hwound.append hplanning).dark
        (fun hdown => absurd hdown (hwound.append hplanning).not_powersDown) still_nil
      simpa only [List.append_assoc, List.append_nil] using hall
    | deep hplans hdeep =>
      obtain ⟨hplanning, hbetween⟩ := hplanned hplans
      have hslept := hdeep.slept
      rw [hbetween, hready] at hslept
      have hall := hslept.extend (hwound.append hplanning).dark
        (fun hdown => absurd hdown (hwound.append hplanning).not_powersDown) still_nil
      simpa only [List.append_assoc, List.append_nil] using hall

/-- No state but the first and sleeping has anything to do with the supply of the sensor. -/
theorem keepsSupply_of_has {state : RunState} {effect : Effect} (hfirst : state ≠ .initialization)
    (hsleeping : state ≠ .sleeping) (h : state.has effect = true) : effect.keepsSupply = true := by
  cases state with
  | initialization => exact absurd rfl hfirst
  | sleeping => exact absurd rfl hsleeping
  | _ =>
    dsimp only [RunState.has] at h
    split at h <;> first | rfl | cases h

/-- Whatever state it is in, a tick deals with the sensor in this way. -/
theorem sensorTick_of_tick {calls : List Exchange} {control : Control}
    (h : Path (tick.run c) calls (control, after)) : SensorTick c calls := by
  obtain ⟨moment, opening, entered, middle, outcome, carried, closing, hopen, hcarry, hflush, _, rfl⟩ :=
    tick_cases h
  have hstate : entered.runState = c.runState := hopen.runState_eq rfl
  have hconfig := hopen.config_eq fun _ => Effect.changesConfig_of_opens
  have hopening := hopen.still fun _ => Effect.keepsSupply_of_opens
  have hclosing := Effects.still (within_flush_writes hflush) fun _ => Effect.keepsSupply_of_writes
  by_cases hfirst : c.runState = .initialization
  · have hlifts : Lifts (entered.isOpen moment) middle :=
      lifts_startUp moment (work_of_carryOut hcarry (hstate.trans hfirst))
    rw [isOpen, hconfig] at hlifts
    exact .started hfirst (hlifts.extend hopening hclosing)
  · have hmiddle : Slept c.config.value.openHours middle := by
      by_cases hsleeping : entered.runState = .sleeping
      · rw [← hconfig]
        exact (sleepTick_of_carryOut hcarry hsleeping).slept
      · rw [← hstate] at hfirst
        have heffects : Effects entered.runState.has entered middle carried := within_carryOut moment hcarry
        exact .unwoken (heffects.still fun _ => keepsSupply_of_has hfirst hsleeping).dark
    have hearly : Still (⟨.readClock, moment⟩ :: opening) := .cons rfl hopening
    exact .stayed hfirst (hmiddle.extend hearly.dark (fun hdown => absurd hdown hearly.not_powersDown) hclosing)

end Controller

end FieldCounter
