import FieldCounter.Proofs.Opening
import FieldCounter.Proofs.SensorTick

/-!
# How a tick falls asleep

A timed sleep divides its tick: what comes before it readies the device and accounts for no detection,
and what comes after it is the waking. Before it there may have been a deep sleep that came back, and
then the open session was closed for that one. In connected mode neither sleep is gone into where the
tick begins in open hours.
-/

namespace FieldCounter

open Program (Path)

/-! ## Calls that take no time -/

/-- The call neither looks at the clock nor puts the device to sleep. -/
def Call.isPrompt : Call → Bool
  | .readClock | .deepSleep _ _ | .timedSleep _ _ => false
  | _ => true

/-- None of the calls looks at the clock or puts the device to sleep. -/
def Prompt (calls : List Exchange) : Prop := ∀ exchange ∈ calls, exchange.call.isPrompt = true

/-- Two parts that are prompt are prompt together. -/
theorem Prompt.append {first rest : List Exchange} (h : Prompt first) (hrest : Prompt rest) :
    Prompt (first ++ rest) :=
  fun exchange hmem => (List.mem_append.mp hmem).elim (h exchange) (hrest exchange)

/-- Without time passing there is no timed sleep. -/
theorem Prompt.awake {calls : List Exchange} (h : Prompt calls) : Awake calls :=
  fun _ _ _ hmem => nomatch h _ hmem

/-- Nor is there a deep sleep. -/
theorem Prompt.not_cameBack {calls : List Exchange} (h : Prompt calls) : ¬CameBack calls :=
  fun ⟨_, _, hmem⟩ => nomatch h _ hmem

/-- Without a call the device is awake. -/
theorem awake_nil : Awake [] := fun _ _ _ hmem => nomatch hmem

namespace Awake

variable {calls rest : List Exchange}

/-- A device that is awake through two parts is awake through both. -/
theorem append (h : Awake calls) (hrest : Awake rest) : Awake (calls ++ rest) :=
  fun secs wake pins hmem => (List.mem_append.mp hmem).elim (h secs wake pins) (hrest secs wake pins)

/-- One more call that is no timed sleep leaves the device awake. -/
theorem cons {exchange : Exchange} (hcall : ∀ secs wake, exchange.call ≠ .timedSleep secs wake) (h : Awake calls) :
    Awake (exchange :: calls) := by
  intro secs wake pins hmem
  rcases List.mem_cons.mp hmem with rfl | hrest
  · exact hcall secs wake rfl
  · exact h secs wake pins hrest

end Awake

/-- The effect neither looks at the clock nor puts the device to sleep. -/
def Effect.isPrompt : Effect → Bool
  | .ask call => call.isPrompt
  | _ => true

/-- A prompt effect makes only prompt calls. -/
theorem Effect.isPrompt_of_mayCall {effect : Effect} {call : Call} (h : effect.mayCall call = true)
    (hprompt : effect.isPrompt = true) : call.isPrompt = true := by
  cases effect with
  | ask asked => rwa [← eq_of_beq h]
  | _ => cases call <;> first | rfl | cases h

/-- Prompt effects in a row make only prompt calls. -/
theorem Effects.prompt {allowed : Effect → Bool} {before after : Controller} {trace : List Exchange}
    (h : Effects allowed before trace after)
    (hprompt : ∀ effect, allowed effect = true → effect.isPrompt = true) : Prompt trace := by
  intro exchange hmem
  obtain ⟨effect, hallowed, hcall⟩ := h.mayCall exchange hmem
  exact Effect.isPrompt_of_mayCall hcall (hprompt effect hallowed)

/-! ## Getting ready -/

/-- The effects by which the device gets ready for a sleep. -/
def Effect.readies (effect : Effect) : Bool :=
  effect.windsDown || effect.replans || effect.writes || effect == .powerDown

namespace Effect

variable {effect : Effect}

/-- Winding the radio down is part of getting ready for a sleep. -/
theorem readies_of_windsDown (h : effect.windsDown = true) : effect.readies = true := by simp [readies, h]

/-- So is planning it. -/
theorem readies_of_plans (h : effect.plans = true) : effect.readies = true := by
  cases effect <;> first | rfl | cases h

/-- So is planning another one after a deep sleep came back. -/
theorem readies_of_replans (h : effect.replans = true) : effect.readies = true := by simp [readies, h]

/-- So is writing the records. -/
theorem readies_of_writes (h : effect.writes = true) : effect.readies = true := by simp [readies, h]

/-- Getting ready for a sleep is prompt. -/
theorem isPrompt_of_readies (h : effect.readies = true) : effect.isPrompt = true := by
  cases effect with
  | ask call => cases call <;> first | rfl | cases h
  | _ => rfl

end Effect

/-- Getting ready takes no time. -/
theorem Effects.prompt_of_readies {before after : Controller} {trace : List Exchange}
    (h : Effects Effect.readies before trace after) : Prompt trace :=
  h.prompt fun _ => Effect.isPrompt_of_readies

namespace Controller

open Step

variable {c : Controller}

/-- The device comes to a timed sleep by the calls: at once, or after a deep sleep that came back. -/
inductive FallsAsleep (c : Controller) : List Exchange → Controller → Prop where
  | directly {trace : List Exchange} {asleep : Controller} :
      Effects Effect.readies c trace asleep → FallsAsleep c trace asleep
  | again {first writing replanning : List Exchange} {ready between asleep : Controller} (secs : Nat)
      (wake : WakeSources) (moment : Moment) {now : UInt32} :
      Effects Effect.readies c first ready →
      Effects Effect.readies (ready.setCounting (ready.counting.closeOccupancy ready.status.value now).value)
        writing between →
      Effects Effect.readies between replanning asleep →
      FallsAsleep c (first ++ writing ++ ⟨.deepSleep secs wake, .resumed⟩ :: ⟨.readClock, moment⟩ :: replanning)
        asleep

/-- More may be done before. -/
theorem FallsAsleep.prepend {ready asleep : Controller} {first rest : List Exchange}
    (hfirst : Effects Effect.readies c first ready) (h : ready.FallsAsleep rest asleep) :
    c.FallsAsleep (first ++ rest) asleep := by
  cases h with
  | directly hready => exact .directly (hfirst.append hready)
  | @again _ _ _ _ _ _ secs wake moment _ hready hwrites hreplans =>
    have hagain : c.FallsAsleep _ asleep :=
      .again secs wake moment (hfirst.append hready) hwrites hreplans
    simpa only [List.append_assoc] using hagain

/-- What a device does once its radio is down: it goes into a sleep that restarts it, or it falls asleep
and wakes up again. -/
inductive Rests (c : Controller) : List Exchange → Outcome → Controller → Prop where
  | gone {first : List Exchange} (secs : Nat) (wake : WakeSources) {after : Controller} :
      Prompt first → Rests c (first ++ [⟨.deepSleep secs wake, .restarting⟩]) .restart after
  | woken {first rest : List Exchange} (secs : Nat) (wake : WakeSources) {pins : WakePins}
      {asleep after : Controller} {outcome : Outcome} :
      c.FallsAsleep first asleep → Path ((wakeUp pins).run asleep) rest (outcome, after) →
      Rests c (first ++ ⟨.timedSleep secs wake, pins⟩ :: rest) outcome after

/-- More may be done before. -/
theorem Rests.prepend {ready after : Controller} {first rest : List Exchange} {outcome : Outcome}
    (hfirst : Effects Effect.readies c first ready) (h : ready.Rests rest outcome after) :
    c.Rests (first ++ rest) outcome after := by
  cases h with
  | @gone _ secs wake _ hprompt =>
    have hgone : c.Rests _ .restart after :=
      .gone secs wake (hfirst.prompt_of_readies.append hprompt)
    simpa only [List.append_assoc] using hgone
  | @woken _ _ secs wake pins _ _ _ hfalls hwakes =>
    have hwoken : c.Rests _ outcome after := .woken secs wake (hfalls.prepend hfirst) hwakes
    simpa only [List.append_assoc] using hwoken

/-- A timed sleep is gone into ready for it. -/
theorem Naps.parts {plan : SleepPlan} {trace : List Exchange} {outcome : Outcome} {after : Controller}
    (h : Naps c plan trace outcome after) :
    ∃ first pins rest asleep, trace = first ++ ⟨.timedSleep plan.seconds plan.wake, pins⟩ :: rest ∧
      Effects Effect.readies c first asleep ∧ Path ((wakeUp pins).run asleep) rest (outcome, after) := by
  cases h with
  | @mk down writing _ sensors asleep _ pins _ _ hspares hwrites hwakes _ _ =>
    have hdown : Effects Effect.readies c down { c with sensors } := hspares.effects rfl
    have hwritten : Effects Effect.readies { c with sensors } writing asleep :=
      hwrites.mono fun _ => Effect.readies_of_writes
    exact ⟨down ++ writing, pins, _, asleep, rfl, hdown.append hwritten, hwakes⟩

section

variable {after : Controller} {trace : List Exchange} {outcome : Outcome} {moment : Moment}

/-- A deep sleep is a rest, whether it restarts the device or comes back. -/
theorem SleepsDeeply.rests {plan : SleepPlan} {now : UInt32} (h : SleepsDeeply c plan now trace outcome after) :
    c.Rests trace outcome after := by
  have hdowned : ∀ {down sensors}, Path c.sensors.powerDown down sensors →
      Effects Effect.readies c down { c with sensors } := fun hdown => .single rfl (.powerDown hdown)
  cases h with
  | restarting hdown hwrites =>
    have hwriting := hwrites.mono fun _ => Effect.readies_of_writes
    exact .gone _ _ ((hdowned hdown).prompt_of_readies.append hwriting.prompt_of_readies)
  | @resumed _ _ _ _ _ _ _ _ moment again _ hdown hwrites hplans hnaps _ =>
    obtain ⟨first, pins, rest, asleep, rfl, hready, hwakes⟩ := hnaps.parts
    have hagain := (hplans.mono fun _ => Effect.readies_of_replans).append hready
    have hwriting := hwrites.mono fun _ => Effect.readies_of_writes
    have hfalls : c.FallsAsleep _ asleep :=
      .again plan.seconds plan.wake moment (hdowned hdown) hwriting hagain
    have hwoken : c.Rests _ outcome after := .woken again.seconds again.wake hfalls hwakes
    simpa only [List.append_assoc, List.cons_append] using hwoken

/-- A sleep of either kind is a rest. -/
theorem Sleeps.rests (h : Sleeps c moment trace outcome after) : c.Rests trace outcome after := by
  cases h with
  | timed hplans hnaps =>
    obtain ⟨first, pins, rest, asleep, rfl, hready, hwakes⟩ := hnaps.parts
    exact Rests.prepend (hplans.mono fun _ => Effect.readies_of_plans) (.woken _ _ (.directly hready) hwakes)
  | deep hplans hdeep => exact hdeep.rests.prepend (hplans.mono fun _ => Effect.readies_of_plans)

/-- A tick that is to sleep stays awake, or it rests. -/
theorem SleepTick.prompt_or_rests (h : SleepTick c moment trace outcome after) :
    Prompt trace ∨
      (c.config.value.isConnectedMode = true → c.isOpen moment = false) ∧ c.Rests trace outcome after := by
  have hwound : ∀ {first ready}, Effects Effect.windsDown c first ready → Effects Effect.readies c first ready :=
    fun hwinds => hwinds.mono fun _ => Effect.readies_of_windsDown
  cases h with
  | awake hwinds _ => exact .inl (hwound hwinds).prompt_of_readies
  | stuck _ hwinds => exact .inl (hwound hwinds).prompt_of_readies
  | asleep hclosed hwinds hsleeps => exact .inr ⟨hclosed, hsleeps.rests.prepend (hwound hwinds)⟩

end

/-! ## The tick -/

section

variable {after : Controller} {trace : List Exchange} {outcome : Outcome} {moment : Moment}

/-- After the look at the clock, waking takes no time. -/
theorem Wakes.prompt (h : Wakes c moment trace after) : Prompt trace := by
  have haccounts : ∀ {before rest}, Effects Effect.accounts before rest after → Prompt rest := by
    intro before rest heffects
    refine heffects.prompt fun effect hallowed => ?_
    cases effect with
    | ask call => cases call <;> first | rfl | cases hallowed
    | _ => rfl
  cases h with
  | opened _ hup hrest =>
    refine Prompt.append (fun exchange hmem => ?_) (haccounts hrest)
    have hbring := SensorManager.calls_powerUp _ _ hup exchange hmem
    cases hcall : exchange.call <;> first | rfl | (rw [hcall] at hbring; cases hbring)
  | closed _ hrest => exact haccounts hrest

/-- No state but sleeping takes time. -/
theorem isPrompt_of_has {state : RunState} {effect : Effect} (hsleeping : state ≠ .sleeping)
    (h : state.has effect = true) : effect.isPrompt = true := by
  cases effect with
  | ask call =>
    cases state with
    | sleeping => exact absurd rfl hsleeping
    | _ => cases call <;> first | rfl | cases h
  | _ => rfl

/-- Writing the records is prompt. -/
theorem prompt_flush (h : Path (flush.run c) trace ((), after)) : Prompt trace := by
  have hwrites : Effects Effect.writes c trace after := within_flush_writes h
  exact (hwrites.mono fun _ => Effect.readies_of_writes).prompt_of_readies

/-- Nor does accounting for detections, after the look at the clock. -/
theorem prompt_opening {polling : List Exchange} {polled : Bool} (marked : Bool)
    (h : Path c.sensors.poll polling polled) : Prompt (⟨.takeSensorFlag, marked⟩ :: polling) := by
  intro exchange hmem
  rcases List.mem_cons.mp hmem with rfl | hmem
  · rfl
  · have hlook := SensorManager.calls_poll _ h exchange hmem
    cases hcall : exchange.call <;> first | rfl | (rw [hcall] at hlook; cases hlook)

/-- Only a tick that is to sleep takes time. -/
theorem prompt_of_carryOut (h : Path ((carryOut moment).run c) trace (outcome, after))
    (hstate : c.runState ≠ .sleeping) : Prompt trace :=
  Effects.prompt (within_carryOut moment h) fun _ => isPrompt_of_has hstate

/-- Until it falls asleep, the device is awake. -/
theorem FallsAsleep.awake {asleep : Controller} (h : c.FallsAsleep trace asleep) : Awake trace := by
  cases h with
  | directly hfirst => exact hfirst.prompt_of_readies.awake
  | again _ _ _ hfirst hwriting hagain =>
    have hearly := (hfirst.prompt_of_readies.append hwriting.prompt_of_readies).awake
    exact hearly.append (.cons (by simp) (.cons (by simp) hagain.prompt_of_readies.awake))

/-- A timed sleep divides its tick into falling asleep and waking up. -/
theorem parts_of_timedSleep {first rest : List Exchange} {secs : Nat} {wake : WakeSources} {pins : WakePins}
    {control : Control} (h : Path (tick.run c) (first ++ ⟨.timedSleep secs wake, pins⟩ :: rest) (control, after)) :
    ∃ moment marked polling polled falling asleep waking outcome woken closing,
      Path c.sensors.poll polling polled ∧
      first = ⟨.readClock, moment⟩ :: ⟨.takeSensorFlag, marked⟩ :: polling ++ falling ∧
      (c.opened (marked || polled) moment).FallsAsleep falling asleep ∧
      Path ((wakeUp pins).run asleep) waking (outcome, woken) ∧
      Path (flush.run (woken.following outcome)) closing ((), after) ∧ rest = waking ++ closing := by
  obtain ⟨moment, marked, polling, polled, middle, outcome, carried, closing, hpoll, hcarry, hflush, _, hcalls⟩ :=
    tick_parts h
  have hopening : Awake (⟨.readClock, moment⟩ :: ⟨.takeSensorFlag, marked⟩ :: polling) :=
    .cons (by simp) (prompt_opening marked hpoll).awake
  have hclosing := (prompt_flush hflush).awake
  have hslept : ¬Awake middle := by
    intro hmiddle
    refine (hopening.append hmiddle).append hclosing secs wake pins ?_
    rw [← hcalls]
    simp
  have hsleeping : c.runState = .sleeping := by
    by_contra hother
    exact hslept (prompt_of_carryOut hcarry (by rwa [runState_opened])).awake
  rcases (sleepTick_of_carryOut hcarry (by rwa [runState_opened])).prompt_or_rests with hmiddle | ⟨_, hrests⟩
  · exact absurd hmiddle.awake hslept
  · cases hrests with
    | gone _ _ hfirst => exact absurd (hfirst.awake.append (.cons (by simp) awake_nil)) hslept
    | @woken falling _ slept sources shown asleep _ _ hfalls hwakes =>
      obtain ⟨woken, following, _, rfl, hwaking, _⟩ := ensures_wakeUp _ hwakes
      have hlate : Awake (⟨.readClock, woken⟩ :: following ++ closing) :=
        (Awake.cons (by simp) hwaking.prompt.awake).append hclosing
      have hparts : (⟨.readClock, moment⟩ :: ⟨.takeSensorFlag, marked⟩ :: polling ++ falling) ++
          ⟨.timedSleep slept sources, shown⟩ :: (⟨.readClock, woken⟩ :: following ++ closing) =
            first ++ ⟨.timedSleep secs wake, pins⟩ :: rest := by
        rw [hcalls]
        simp
      obtain ⟨hfirst, heq, hrest⟩ :=
        (List.append_cons_inj_of_notMem ((hopening.append hfalls.awake) _ _ _) (hlate _ _ _)).mp hparts
      cases heq
      exact ⟨moment, marked, polling, polled, falling, asleep, _, outcome, carried, closing, hpoll, hfirst.symm, hfalls,
        hwakes, hflush, hrest.symm⟩

end

end Controller

end FieldCounter
