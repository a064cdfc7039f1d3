import FieldCounter.Proofs.FallingAsleep
import FieldCounter.Proofs.SensorSupply

/-!
# Sleeping in open hours

A device in connected mode is to be awake in open hours, and a tick that begins in them does not sleep.
But a deep sleep takes time, and where it comes back the timed sleep in its place is gone into without
another look at the hours: if they have begun by then, the device sleeps on in them.
-/

namespace FieldCounter

open Program (Path)

/-- The call puts the device to sleep. -/
def Call.isSleep : Call → Bool
  | .deepSleep _ _ | .timedSleep _ _ => true
  | _ => false

/-- What the exchange says of the clock. -/
def Exchange.reading : Exchange → Option Moment
  | ⟨.readClock, moment⟩ => some moment
  | _ => none

/-- The moments at which the calls put the device to sleep, by the latest look at the clock. -/
def sleepMoments : (latest : Option Moment) → List Exchange → List Moment
  | _, [] => []
  | latest, exchange :: rest =>
    (if exchange.call.isSleep then latest.toList else []) ++ sleepMoments (exchange.reading.or latest) rest

/-- The moments that are found on the clock next after a deep sleep that came back. -/
def returnMoments : (back : Bool) → List Exchange → List Moment
  | _, [] => []
  | back, exchange :: rest =>
    (if back then exchange.reading.toList else []) ++ returnMoments exchange.cameBack rest

/-- A sleep is not prompt. -/
theorem Call.isPrompt_of_isSleep {call : Call} (h : call.isSleep = true) : call.isPrompt = false := by
  cases call <;> first | rfl | cases h

/-! ## Prompt calls -/

namespace Prompt

variable {calls : List Exchange}

/-- Prompt calls before the others put off no sleep and look at no clock. -/
theorem sleepMoments_append (h : Prompt calls) (latest : Option Moment) (rest : List Exchange) :
    sleepMoments latest (calls ++ rest) = sleepMoments latest rest := by
  induction calls with
  | nil => rfl
  | cons exchange calls ih =>
    have hprompt := h exchange List.mem_cons_self
    have hsleep : exchange.call.isSleep = false := by
      refine Bool.eq_false_iff.mpr fun hsleep => ?_
      rw [Call.isPrompt_of_isSleep hsleep] at hprompt
      cases hprompt
    have hreading : exchange.reading = none := by
      unfold Exchange.reading
      split
      · cases hprompt
      · rfl
    rw [List.cons_append, sleepMoments, hsleep, hreading]
    exact ih fun exchange hmem => h exchange (List.mem_cons_of_mem _ hmem)

/-- Nor does the device return from a sleep in them. -/
theorem returnMoments_append (h : Prompt calls) (rest : List Exchange) :
    returnMoments false (calls ++ rest) = returnMoments false rest := by
  induction calls with
  | nil => rfl
  | cons exchange calls ih =>
    have hprompt := h exchange List.mem_cons_self
    have hback : exchange.cameBack = false := by
      unfold Exchange.cameBack
      split
      · cases hprompt
      · rfl
    rw [List.cons_append, returnMoments, hback]
    exact ih fun exchange hmem => h exchange (List.mem_cons_of_mem _ hmem)

/-- In prompt calls the device is not put to sleep. -/
theorem sleepMoments_eq (h : Prompt calls) (latest : Option Moment) : sleepMoments latest calls = [] := by
  have hnil := h.sleepMoments_append latest []
  rwa [List.append_nil] at hnil

/-- In prompt calls it does not return from a sleep. -/
theorem returnMoments_eq (h : Prompt calls) : returnMoments false calls = [] := by
  have hnil := h.returnMoments_append []
  rwa [List.append_nil] at hnil

end Prompt

/-! ## Ticks -/

namespace Controller

open Step

variable {c before after : Controller} {calls trace : List Exchange} {outcome : Outcome} {control : Control}
  {moment : Moment}

/-- A device that rests is put to sleep at the moment, and at the moments that it finds on the clock
after a deep sleep that came back. -/
theorem Rests.sleepMoments_eq (h : c.Rests trace outcome after) {closing : List Exchange}
    (hclosing : Prompt closing) :
    sleepMoments (some moment) (trace ++ closing) = moment :: returnMoments false (trace ++ closing) := by
  cases h with
  | gone _ _ hfirst =>
    rw [List.append_assoc, hfirst.sleepMoments_append, hfirst.returnMoments_append]
    simp [sleepMoments, returnMoments, Call.isSleep, Exchange.cameBack, hclosing.sleepMoments_eq,
      hclosing.returnMoments_eq]
  | @woken _ _ _ _ pins _ _ _ hfalls hwakes =>
    obtain ⟨woken, waking, _, rfl, hwakes, _⟩ := ensures_wakeUp pins hwakes
    have hrest : Prompt (waking ++ closing) := hwakes.prompt.append hclosing
    simp only [List.append_assoc, List.cons_append]
    cases hfalls with
    | directly hfirst =>
      have hfirst := hfirst.prompt_of_readies
      rw [hfirst.sleepMoments_append, hfirst.returnMoments_append]
      simp [sleepMoments, returnMoments, Call.isSleep, Exchange.reading, Exchange.cameBack,
        hrest.sleepMoments_eq, hrest.returnMoments_eq]
    | @again early _ _ _ _ _ _ _ _ _ hearly hwriting hagain =>
      have hearly := hearly.prompt_of_readies.append hwriting.prompt_of_readies
      have hagain := hagain.prompt_of_readies
      simp only [List.append_assoc, List.cons_append]
      rw [← List.append_assoc early, hearly.sleepMoments_append, hearly.returnMoments_append]
      simp [sleepMoments, returnMoments, Call.isSleep, Exchange.reading, Exchange.cameBack,
        hagain.sleepMoments_append, hagain.returnMoments_append, hrest.sleepMoments_eq, hrest.returnMoments_eq]

/-- A tick that is to sleep leaves the settings as they are. -/
theorem config_eq_of_sleeping (h : Path (tick.run c) trace (control, after)) (hstate : c.runState = .sleeping) :
    after.config.value = c.config.value := by
  obtain ⟨first, closing, ready, heffects, hflush, rfl⟩ := effects_tick h
  rw [hstate] at heffects
  have hready : ready.config.value = c.config.value := by
    refine heffects.config_eq fun effect hallowed => ?_
    cases effect <;> first | rfl | cases hallowed
  have hwrites : Effects Effect.writes ready closing after := within_flush_writes hflush
  exact (hwrites.config_eq fun _ h => Effect.changesConfig_of_rests (Effect.rests_of_writes h)).trans hready

end Controller

open Controller

/-- In connected mode, a tick puts the device to sleep in open hours at the moments in open hours that it
finds on the clock after a deep sleep that came back, and at no others; and a tick that puts the device to
sleep does not change the mode or the hours. -/
theorem sleeps_open_iff_returns_open {before after : Controller} {calls : List Exchange} {control : Control}
    (hpath : Path (tick.run before) calls (control, after))
    (hconnected : before.config.value.isConnectedMode = true) :
    (sleepMoments none calls).filter before.isOpen = (returnMoments false calls).filter before.isOpen ∧
      (sleepMoments none calls ≠ [] → after.config.value = before.config.value) := by
  obtain ⟨moment, marked, polling, polled, middle, outcome, carried, closing, hpoll, hcarry, hflush, _, rfl⟩ :=
    tick_parts hpath
  have hpolling := prompt_opening marked hpoll
  have hclosing := prompt_flush hflush
  have hreading : sleepMoments none (⟨.readClock, moment⟩ :: ⟨.takeSensorFlag, marked⟩ :: polling ++ middle ++
      closing) = sleepMoments (some moment) (middle ++ closing) := by
    rw [List.append_assoc, List.cons_append, sleepMoments, hpolling.sleepMoments_append]
    rfl
  have hreturning : returnMoments false (⟨.readClock, moment⟩ :: ⟨.takeSensorFlag, marked⟩ :: polling ++ middle ++
      closing) = returnMoments false (middle ++ closing) := by
    rw [List.append_assoc, List.cons_append]
    exact hpolling.returnMoments_append _
  rw [hreading, hreturning]
  by_cases hsleeping : before.runState = .sleeping
  · refine ⟨?_, fun _ => config_eq_of_sleeping hpath hsleeping⟩
    rcases (sleepTick_of_carryOut hcarry (by rwa [runState_opened])).prompt_or_rests with
      hmiddle | ⟨hclosed, hrests⟩
    · rw [(hmiddle.append hclosing).sleepMoments_eq, (hmiddle.append hclosing).returnMoments_eq]
    · have hshut : before.isOpen moment = false := by
        simpa only [isOpen, config_opened] using hclosed (by rwa [config_opened])
      rw [hrests.sleepMoments_eq hclosing, List.filter_cons_of_neg (by rw [hshut]; exact Bool.false_ne_true)]
  · have hmiddle : Prompt middle := prompt_of_carryOut hcarry (by rwa [runState_opened])
    rw [(hmiddle.append hclosing).sleepMoments_eq, (hmiddle.append hclosing).returnMoments_eq]
    exact ⟨rfl, fun hsleeps => absurd rfl hsleeps⟩

/-- A tick in which a deep sleep comes back as the device opens, so that it sleeps on in open hours. -/
theorem sleeps_open_closingSeen :
    ∃ earlier before calls control after last, Run none (earlier ++ [.tick before calls control after]) last ∧
      before.config.value.isConnectedMode = true ∧ ∃ moment ∈ sleepMoments none calls, before.isOpen moment = true := by
  have hsome : (play closingSeen .blank).2.controller.isSome = true := by decide +kernel
  obtain ⟨before, hbefore⟩ := Option.isSome_iff_exists.mp hsome
  let env := Devices.aroundDeepSleep (Devices.sinceSix 57602 false).comingBack (.sinceSix 86401 false)
  have hfacts : ∀ c ∈ (play closingSeen .blank).2.controller, c.config.value.isConnectedMode = true ∧
      (sleepMoments none ((tick.run c).trace env false)).any c.isOpen = true := by decide +kernel
  obtain ⟨hconnected, hany⟩ := hfacts before hbefore
  have hpath := (tick.run before).path_run env false
  obtain ⟨hrun, _⟩ := run_play closingSeen .blank
  rw [hbefore] at hrun
  exact ⟨_, before, _, _, _, _, Run.concat_iff.mpr ⟨_, hrun, .tick hpath⟩, hconnected, List.any_eq_true.mp hany⟩

/-- The moment was found on the clock after the deep sleep. -/
theorem sleeps_open_iff_returns_open_closingSeen :
    ∃ before calls control after moment, Path (tick.run before) calls (control, after) ∧
      before.config.value.isConnectedMode = true ∧
      moment ∈ (sleepMoments none calls).filter before.isOpen ∧
      moment ∈ (returnMoments false calls).filter before.isOpen := by
  obtain ⟨earlier, before, calls, control, after, last, hrun, hconnected, moment, hsleeps, hopen⟩ :=
    sleeps_open_closingSeen
  obtain ⟨_, _, hleads⟩ := Run.concat_iff.mp hrun
  cases hleads with
  | tick hpath =>
    have hmem := List.mem_filter.mpr ⟨hsleeps, hopen⟩
    obtain ⟨heq, _⟩ := sleeps_open_iff_returns_open hpath hconnected
    exact ⟨before, calls, control, after, moment, hpath, hconnected, hmem, heq ▸ hmem⟩

/-- So it is not true of every run that a device in connected mode is not put to sleep in open hours. -/
theorem sleeps_through_opening :
    ¬∀ earlier before calls control after last, Run none (earlier ++ [.tick before calls control after]) last →
      before.config.value.isConnectedMode = true →
      ∀ moment ∈ sleepMoments none calls, before.isOpen moment = false := by
  intro hnever
  obtain ⟨earlier, before, calls, control, after, last, hrun, hconnected, moment, hsleeps, hopen⟩ :=
    sleeps_open_closingSeen
  rw [hnever earlier before calls control after last hrun hconnected moment hsleeps] at hopen
  cases hopen

end FieldCounter
