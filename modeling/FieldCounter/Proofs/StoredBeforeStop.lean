import FieldCounter.Proofs.FailingStore
import FieldCounter.Proofs.SensorSupply
import FieldCounter.Proofs.Stopping

/-!
# Everything is in storage before execution may stop

Nothing but the stored records is left after a reset or a deep sleep, and perhaps not more after a timed sleep.
Where all writes succeed, both records are in storage as they are in memory whenever execution may stop, also
where a deep sleep came back and a timed sleep follows it in the same tick.
-/

namespace FieldCounter

open Program (Path Reaches)

namespace Controller

variable {c halted : Controller} {store : Store} {first : List Exchange} {call : Call}

/-- Where execution may stop, what is known to be stored is, and unless a write failed both values are known to
be. -/
theorem ComesTo.backed (h : c.ComesTo first call halted) (hbacked : c.Backed store) :
    halted.Backed (store.after first) ∧
      ((∀ exchange ∈ first, exchange.failedWrite = none) → halted.Saved) := by
  have hflush : ∀ {ready : Controller} {earlier closing : List Exchange}, ready.Backed (store.after earlier) →
      Path (flush.run ready) closing ((), halted) →
      halted.Backed (store.after (earlier ++ closing)) ∧
        ((∀ exchange ∈ earlier ++ closing, exchange.failedWrite = none) → halted.Saved) := by
    intro ready earlier closing hready hpath
    obtain ⟨hlater, hsaved⟩ := hready.flush hpath
    rw [Store.after_append]
    exact ⟨hlater, fun hwritten => hsaved fun exchange hmem =>
      hwritten exchange (List.mem_append_right _ hmem)⟩
  cases h with
  | sleep hstate hsleep =>
    obtain ⟨earlier, ready, closing, rfl, heffects, hpath⟩ := hsleep.flushed
    exact hflush (heffects.backed (fun _ => RunState.touchesRecord_of_ticks) hbacked) hpath
  | @reset _ _ opened _ _ heffects _ _ hreset =>
    have hopened := heffects.backed (fun _ => RunState.touchesRecord_of_ticks) hbacked
    have hsane := (Effect.Does.countReset opened).sane hopened.sane
    exact hflush ⟨hsane, hopened.config, hopened.status⟩ hreset.2

/-- Before a reset it is counted. -/
theorem ComesTo.counted (h : c.ComesTo first call halted) (hreset : call.isReset = true) :
    halted.config.value = c.config.value.incrementResetCount := by
  cases h with
  | sleep _ hsleep =>
    rw [hsleep.unreset] at hreset
    cases hreset
  | reset _ hconfig _ hcounted =>
    rw [(values_of_flush hcounted.2).1, ← hconfig]
    rfl

/-- Before a deep sleep no session is open. -/
theorem ComesTo.closed (h : c.ComesTo first call halted) (hdeep : call.isDeepSleep = true) :
    halted.status.value.occupied = false := by
  cases h with
  | sleep _ hsleep => exact hsleep.closed hdeep
  | reset _ _ _ hcounted =>
    have hreset := hcounted.1
    cases call with
    | softReset | hardPowerCycle => cases hdeep
    | _ => cases hreset

end Controller

/-- In every run in which no write fails, whatever the devices answer and whichever reads fail: whenever execution
may stop, the store holds both values as they are in memory, from where the device goes on with the answer. By then
a reset is counted, and the session is closed for a deep sleep. -/
theorem stored_before_stop {earlier : List Event} {before after : Controller} {first rest : List Exchange}
    {call : Call} {answer : call.Answer} {control : Control} {last : Option Controller} {initial : Store}
    (hrun : Run none (earlier ++ [.tick before (first ++ ⟨call, answer⟩ :: rest) control after]) last)
    (hstops : call.stops = true) (hhonest : initial.Honest (callsOf earlier ++ first))
    (hwritten : ∀ exchange ∈ callsOf earlier ++ first, exchange.failedWrite = none) :
    ∃ c, Reaches (Controller.tick.run before) first call (fun answer => (Controller.resume call answer).run c) ∧
      (initial.after (callsOf earlier ++ first)).Holds c.config.value ∧
      (initial.after (callsOf earlier ++ first)).Holds c.status.value ∧
      (call.isReset = true → c.config.value = before.config.value.incrementResetCount) ∧
      (call.isDeepSleep = true → c.status.value.occupied = false) := by
  obtain ⟨state, hearlier, hleads⟩ := Run.concat_iff.mp hrun
  obtain ⟨hhonestly, _⟩ := Store.honest_append.mp hhonest
  cases hleads with
  | tick hpath =>
    have hbefore := hearlier.backed (fun _ hc => by cases hc) hhonestly before rfl
    obtain ⟨left, hreaches⟩ := hpath.reaches
    obtain ⟨c, rfl, hcomes⟩ := Controller.stops_tick hreaches hstops
    obtain ⟨hbacked, hsaved⟩ := hcomes.backed hbefore
    obtain ⟨hconfig, hstatus⟩ := hsaved fun exchange hmem =>
      hwritten exchange (List.mem_append_right _ hmem)
    rw [Store.after_append]
    exact ⟨c, hreaches, hbacked.config _ hconfig, hbacked.status _ hstatus, hcomes.counted, hcomes.closed⟩

/-- A deep sleep that comes back is found in storage when the timed sleep in its place begins. -/
theorem stored_before_stop_closingSeen :
    ∃ earlier before first call answer rest control after last c,
      Run none (earlier ++ [.tick before (first ++ ⟨call, answer⟩ :: rest) control after]) last ∧
      call = .timedSleep 3605 ⟨true, true, true⟩ ∧ CameBack first ∧
      Reaches (Controller.tick.run before) first call (fun answer => (Controller.resume call answer).run c) ∧
      (Stage.blank.store.after (callsOf earlier ++ first)).Holds c.config.value ∧
      (Stage.blank.store.after (callsOf earlier ++ first)).Holds c.status.value ∧
      c.status.value.alert.shows (· == .sleepFault) = true := by
  have hsome : (play closingSeen .blank).2.controller.isSome = true := by decide +kernel
  obtain ⟨before, hbefore⟩ := Option.isSome_iff_exists.mp hsome
  let env := Devices.aroundDeepSleep (Devices.sinceSix 57602 false).comingBack (.sinceSix 86401 false)
  have hfacts : ∀ c ∈ (play closingSeen .blank).2.controller,
      (((Controller.tick.run c).trace env false).drop 12).head?.map Exchange.call =
          some (.timedSleep 3605 ⟨true, true, true⟩) ∧
        CameBack (((Controller.tick.run c).trace env false).take 12) ∧
        (play closingSeen .blank).2.store.Honest (((Controller.tick.run c).trace env false).take 12) ∧
        (∀ exchange ∈ ((Controller.tick.run c).trace env false).take 12, exchange.failedWrite = none) ∧
        (((play closingSeen .blank).2.store.after (((Controller.tick.run c).trace env false).take 12)).found :
          RuntimeStatus).alert.shows (· == .sleepFault) = true := by decide +kernel
  obtain ⟨hcall, hback, htick, hticked, hfound⟩ := hfacts before hbefore
  obtain ⟨pins, rest, hsplit⟩ := split_at_call hcall
  have hpath := (Controller.tick.run before).path_run env false
  rw [hsplit] at hpath
  obtain ⟨hrun, hserves⟩ := run_play closingSeen .blank
  rw [hbefore] at hrun
  obtain ⟨hhonest, hstore, hwritten⟩ := hserves.honest
  have hall := Run.concat_iff.mpr ⟨_, hrun, .tick hpath⟩
  rw [← hstore] at htick hfound
  rw [← Store.after_append] at hfound
  obtain ⟨c, hreaches, hconfig, hstatus, _⟩ := stored_before_stop hall rfl (Store.honest_append.mpr ⟨hhonest, htick⟩)
    (List.forall_mem_append.mpr ⟨hwritten, hticked⟩)
  rw [hstatus.found_eq] at hfound
  exact ⟨_, before, _, _, pins, rest, _, _, _, c, hall, rfl, hback, hreaches, hconfig, hstatus, hfound⟩

end FieldCounter
