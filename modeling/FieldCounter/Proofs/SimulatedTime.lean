import Mathlib.Data.Nat.Find
import Mathlib.Logic.Function.Iterate
import FieldCounter.Proofs.Script
import FieldCounter.Proofs.WaysOnline
import FieldCounter.Simulator.Run

/-!
# Simulated time

A round that ends in a restart need not take any time, so the clock alone does not show that a simulation ends. But a
device that has just booted does not restart in its first tick. So of two rounds in a row one at least goes on, and
takes a second besides what was slept, and as nothing sets the clock back, two rounds a second are enough.
-/

namespace FieldCounter

open Program (Path)

/-- The first tick of a boot does not end in a restart, whatever the devices answer. -/
theorem Controller.proceeds_of_initialization {c after : Controller} {calls : List Exchange} {control : Control}
    (h : Path (tick.run c) calls (control, after)) (hstate : c.runState = .initialization) : control = .proceed := by
  obtain ⟨moment, marked, polling, polled, middle, outcome, carried, closing, _, hcarry, _, rfl, _⟩ := tick_parts h
  obtain ⟨_, _, _, _, rfl⟩ := ensures_startUp moment (work_of_opened hcarry hstate)
  rfl

/-- A boot ends in the initial state. -/
theorem Controller.runState_of_boot {c : Controller} {calls : List Exchange} (h : Path boot calls c) :
    c.runState = .initialization := by
  obtain ⟨_, _, _, _, _, _, _, _, _, rfl⟩ := boot_cases h
  rfl

namespace Simulator

/-! ## The clock -/

namespace World

variable {α : Type}

/-- Time does not run backwards. -/
theorem le_now_advance (world : World) (ms : Nat) : world.now ≤ (world.advance ms).now := Nat.le_add_right ..

/-- A second or more moves the clock on. -/
theorem now_lt_advance (world : World) {ms : Nat} (h : 1000 ≤ ms) : world.now < (world.advance ms).now := by
  simp only [advance]
  omega

/-- A note takes no time. -/
@[simp] theorem now_keep (world : World) (note : Note) : (world.keep note).now = world.now := by
  unfold keep
  split <;> rfl

/-- A remark takes no time. -/
@[simp] theorem now_remark (world : World) (level : Level) (text : String) :
    (world.remark level text).now = world.now := now_keep ..

/-- A sleep does not set the clock back. -/
theorem le_now_sleepInPlace (world : World) (secs : Nat) (wake : WakeSources) :
    world.now ≤ (world.sleepInPlace secs wake).2.now := by
  unfold sleepInPlace
  extract_lets slept
  split <;> exact le_now_advance _ _

/-- No device sets the clock back. -/
theorem le_now_answer (call : Call) (world : World) : world.now ≤ (answer call world).2.now := by
  cases call with
  | timedSleep secs wake => exact world.le_now_sleepInPlace secs wake
  | deepSleep secs wake => exact le_now_advance _ _
  | requestConnect =>
    simp only [answer, requestConnect]
    split <;> simp
  | publishStatus snapshot => simp [answer, publishStatus]
  | buildSensor model => simp [answer]
  | _ => exact Nat.le_refl _

/-- No program sets it back, whatever it does. -/
theorem le_now_run (x : Program α) (world : World) : world.now ≤ (x.run environment world).2.now := by
  induction x generalizing world with
  | done a => exact Nat.le_refl _
  | ask call next ih => exact Nat.le_trans (le_now_answer call world) (ih _ _)
  | log note rest ih => exact Nat.le_trans (Nat.le_of_eq (now_keep world note).symm) (ih _)

end World

/-! ## A round -/

namespace Simulation

/-- The tick of the next round: what it ends in, and the controller and the devices after it. -/
def ticked (simulation : Simulation) : (Control × Controller) × World :=
  (Controller.tick.run simulation.controller).run World.environment (prepare simulation.world)

/-- What the next round ends in. -/
def control (simulation : Simulation) : Control := simulation.ticked.1.1

/-- The next round once its tick is over and an alert was noted. -/
def watched (simulation : Simulation) : Simulation :=
  let world := simulation.ticked.2
  { simulation with
    world := { world with radio := world.radio.observe world.uptimeMs }
    controller := simulation.ticked.1.2 }.watchAlert

/-- A round is its tick, and then the time to the next one or a reboot. -/
theorem round_eq (simulation : Simulation) :
    simulation.round =
      match simulation.control with
      | .proceed => { simulation.watched with world := simulation.watched.world.advance tickMs }
      | .restart => simulation.watched.reboot := rfl

variable {simulation : Simulation}

/-- Noting an alert takes no time. -/
@[simp] theorem now_watchAlert (simulation : Simulation) : simulation.watchAlert.world.now = simulation.world.now := by
  unfold watchAlert
  extract_lets slot
  split
  · rfl
  · split
    · exact World.now_remark ..
    · rfl

/-- A tick does not set the clock back. -/
theorem le_now_watched (simulation : Simulation) : simulation.world.now ≤ simulation.watched.world.now := by
  rw [watched, now_watchAlert]
  exact World.le_now_run _ (prepare simulation.world)

/-- Neither does a reboot. -/
theorem le_now_reboot (simulation : Simulation) : simulation.world.now ≤ simulation.reboot.world.now :=
  World.le_now_run Controller.boot { simulation.world with uptimeMs := 0, radio := simulation.world.radio.losePower }

/-- After a reboot the device is in the initial state. -/
theorem runState_reboot (simulation : Simulation) : simulation.reboot.controller.runState = .initialization :=
  Controller.runState_of_boot (Controller.boot.path_run World.environment
    { simulation.world with uptimeMs := 0, radio := simulation.world.radio.losePower })

/-- A round whose tick restarts the device ends with a reboot. -/
theorem round_of_restart (h : simulation.control = .restart) : simulation.round = simulation.watched.reboot := by
  rw [round_eq, h]

/-- A round that goes on takes time. -/
theorem now_lt_round (h : simulation.control = .proceed) : simulation.world.now < simulation.round.world.now := by
  rw [round_eq, h]
  exact Nat.lt_of_le_of_lt simulation.le_now_watched (World.now_lt_advance _ (Nat.le_refl _))

/-- No round sets the clock back. -/
theorem le_now_round (simulation : Simulation) : simulation.world.now ≤ simulation.round.world.now := by
  cases h : simulation.control with
  | proceed => exact Nat.le_of_lt (now_lt_round h)
  | restart =>
    rw [round_of_restart h]
    exact Nat.le_trans simulation.le_now_watched simulation.watched.le_now_reboot

/-- After a restart the device has just booted. -/
theorem runState_of_restart (h : simulation.control = .restart) :
    simulation.round.controller.runState = .initialization := by
  rw [round_of_restart h]
  exact simulation.watched.runState_reboot

/-- A simulation starts in the initial state. -/
theorem runState_start (options : Options) (filter : LogFilter) :
    (start options filter).controller.runState = .initialization :=
  Controller.runState_of_boot (Controller.boot.path_run World.environment _)

/-- The first boot does not set the clock back. -/
theorem startTime_le_start (options : Options) (filter : LogFilter) :
    startTime ≤ (start options filter).world.now := by
  refine Nat.le_trans (Nat.le_of_eq ?_) (World.le_now_run Controller.boot _)
  exact (World.now_remark { filter, remote := options.remote } _ _).symm

/-- A device that has just booted goes on. -/
theorem control_of_initialization (h : simulation.controller.runState = .initialization) :
    simulation.control = .proceed :=
  Controller.proceeds_of_initialization
    ((Controller.tick.run simulation.controller).path_run World.environment (prepare simulation.world)) h

/-! ## All rounds -/

/-- The simulation after so many rounds. -/
def after (options : Options) (filter : LogFilter) (rounds : Nat) : Simulation := round^[rounds] (start options filter)

variable {options : Options} {filter : LogFilter}

/-- The last round is the one that is simulated last. -/
theorem after_succ (rounds : Nat) : after options filter (rounds + 1) = (after options filter rounds).round :=
  Function.iterate_succ_apply' ..

/-- After so many rounds half as many seconds are over, but for one round that a boot may have taken besides. -/
structure Paced (simulation : Simulation) (rounds : Nat) : Prop where
  most : 2 * startTime + rounds ≤ 2 * simulation.world.now + 1
  ahead : 2 * simulation.world.now < 2 * startTime + rounds → simulation.controller.runState = .initialization

/-- A round keeps the pace, since the round after a reboot does not end with another one. -/
theorem Paced.round {rounds : Nat} (h : simulation.Paced rounds) : simulation.round.Paced (rounds + 1) := by
  cases hcontrol : simulation.control with
  | proceed =>
    have htime := now_lt_round hcontrol
    have hmost := h.most
    exact ⟨by omega, by omega⟩
  | restart =>
    -- the round before was no restart, so there is a round to spare
    have hlate : ¬2 * simulation.world.now < 2 * startTime + rounds := by
      intro hahead
      cases hcontrol.symm.trans (control_of_initialization (h.ahead hahead))
    have htime := simulation.le_now_round
    exact ⟨by omega, fun _ => runState_of_restart hcontrol⟩

/-- So the pace is kept over any number of rounds. -/
theorem paced_after (rounds : Nat) : (after options filter rounds).Paced rounds := by
  induction rounds with
  | zero =>
    refine ⟨?_, fun _ => runState_start options filter⟩
    exact Nat.le_succ_of_le (Nat.mul_le_mul_left 2 (startTime_le_start options filter))
  | succ rounds ih =>
    rw [after_succ]
    exact ih.round

/-- After as many rounds as a simulation can take, it is over. -/
theorem finishTime_le_after (days : Nat) : finishTime days ≤ (after options filter (maxRounds days)).world.now := by
  have hpaced : (after options filter (maxRounds days)).Paced (maxRounds days) := paced_after _
  have hmost := hpaced.most
  have hrounds : maxRounds days = 2 * (days * secsPerDay) + 1 := by rw [maxRounds, Nat.mul_assoc]
  have hfinish : finishTime days = startTime + days * secsPerDay := rfl
  omega

/-- Rounds are run until the clock has reached the end, where so many are enough for that. -/
theorem roundsUntil_eq_iterate {finish rounds left : Nat} (hleft : rounds ≤ left)
    (hbefore : ∀ earlier < rounds, (round^[earlier] simulation).world.now < finish)
    (hfinish : finish ≤ (round^[rounds] simulation).world.now) :
    roundsUntil finish left simulation = round^[rounds] simulation := by
  induction left generalizing rounds simulation with
  | zero =>
    obtain rfl := Nat.le_zero.mp hleft
    rfl
  | succ left ih =>
    rw [roundsUntil]
    cases rounds with
    | zero => exact if_neg (Nat.not_lt.mpr hfinish)
    | succ rounds =>
      have hfirst : simulation.world.now < finish := hbefore 0 (Nat.succ_pos rounds)
      rw [if_pos hfirst, Function.iterate_succ_apply]
      refine ih (Nat.le_of_succ_le_succ hleft) (fun earlier hearlier => ?_) hfinish
      exact hbefore (earlier + 1) (Nat.succ_lt_succ hearlier)

/-- Every simulation finishes: no two rounds in a row end in a restart, a round that goes on takes time, no round sets
the clock back, and so the end is reached, within two rounds for each second that is simulated. -/
theorem run_finishes (options : Options) (filter : LogFilter) :
    (∀ rounds, (after options filter rounds).control = .restart →
      (after options filter (rounds + 1)).control = .proceed) ∧
    (∀ rounds, (after options filter rounds).control = .proceed →
      (after options filter rounds).world.now < (after options filter (rounds + 1)).world.now) ∧
    (∀ rounds, (after options filter rounds).world.now ≤ (after options filter (rounds + 1)).world.now) ∧
    ∃ rounds ≤ 2 * options.days * secsPerDay + 1,
      (∀ earlier < rounds, (after options filter earlier).world.now < finishTime options.days) ∧
      finishTime options.days ≤ (after options filter rounds).world.now ∧
      run options filter = after options filter rounds := by
  refine ⟨fun rounds hrestart => ?_, fun rounds hproceed => ?_, fun rounds => ?_, ?_⟩
  · rw [after_succ]
    exact control_of_initialization (runState_of_restart hrestart)
  · rw [after_succ]
    exact now_lt_round hproceed
  · rw [after_succ]
    exact le_now_round _
  · have hends : ∃ rounds, finishTime options.days ≤ (after options filter rounds).world.now :=
      ⟨_, finishTime_le_after options.days⟩
    have hmost : Nat.find hends ≤ maxRounds options.days := Nat.find_min' hends (finishTime_le_after options.days)
    have hbefore : ∀ earlier < Nat.find hends, (after options filter earlier).world.now < finishTime options.days :=
      fun earlier hearlier => Nat.not_le.mp (Nat.find_min hends hearlier)
    exact ⟨Nat.find hends, hmost, hbefore, Nat.find_spec hends,
      roundsUntil_eq_iterate hmost hbefore (Nat.find_spec hends)⟩

end Simulation

end Simulator

end FieldCounter
