import FieldCounter.Proofs.Script
import FieldCounter.Proofs.SensorTick

/-!
# When the sensor is up

The device relies on its sensor while it idles in open hours, and in a timed sleep that the sensor may
end. But it tries to bring the sensor up only when it starts, and when it wakes, and only if it is open
at that moment. Open hours that begin at another time bring nothing up, and neither does a deep sleep
that comes back.
-/

namespace FieldCounter

open Program (Path)

/-- The tick starts or wakes at a moment at which the device is open. -/
def Event.BringsUp : Event → Prop
  | .tick before calls _ _ => ∃ moment, before.isOpen moment = true ∧ before.ResumesAt calls moment
  | .boot _ _ | .raise _ _ => False

/-- The sensor is off after the event because of it: a boot, or a tick that powers the sensor down and
does not bring it up again. -/
def Event.LeavesOff : Event → Prop
  | .boot _ _ => True
  | .tick before calls control after => PowersDown calls ∧ ¬(Event.tick before calls control after).BringsUp
  | .raise _ _ => False

/-- The sensor is off where it has been since a boot or a sleep; nothing but starting or waking at a
moment at which the device is open brings it up. -/
theorem Run.sensorSupply_iff {history : List Event} {last : Option Controller} (hrun : Run none history last) :
    ∀ c ∈ last, (sensorSupply history).Known c.sensors ∧
      (sensorSupply history = .off ↔ Since Event.LeavesOff (fun event => ¬event.BringsUp) history) := by
  refine hrun.invariant_of_controller (I := fun history c => (sensorSupply history).Known c.sensors ∧
    (sensorSupply history = .off ↔ Since Event.LeavesOff (fun event => ¬event.BringsUp) history)) ?_ ?_ ?_
  · intro earlier trace c hpath
    obtain ⟨_, _, _, _, _, _, _, _, _, rfl⟩ := boot_cases hpath
    rw [sensorSupply_concat, since_concat_iff]
    simp [Supply.after, Supply.Known, Controller.ofRecords, Event.LeavesOff]
  · rintro earlier before calls after hpath ⟨hknown, hoff⟩
    rw [sensorSupply_concat, since_concat_iff, Supply.after]
    refine ⟨Controller.known_of_tick hpath hknown, ?_⟩
    rw [(Controller.sensorTick_of_tick hpath).supply_eq_off_iff, hoff]
    simp only [Event.LeavesOff, Event.BringsUp]
    tauto
  · rintro earlier c alert now ⟨hknown, hoff⟩
    rw [sensorSupply_concat, since_concat_iff, Supply.after]
    refine ⟨hknown, ?_⟩
    rw [hoff]
    exact ⟨fun hsince => .inr ⟨id, hsince⟩, fun h => h.elim False.elim And.right⟩

/-- The device relies on the sensor, the calls of a tick made so far: while it idles in open hours, and
as it goes into a sleep that the sensor may end. -/
inductive Controller.ReliesOnSensor (before : Controller) : (calls sofar : List Exchange) → Prop where
  | idling {moment : Moment} {rest : List Exchange} : before.runState = .idle → before.isOpen moment = true →
      ReliesOnSensor before (⟨.readClock, moment⟩ :: rest) []
  | armed {sofar rest : List Exchange} {secs : Nat} {wake : WakeSources} {pins : WakePins} :
      wake.sensor = true → ReliesOnSensor before (sofar ++ ⟨.timedSleep secs wake, pins⟩ :: rest) sofar

/-- Where the device relies on the sensor, the sensor is up, or the last attempt of the boot to bring
it up failed, with one exception: no tick has started or woken in open hours since the boot or since
the sensor was powered down, or a deep sleep powered it down that came back in this very tick. -/
theorem sensor_off_iff {earlier : List Event} {before after : Controller} {calls sofar : List Exchange}
    {control : Control} {last : Option Controller}
    (hrun : Run none (earlier ++ [.tick before calls control after]) last)
    (hrelies : before.ReliesOnSensor calls sofar) :
    (before.sensors.powered = true ↔ sensorSupply earlier = .up) ∧
      (sofar.foldl Supply.next (sensorSupply earlier) = .off ↔
        Since Event.LeavesOff (fun event => ¬event.BringsUp) earlier ∨ PowersDown sofar) ∧
      (PowersDown sofar → CameBack sofar) := by
  obtain ⟨between, hearlier, hleads⟩ := Run.concat_iff.mp hrun
  cases hleads with
  | tick hpath =>
    obtain ⟨hknown, hoff⟩ := hearlier.sensorSupply_iff before rfl
    refine ⟨hknown.symm, ?_⟩
    cases hrelies with
    | idling hstate hopen => simp [hoff, PowersDown]
    | armed hsensor =>
      obtain ⟨hdark, harmed⟩ := (Controller.sensorTick_of_tick hpath).of_timedSleep
      exact ⟨by rw [hdark.supply_eq_off_iff, hoff, or_comm], harmed hsensor⟩

/-- Devices of which nothing is amiss, so many seconds after one second before six in the morning. -/
def Devices.sinceSix (secs : Nat) (online : Bool) : Devices :=
  .ordinary { now := 1699941599 + UInt32.ofNat secs, uptimeMs := UInt64.ofNat (secs * 1000), valid := true,
              utcOffset := 0 } online

/-- A device that boots just before it opens at six, reports, and comes online. -/
def openingMissed : List Scene :=
  [.boot (.sinceSix 0 false), .tick (.sinceSix 0 false), .tick (.sinceSix 1 false), .tick (.sinceSix 2 false),
    .tick (.sinceSix 3 true)]

/-- At noon it idles in open hours, with its sensor down. -/
theorem idles_after_openingMissed :
    ∃ before calls control after last,
      Run none ((play openingMissed .blank).1 ++ [.tick before calls control after]) last ∧
      before.ReliesOnSensor calls [] ∧ before.sensors.powered = false := by
  have hsome : (play openingMissed .blank).2.controller.isSome = true := by decide +kernel
  obtain ⟨before, hbefore⟩ := Option.isSome_iff_exists.mp hsome
  let devices := Devices.sinceSix 21601 true
  have hfacts : ∀ c ∈ (play openingMissed .blank).2.controller, c.runState = .idle ∧
      c.isOpen (devices .readClock) = true ∧ c.sensors.powered = false := by decide +kernel
  obtain ⟨hidle, hopen, hdown⟩ := hfacts before hbefore
  obtain ⟨hrun, _⟩ := run_play (openingMissed ++ [.tick devices]) .blank
  rw [play_concat_tick hbefore devices] at hrun
  exact ⟨before, _, _, _, _, hrun, .idling hidle hopen, hdown⟩

/-- Nothing has brought the sensor up since the boot. -/
theorem sensor_off_iff_openingMissed :
    ∃ earlier before calls control after last, Run none (earlier ++ [.tick before calls control after]) last ∧
      before.ReliesOnSensor calls [] ∧ sensorSupply earlier = .off ∧
      Since Event.LeavesOff (fun event => ¬event.BringsUp) earlier := by
  obtain ⟨before, calls, control, after, last, hrun, hrelies, _⟩ := idles_after_openingMissed
  have hoff : sensorSupply (play openingMissed .blank).1 = .off := by decide +kernel
  obtain ⟨_, hiff, _⟩ := sensor_off_iff hrun hrelies
  rw [List.foldl_nil] at hiff
  have hsince := (hiff.mp hoff).resolve_right (by simp [PowersDown])
  exact ⟨_, before, calls, control, after, last, hrun, hrelies, hoff, hsince⟩

/-- Devices that answer from one table before a deep sleep and from another one after it. -/
def Devices.aroundDeepSleep (early late : Devices) : Environment Bool where
  answer := fun call slept => (if slept then late call else early call, slept || call.isDeepSleep)
  log := fun _ slept => slept

/-- Calls of which one is known fall into those before it, itself with an answer, and those after it. -/
theorem split_at_call {calls : List Exchange} {n : Nat} {call : Call}
    (h : (calls.drop n).head?.map Exchange.call = some call) :
    ∃ answer rest, calls = calls.take n ++ ⟨call, answer⟩ :: rest := by
  obtain ⟨⟨found, answer⟩, hhead, hfound⟩ := Option.map_eq_some_iff.mp h
  subst hfound
  obtain ⟨rest, hrest⟩ := List.head?_eq_some_iff.mp hhead
  exact ⟨answer, rest, by rw [← hrest, List.take_append_drop]⟩

/-- A device that boots just before it closes at ten in the evening, and is to sleep. -/
def closingSeen : List Scene :=
  [.boot (.sinceSix 57599 false), .tick (.sinceSix 57599 false), .tick (.sinceSix 57601 false)]

/-- In open hours a device idles at noon with its sensor down, without one attempt to bring it up; and
another one, whose deep sleep comes back as it opens, sleeps until its sensor detects something, having
brought the sensor up in the evening and powered it down since. -/
theorem opening_leaves_sensor_off :
    (∃ earlier before calls control after last, Run none (earlier ++ [.tick before calls control after]) last ∧
      before.ReliesOnSensor calls [] ∧ before.sensors.powered = false ∧
      ∀ exchange ∈ callsOf earlier, exchange.call.isBringUp = false) ∧
    ∃ earlier before first secs pins rest control after last,
      Run none (earlier ++
        [.tick before (first ++ ⟨.timedSleep secs ⟨true, true, true⟩, pins⟩ :: rest) control after]) last ∧
      before.sensors.powered = true ∧ first.foldl Supply.next (sensorSupply earlier) = .off := by
  constructor
  · obtain ⟨before, calls, control, after, last, hrun, hrelies, hdown⟩ := idles_after_openingMissed
    have hnone : ∀ exchange ∈ callsOf (play openingMissed .blank).1, exchange.call.isBringUp = false := by
      decide +kernel
    exact ⟨_, before, calls, control, after, last, hrun, hrelies, hdown, hnone⟩
  · have hsome : (play closingSeen .blank).2.controller.isSome = true := by decide +kernel
    obtain ⟨before, hbefore⟩ := Option.isSome_iff_exists.mp hsome
    let env := Devices.aroundDeepSleep (Devices.sinceSix 57602 false).comingBack (.sinceSix 86401 false)
    have hfacts : ∀ c ∈ (play closingSeen .blank).2.controller, c.sensors.powered = true ∧
        (((Controller.tick.run c).trace env false).drop 12).head?.map Exchange.call =
          some (.timedSleep 3605 ⟨true, true, true⟩) ∧
        (((Controller.tick.run c).trace env false).take 12).foldl Supply.next
          (sensorSupply (play closingSeen .blank).1) = .off := by decide +kernel
    obtain ⟨hpowered, hcall, hoff⟩ := hfacts before hbefore
    obtain ⟨pins, rest, hsplit⟩ := split_at_call hcall
    have hpath := (Controller.tick.run before).path_run env false
    rw [hsplit] at hpath
    obtain ⟨hrun, _⟩ := run_play closingSeen .blank
    rw [hbefore] at hrun
    exact ⟨_, before, _, 3605, pins, rest, _, _, _, Run.concat_iff.mpr ⟨_, hrun, .tick hpath⟩, hpowered, hoff⟩

end FieldCounter
