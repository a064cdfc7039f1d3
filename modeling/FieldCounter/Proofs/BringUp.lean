import FieldCounter.Proofs.Path
import FieldCounter.Sensor.Manager

/-!
# What the sensor manager asks of its driver

Every operation of the manager is a short dialogue with the driver, and what becomes of the manager depends on the
answers alone. Here each dialogue is told once, with all the ways it can go; laws about the operations are read off
from these.
-/

namespace FieldCounter

namespace SensorManager

variable {manager next : SensorManager} {model : SensorModel} {left : Nat} {calls : List Exchange} {ready : Bool}

/-- Attempts to bring the sensor up: the first one that leaves it ready is the last one. -/
inductive Attempts : (left : Nat) → List Exchange → (ready : Bool) → Prop where
  | exhausted : Attempts 0 [] false
  | succeeds {left : Nat} : Attempts (left + 1) [⟨.initSensor, true⟩, ⟨.isSensorReady, true⟩] true
  | silent {left : Nat} {rest : List Exchange} {ready : Bool} : Attempts left rest ready →
      Attempts (left + 1) (⟨.initSensor, false⟩ :: rest) ready
  | unready {left : Nat} {rest : List Exchange} {ready : Bool} : Attempts left rest ready →
      Attempts (left + 1) (⟨.initSensor, true⟩ :: ⟨.isSensorReady, false⟩ :: rest) ready

/-- Whatever the driver answers, bringing the sensor up is a row of attempts. -/
theorem ensures_attempts (model : SensorModel) (left : Nat) : (bringUp model left).Ensures (Attempts left) := by
  induction left with
  | zero => exact Program.ensures_logged_bind.mpr (Program.ensures_pure.mpr .exhausted)
  | succ left ih =>
    refine Program.ensures_bind.mpr (Program.ensures_and.mpr (Program.ensures_call.mpr fun responded => ?_))
    cases responded with
    | false => exact Program.ensures_logged_bind.mpr (ih.mono fun _ _ => .silent)
    | true =>
      rw [if_pos rfl]
      refine Program.ensures_call.mpr fun ready => ?_
      cases ready with
      | false => exact Program.ensures_logged_bind.mpr (ih.mono fun _ _ => .unready)
      | true => exact Program.ensures_logged_bind.mpr (Program.ensures_pure.mpr .succeeds)

/-- Having a driver for the model. -/
inductive Installs (manager : SensorManager) (model : SensorModel) : List Exchange → SensorManager → Prop where
  | same : manager.driver.map (·.code) = some model.code → Installs manager model [] manager
  | replaced : manager.driver.map (·.code) ≠ some model.code →
      Installs manager model [⟨.buildSensor model, ()⟩] { driver := some model }

/-- Installing a driver for a model is nothing else than having one for it. -/
theorem ensures_installs (manager : SensorManager) (model : SensorModel) :
    (manager.install model).Ensures (Installs manager model) := by
  refine Program.ensures_ite.mpr ⟨fun hsame => Program.ensures_pure.mpr (.same hsame), fun hother => ?_⟩
  refine Program.ensures_logged_bind.mpr (Program.ensures_bind.mpr (Program.ensures_call.mpr fun _ => ?_))
  exact Program.ensures_pure.mpr (.replaced hother)

/-- Afterwards there is a driver. -/
theorem Installs.driver_ne_none (h : manager.Installs model calls next) : next.driver ≠ none := by
  cases h with
  | same hsame =>
    intro hnone
    rw [hnone] at hsame
    cases hsame
  | replaced => exact Option.some_ne_none model

/-- Having the driver in use powered and ready. -/
inductive Readies (manager : SensorManager) : List Exchange → (ready : Bool) → SensorManager → Prop where
  | wasReady : manager.powered = true → Readies manager [⟨.isSensorReady, true⟩] true manager
  /-- The sensor was up, but is not ready any more. -/
  | lost {trying : List Exchange} {ready : Bool} : manager.powered = true →
      Attempts sensorAttempts trying ready →
      Readies manager (⟨.isSensorReady, false⟩ :: trying) ready { manager with powered := ready }
  | tries {trying : List Exchange} {ready : Bool} : manager.powered = false →
      Attempts sensorAttempts trying ready → Readies manager trying ready { manager with powered := ready }

/-- Being brought up does not change the driver. -/
theorem Readies.driver_eq (h : manager.Readies calls ready next) : next.driver = manager.driver := by
  cases h <;> rfl

/-- The manager takes the sensor for powered exactly where it came up ready. -/
theorem Readies.powered_eq (h : manager.Readies calls ready next) : next.powered = ready := by
  cases h with
  | wasReady hpowered => exact hpowered
  | lost | tries => rfl

/-- A driver for the type code is there, and then it is brought up. -/
theorem ensures_ensureReady_parts (manager : SensorManager) (code : UInt8) :
    (manager.ensureReady code).Ensures fun trace result => ∃ building installed readying,
      manager.Installs (SensorModel.lookup code).value building installed ∧
        installed.Readies readying result.1 result.2 ∧ trace = building ++ readying := by
  refine Program.ensures_logged_bind.mpr (Program.ensures_bind.mpr ?_)
  refine (ensures_installs manager _).mono fun building installed hinstalls => ?_
  have htries : ∀ looking, (∀ trying ready, Attempts sensorAttempts trying ready →
      installed.Readies (looking ++ trying) ready { installed with powered := ready }) →
      (bringUp (SensorModel.lookup code).value sensorAttempts >>= fun ready =>
        (pure (ready, { installed with powered := ready }) : Program (Bool × SensorManager))).Ensures
          fun trace result => ∃ other between readying,
            manager.Installs (SensorModel.lookup code).value other between ∧
              between.Readies readying result.1 result.2 ∧ building ++ (looking ++ trace) = other ++ readying := by
    intro looking hreadies
    refine Program.ensures_bind.mpr ((ensures_attempts _ _).mono fun trying ready htrying => ?_)
    refine Program.ensures_pure.mpr ⟨building, installed, _, hinstalls, hreadies trying ready htrying, ?_⟩
    rw [List.append_nil]
  refine Program.ensures_bind.mpr (Program.ensures_and.mpr (Program.ensures_pure.mpr ?_))
  cases hpowered : installed.powered with
  | false => exact htries [] fun trying ready htrying => .tries hpowered htrying
  | true =>
    rw [if_pos rfl]
    refine Program.ensures_call.mpr fun ready => ?_
    cases ready with
    | true => exact Program.ensures_pure.mpr ⟨building, installed, _, hinstalls, .wasReady hpowered, rfl⟩
    | false => exact htries [⟨.isSensorReady, false⟩] fun trying ready htrying => .lost hpowered htrying

/-- Letting the driver in use wake up by itself. -/
inductive Wakes (manager : SensorManager) : List Exchange → SensorManager → Prop where
  | skipped : manager.driver = none ∨ manager.powered = true → Wakes manager [] manager
  | silent : manager.driver ≠ none → manager.powered = false → Wakes manager [⟨.wakeSensor, false⟩] manager
  | unready : manager.driver ≠ none → manager.powered = false →
      Wakes manager [⟨.wakeSensor, true⟩, ⟨.isSensorReady, false⟩] manager
  | awake : manager.driver ≠ none → manager.powered = false →
      Wakes manager [⟨.wakeSensor, true⟩, ⟨.isSensorReady, true⟩] { manager with powered := true }

/-- Whatever the driver answers, waking it goes one of these ways. -/
theorem ensures_wakes (manager : SensorManager) : manager.wake.Ensures (Wakes manager) := by
  refine Program.ensures_ite.mpr ⟨fun hskip => Program.ensures_pure.mpr (.skipped ?_), fun hdown => ?_⟩
  · simpa using hskip
  obtain ⟨hdriver, hpowered⟩ : manager.driver ≠ none ∧ manager.powered = false := by simpa using hdown
  refine Program.ensures_bind.mpr (Program.ensures_and.mpr (Program.ensures_call.mpr fun woke => ?_))
  cases woke with
  | false => exact Program.ensures_pure.mpr (.silent hdriver hpowered)
  | true =>
    rw [if_pos rfl]
    refine Program.ensures_call.mpr fun ready => ?_
    cases ready with
    | false => exact Program.ensures_pure.mpr (.unready hdriver hpowered)
    | true => exact Program.ensures_logged_bind.mpr (Program.ensures_pure.mpr (.awake hdriver hpowered))

/-- The driver in use wakes up, and then there is one for the type code that is brought up. -/
theorem ensures_powerUp_parts (manager : SensorManager) (code : UInt8) :
    (manager.powerUp code).Ensures fun trace result => ∃ waking woken building installed readying,
      manager.Wakes waking woken ∧ woken.Installs (SensorModel.lookup code).value building installed ∧
        installed.Readies readying result.1 result.2 ∧ trace = waking ++ (building ++ readying) := by
  refine Program.ensures_bind.mpr ((ensures_wakes manager).mono fun waking woken hwakes => ?_)
  refine (woken.ensures_ensureReady_parts code).mono ?_
  rintro _ result ⟨building, installed, readying, hinstalls, hreadies, rfl⟩
  exact ⟨waking, woken, building, installed, readying, hwakes, hinstalls, hreadies, rfl⟩

/-- Powering the sensor down. -/
inductive GoesDown (manager : SensorManager) : List Exchange → SensorManager → Prop where
  | wasDown : manager.driver = none ∨ manager.powered = false → GoesDown manager [] manager
  | sleeps : manager.driver ≠ none → manager.powered = true →
      GoesDown manager [⟨.sleepSensor, ()⟩] { manager with powered := false }

/-- Powering down goes one of these ways. -/
theorem ensures_goesDown (manager : SensorManager) : manager.powerDown.Ensures (GoesDown manager) := by
  refine Program.ensures_ite.mpr ⟨fun hdown => Program.ensures_pure.mpr (.wasDown ?_), fun hup => ?_⟩
  · simpa using hdown
  obtain ⟨hdriver, hpowered⟩ : manager.driver ≠ none ∧ manager.powered = true := by simpa using hup
  refine Program.ensures_bind.mpr (Program.ensures_call.mpr fun _ => Program.ensures_logged_bind.mpr ?_)
  exact Program.ensures_pure.mpr (.sleeps hdriver hpowered)

/-- Looking for a detection. -/
inductive Polls (manager : SensorManager) : List Exchange → Bool → Prop where
  | down : Polls manager [] false
  | interrupts : manager.powered = true → Polls manager [⟨.sensorUsesInterrupt, true⟩] false
  | polls (found : Bool) : manager.powered = true →
      Polls manager [⟨.sensorUsesInterrupt, false⟩, ⟨.pollSensor, found⟩] found

/-- Polling goes one of these ways, whatever the driver answers. -/
theorem ensures_polls (manager : SensorManager) : manager.poll.Ensures (Polls manager) := by
  refine Program.ensures_and.mpr (Program.ensures_pure.mpr ?_)
  cases hup : (manager.driver.isSome && manager.powered) with
  | false => exact .down
  | true =>
    have hpowered : manager.powered = true := (Bool.and_eq_true_iff.mp hup).2
    refine Program.ensures_and.mpr (Program.ensures_map.mpr (Program.ensures_call.mpr fun interrupts => ?_))
    cases interrupts with
    | true => exact .interrupts hpowered
    | false =>
      rw [Bool.not_false, if_pos rfl]
      exact Program.ensures_call.mpr fun found => .polls found hpowered

/-- Taking a sample. -/
inductive Samples (manager : SensorManager) : List Exchange → Option SensorSample → Prop where
  | down : Samples manager [] none
  | reads (sample : SensorSample) : manager.powered = true →
      Samples manager [⟨.readSensor, sample⟩] (some sample)

/-- So does sampling. -/
theorem ensures_samples (manager : SensorManager) : manager.sample.Ensures (Samples manager) := by
  refine Program.ensures_ite.mpr ⟨fun hup => ?_, fun _ => Program.ensures_pure.mpr .down⟩
  have hpowered : manager.powered = true := (Bool.and_eq_true_iff.mp hup).2
  refine Program.ensures_bind.mpr (Program.ensures_call.mpr fun sample => ?_)
  exact Program.ensures_pure.mpr (.reads sample hpowered)

end SensorManager

end FieldCounter
