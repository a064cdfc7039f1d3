import FieldCounter.Proofs.BringUp
import FieldCounter.Proofs.Steps

/-!
# The sensor over any operations

The manager is asked to have a sensor ready, to power it up or down, to poll it and to sample it, in any order and for
any type codes, and the driver may answer as it likes: it may lose its readiness at any moment, say that it woke and
not be ready, and respond to one attempt and not to the next. What the manager keeps in mind is little, the driver in
use and whether it is powered. It is enough for a driver to be there whenever one is taken for powered, for the driver
to be one for the type asked for, and for no driver to be polled, read or sent to sleep that is not powered.
-/

namespace FieldCounter

open Program (Path)

/-! ## Operations -/

/-- What the manager is asked for. -/
inductive SensorOrder where
  | ensureReady (code : UInt8)
  | powerUp (code : UInt8)
  | powerDown
  | poll
  | sample
deriving DecidableEq, Repr

/-- The type code of the sensor that is to be ready afterwards. -/
def SensorOrder.code? : SensorOrder → Option UInt8
  | .ensureReady code | .powerUp code => some code
  | .powerDown | .poll | .sample => none

/-- What comes back. -/
inductive SensorReply where
  | ready (up : Bool)
  | poweredDown
  | detection (found : Bool)
  | sampled (sample : Option SensorSample)
deriving DecidableEq, Repr

/-- Carry out what the manager is asked for. -/
def SensorManager.perform (manager : SensorManager) : SensorOrder → Program (SensorReply × SensorManager)
  | .ensureReady code => (fun result => (.ready result.1, result.2)) <$> manager.ensureReady code
  | .powerUp code => (fun result => (.ready result.1, result.2)) <$> manager.powerUp code
  | .powerDown => (.poweredDown, ·) <$> manager.powerDown
  | .poll => (fun found => (.detection found, manager)) <$> manager.poll
  | .sample => (fun sample => (.sampled sample, manager)) <$> manager.sample

/-- One operation: the manager before and after it, the calls it makes, and what comes back. -/
structure SensorStep where
  before : SensorManager
  order : SensorOrder
  calls : List Exchange
  reply : SensorReply
  after : SensorManager

/-- All calls that the operations make, in order. -/
def sensorCalls (steps : List SensorStep) : List Exchange := steps.flatMap (·.calls)

/-- The calls of one more operation come last. -/
theorem sensorCalls_concat (steps : List SensorStep) (step : SensorStep) :
    sensorCalls (steps ++ [step]) = sensorCalls steps ++ step.calls := by
  simp [sensorCalls]

/-- The operation can be carried out by its first manager and leaves its second one. -/
inductive SensorStep.Leads : SensorStep → SensorManager → SensorManager → Prop where
  | mk {before after : SensorManager} {order : SensorOrder} {calls : List Exchange} {reply : SensorReply} :
      Path (before.perform order) calls (reply, after) → Leads ⟨before, order, calls, reply, after⟩ before after

/-- The manager can go through the operations, one after the other. -/
abbrev SensorManager.Runs : SensorManager → List SensorStep → SensorManager → Prop :=
  Steps fun manager step next => step.Leads manager next

/-! ## What the calls say -/

/-- The model for which the call builds a driver. -/
def Exchange.built : Exchange → Option SensorModel
  | ⟨.buildSensor model, _⟩ => some model
  | _ => none

/-- The models for which drivers were built, in order. -/
def builtIn (calls : List Exchange) : List SensorModel := calls.filterMap Exchange.built

/-- How often the sensor was to be initialised. -/
def initialisations (calls : List Exchange) : Nat := calls.countP (·.call == .initSensor)

/-- The drivers are listed part by part. -/
@[simp] theorem builtIn_append (first rest : List Exchange) :
    builtIn (first ++ rest) = builtIn first ++ builtIn rest :=
  List.filterMap_append

/-- Initialisations are counted part by part. -/
@[simp] theorem initialisations_append (first rest : List Exchange) :
    initialisations (first ++ rest) = initialisations first + initialisations rest :=
  List.countP_append

/-- What holds of an operation after the calls of the past. -/
structure WellHandled (past : List Exchange) (step : SensorStep) : Prop where
  /-- Where the sensor is powered, there is a driver. -/
  driven : step.after.powered = true → step.after.driver ≠ none
  /-- The driver in use is the last one that was built. -/
  owned : step.after.driver = (builtIn (past ++ step.calls)).getLast?
  /-- Only a powered sensor is polled, and only where it has just said that it does not interrupt. -/
  polled : ∀ found, ⟨.pollSensor, found⟩ ∈ step.calls →
    step.before.powered = true ∧ step.calls = [⟨.sensorUsesInterrupt, false⟩, ⟨.pollSensor, found⟩]
  /-- Only a powered sensor is read. -/
  read : ∀ sample, ⟨.readSensor, sample⟩ ∈ step.calls → step.before.powered = true
  /-- Only a powered sensor is sent to sleep. -/
  slept : ⟨.sleepSensor, ()⟩ ∈ step.calls → step.before.powered = true
  /-- Where a sensor is to be ready, the driver is one for its type, and it is a new one just where the driver before
  was for another type or there was none. -/
  driver : ∀ code, step.order.code? = some code → step.after.driver = some (SensorModel.lookup code).value ∧
    builtIn step.calls =
      if step.before.driver.map (·.code) = some (SensorModel.lookup code).value.code then []
      else [(SensorModel.lookup code).value]
  /-- Nothing else changes the driver. -/
  kept : step.order.code? = none → step.after.driver = step.before.driver ∧ builtIn step.calls = []
  /-- It is told whether the sensor is powered afterwards, which it is only if it was seen to be ready, and which it
  is not only if all attempts to initialise it were made. -/
  ready : ∀ code, step.order.code? = some code → ∃ up, step.reply = .ready up ∧
    (up = true ↔ step.after.powered = true) ∧ (up = true → ⟨.isSensorReady, true⟩ ∈ step.calls) ∧
    (up = false → initialisations step.calls = sensorAttempts)
  /-- There are no more attempts than these. -/
  attempts : initialisations step.calls ≤ sensorAttempts

/-! ## Sensor models -/

/-- Every type code stands for a model that is supported. -/
theorem SensorModel.mem_table_lookup (code : UInt8) : (lookup code).value ∈ table := by
  rw [value_lookup]
  cases h : lookup? code with
  | none => exact List.mem_cons_self
  | some model => exact List.mem_of_find?_eq_some h

/-- No two models have one code. -/
theorem SensorModel.eq_of_code_eq : ∀ first ∈ table, ∀ second ∈ table, first.code = second.code → first = second := by
  decide

namespace SensorManager

variable {manager next last : SensorManager} {model : SensorModel} {left : Nat} {trace calls past : List Exchange}
  {ready : Bool} {step : SensorStep} {code : UInt8}

/-! ## One dialogue -/

/-- The calls of a dialogue that is to bring the driver in use up, or to wake it. -/
def Rouses (calls : List Exchange) : Prop :=
  ∀ exchange ∈ calls, exchange.call = .initSensor ∨ exchange.call = .isSensorReady ∨ exchange.call = .wakeSensor

/-- Bringing a sensor up builds no driver. -/
theorem Rouses.builtIn_eq (h : Rouses calls) : builtIn calls = [] := by
  refine List.filterMap_eq_nil_iff.mpr fun exchange hmem => ?_
  obtain ⟨call, answer⟩ := exchange
  rcases h _ hmem with rfl | rfl | rfl <;> rfl

/-- The attempts make only such calls. -/
theorem Attempts.rouses (h : Attempts left calls ready) : Rouses calls := by
  induction h with
  | exhausted => exact fun _ hmem => absurd hmem List.not_mem_nil
  | succeeds => simp [Rouses]
  | silent _ ih | unready _ ih => simpa [Rouses] using ih

/-- There are no more initialisations than attempts left. -/
theorem Attempts.initialisations_le (h : Attempts left calls ready) : initialisations calls ≤ left := by
  induction h with
  | exhausted => exact Nat.zero_le _
  | succeeds => simp [initialisations]
  | silent _ ih | unready _ ih =>
    simp only [initialisations, List.countP_cons] at ih ⊢
    simpa using ih

/-- A sensor is given up once all attempts are used up. -/
theorem Attempts.initialisations_eq (h : Attempts left calls false) : initialisations calls = left := by
  generalize hfailed : false = ready at h
  induction h with
  | exhausted => rfl
  | succeeds => cases hfailed
  | silent _ ih | unready _ ih =>
    have hrest := ih hfailed
    simp only [initialisations, List.countP_cons] at hrest ⊢
    simpa using hrest

/-- A sensor that came up was found ready. -/
theorem Attempts.ready_mem (h : Attempts left calls true) : ⟨.isSensorReady, true⟩ ∈ calls := by
  generalize hready : true = ready at h
  induction h with
  | exhausted => cases hready
  | succeeds => simp
  | silent _ ih => exact List.mem_cons_of_mem _ (ih hready)
  | unready _ ih => exact List.mem_cons_of_mem _ (List.mem_cons_of_mem _ (ih hready))

/-- Waking a driver makes only such calls. -/
theorem Wakes.rouses (h : manager.Wakes calls next) : Rouses calls := by cases h <;> simp [Rouses]

/-- Waking does not change the driver. -/
theorem Wakes.driver_eq (h : manager.Wakes calls next) : next.driver = manager.driver := by cases h <;> rfl

/-- Waking does not initialise the sensor. -/
theorem Wakes.initialisations_eq (h : manager.Wakes calls next) : initialisations calls = 0 := by cases h <;> rfl

/-- Having the driver in use ready makes only such calls. -/
theorem Readies.rouses (h : manager.Readies calls ready next) : Rouses calls := by
  cases h with
  | wasReady => simp [Rouses]
  | lost _ htrying => simpa [Rouses] using htrying.rouses
  | tries _ htrying => exact htrying.rouses

/-- A driver that is reported as ready has said so itself. -/
theorem Readies.ready_mem (h : manager.Readies calls true next) : ⟨.isSensorReady, true⟩ ∈ calls := by
  cases h with
  | wasReady => exact List.mem_cons_self
  | lost _ htrying => exact List.mem_cons_of_mem _ htrying.ready_mem
  | tries _ htrying => exact htrying.ready_mem

/-- The sensor is initialised as often as there are attempts at most. -/
theorem Readies.initialisations_le (h : manager.Readies calls ready next) :
    initialisations calls ≤ sensorAttempts := by
  cases h with
  | wasReady => exact Nat.zero_le _
  | lost _ htrying => exact htrying.initialisations_le
  | tries _ htrying => exact htrying.initialisations_le

/-- A sensor that is not ready was given all the attempts. -/
theorem Readies.initialisations_eq (h : manager.Readies calls false next) :
    initialisations calls = sensorAttempts := by
  cases h with
  | lost _ htrying => exact htrying.initialisations_eq
  | tries _ htrying => exact htrying.initialisations_eq

/-- A driver is built exactly where the one in use is not for the model. -/
theorem Installs.builtIn_eq (h : manager.Installs model calls next) :
    builtIn calls = if manager.driver.map (·.code) = some model.code then [] else [model] := by
  cases h with
  | same hsame => rw [if_pos hsame]; rfl
  | replaced hother => rw [if_neg hother]; rfl

/-- Installing a driver does not initialise the sensor. -/
theorem Installs.initialisations_eq (h : manager.Installs model calls next) : initialisations calls = 0 := by
  cases h <;> rfl

/-- Of the supported models, a driver with the code of a model is one for that model. -/
theorem driver_eq_of_code (hcode : manager.driver.map (·.code) = some model.code) (hmodel : model ∈ SensorModel.table)
    (hsupported : ∀ old ∈ manager.driver, old ∈ SensorModel.table) : manager.driver = some model := by
  obtain ⟨old, hold, hsame⟩ := Option.map_eq_some_iff.mp hcode
  rw [hold, SensorModel.eq_of_code_eq old (hsupported old hold) model hmodel hsame]

/-- Afterwards the driver in use is the one for the model, if all drivers are for models that are supported. -/
theorem Installs.driver_eq (h : manager.Installs model calls next) (hmodel : model ∈ SensorModel.table)
    (hsupported : ∀ old ∈ manager.driver, old ∈ SensorModel.table) : next.driver = some model := by
  cases h with
  | same hsame => exact driver_eq_of_code hsame hmodel hsupported
  | replaced => rfl

/-! ## One operation -/

/-- Having a sensor ready: the driver in use may wake first, then there is one for the type, and it is brought up. -/
inductive Brings (manager : SensorManager) (code : UInt8) : List Exchange → (ready : Bool) → SensorManager → Prop where
  | mk {waking building readying : List Exchange} {woken installed next : SensorManager} {ready : Bool} :
      waking = [] ∧ woken = manager ∨ manager.Wakes waking woken →
      woken.Installs (SensorModel.lookup code).value building installed → installed.Readies readying ready next →
      Brings manager code (waking ++ (building ++ readying)) ready next

/-- What an operation comes to. -/
inductive Handles (manager : SensorManager) : SensorOrder → List Exchange → SensorReply → SensorManager → Prop where
  | brings {order : SensorOrder} {code : UInt8} {calls : List Exchange} {ready : Bool} {next : SensorManager} :
      order.code? = some code → manager.Brings code calls ready next →
      Handles manager order calls (.ready ready) next
  | goesDown {calls : List Exchange} {next : SensorManager} : manager.GoesDown calls next →
      Handles manager .powerDown calls .poweredDown next
  | polls {calls : List Exchange} {found : Bool} : manager.Polls calls found →
      Handles manager .poll calls (.detection found) manager
  | samples {calls : List Exchange} {sample : Option SensorSample} : manager.Samples calls sample →
      Handles manager .sample calls (.sampled sample) manager

/-- Whatever the driver answers, every operation goes one of these ways. -/
theorem ensures_handles (manager : SensorManager) (order : SensorOrder) :
    (manager.perform order).Ensures fun calls result => manager.Handles order calls result.1 result.2 := by
  cases order with
  | ensureReady code =>
    refine Program.ensures_map.mpr ((manager.ensures_ensureReady_parts code).mono ?_)
    rintro _ result ⟨building, installed, readying, hinstalls, hreadies, rfl⟩
    have hbrings : manager.Brings code ([] ++ (building ++ readying)) result.1 result.2 :=
      .mk (.inl ⟨rfl, rfl⟩) hinstalls hreadies
    exact .brings rfl hbrings
  | powerUp code =>
    refine Program.ensures_map.mpr ((manager.ensures_powerUp_parts code).mono ?_)
    rintro _ result ⟨waking, woken, building, installed, readying, hwakes, hinstalls, hreadies, rfl⟩
    exact .brings rfl (.mk (.inr hwakes) hinstalls hreadies)
  | powerDown => exact Program.ensures_map.mpr (manager.ensures_goesDown.mono fun _ _ => .goesDown)
  | poll => exact Program.ensures_map.mpr (manager.ensures_polls.mono fun _ _ => .polls)
  | sample => exact Program.ensures_map.mpr (manager.ensures_samples.mono fun _ _ => .samples)

/-- What the manager knows of the driver in use after the calls of the past. -/
structure Owns (manager : SensorManager) (past : List Exchange) : Prop where
  driven : manager.powered = true → manager.driver ≠ none
  supported : ∀ model ∈ manager.driver, model ∈ SensorModel.table
  built : manager.driver = (builtIn past).getLast?

/-- At first there is no driver, and none was built. -/
theorem owns_nil : ({} : SensorManager).Owns [] where
  driven := nofun
  supported := nofun
  built := rfl

/-- Before a driver is asked for, nothing is built and the driver stays. -/
theorem Brings.parts (h : manager.Brings code calls ready next) :
    ∃ (waking building readying : List Exchange) (woken installed : SensorManager),
    calls = waking ++ (building ++ readying) ∧ Rouses waking ∧ initialisations waking = 0 ∧
      woken.driver = manager.driver ∧ woken.Installs (SensorModel.lookup code).value building installed ∧
      installed.Readies readying ready next := by
  cases h with
  | @mk waking building readying woken installed _ _ hwaking hinstalls hreadies =>
    refine ⟨waking, building, readying, woken, installed, rfl, ?_, ?_, ?_, hinstalls, hreadies⟩
    all_goals rcases hwaking with ⟨rfl, rfl⟩ | hwakes
    · exact fun _ hmem => absurd hmem List.not_mem_nil
    · exact hwakes.rouses
    · rfl
    · exact hwakes.initialisations_eq
    · rfl
    · exact hwakes.driver_eq

/-- Having a sensor ready builds a driver exactly where the one in use is for another type. -/
theorem Brings.builtIn_eq (h : manager.Brings code calls ready next) :
    builtIn calls =
      if manager.driver.map (·.code) = some (SensorModel.lookup code).value.code then []
      else [(SensorModel.lookup code).value] := by
  obtain ⟨waking, building, readying, woken, installed, rfl, hwaking, _, hdriver, hinstalls, hreadies⟩ := h.parts
  rw [builtIn_append, builtIn_append, hwaking.builtIn_eq, hinstalls.builtIn_eq, hreadies.rouses.builtIn_eq, hdriver,
    List.nil_append, List.append_nil]

/-- Afterwards the driver in use is the one for the type. -/
theorem Brings.driver_eq (h : manager.Brings code calls ready next)
    (hsupported : ∀ model ∈ manager.driver, model ∈ SensorModel.table) :
    next.driver = some (SensorModel.lookup code).value := by
  obtain ⟨waking, building, readying, woken, installed, rfl, _, _, hdriver, hinstalls, hreadies⟩ := h.parts
  rw [hreadies.driver_eq, hinstalls.driver_eq (SensorModel.mem_table_lookup code) (hdriver ▸ hsupported)]

/-- The manager takes the sensor for powered exactly where it came up ready. -/
theorem Brings.powered_eq (h : manager.Brings code calls ready next) : next.powered = ready := by
  obtain ⟨_, _, _, _, _, _, _, _, _, _, hreadies⟩ := h.parts
  exact hreadies.powered_eq

/-- A sensor that is reported as ready has said so itself. -/
theorem Brings.ready_mem (h : manager.Brings code calls true next) : ⟨.isSensorReady, true⟩ ∈ calls := by
  obtain ⟨waking, building, readying, _, _, rfl, _, _, _, _, hreadies⟩ := h.parts
  exact List.mem_append_right _ (List.mem_append_right _ hreadies.ready_mem)

/-- The attempts are limited, and a sensor that is not ready was given all of them. -/
theorem Brings.initialisations_le (h : manager.Brings code calls ready next) :
    initialisations calls ≤ sensorAttempts ∧ (ready = false → initialisations calls = sensorAttempts) := by
  obtain ⟨waking, building, readying, _, _, rfl, _, hwaking, _, hinstalls, hreadies⟩ := h.parts
  rw [initialisations_append, initialisations_append, hwaking, hinstalls.initialisations_eq, Nat.zero_add, Nat.zero_add]
  refine ⟨hreadies.initialisations_le, ?_⟩
  rintro rfl
  exact hreadies.initialisations_eq

/-- A dialogue that brings a sensor up neither polls nor reads it, nor sends it to sleep. -/
theorem Brings.call_cases (h : manager.Brings code calls ready next) : ∀ exchange ∈ calls,
    exchange.call = .initSensor ∨ exchange.call = .isSensorReady ∨ exchange.call = .wakeSensor ∨
      exchange.call = .buildSensor (SensorModel.lookup code).value := by
  obtain ⟨waking, building, readying, woken, _, rfl, hwaking, _, _, hinstalls, hreadies⟩ := h.parts
  intro exchange hmem
  rcases List.mem_append.mp hmem with hwoke | hrest
  · rcases hwaking exchange hwoke with h | h | h <;> simp [h]
  rcases List.mem_append.mp hrest with hbuilt | hready
  · cases hinstalls with
    | same => cases hbuilt
    | replaced =>
      simp [List.mem_singleton.mp hbuilt]
  · rcases hreadies.rouses exchange hready with h | h | h <;> simp [h]

/-- Every operation keeps what the manager knows of its driver. -/
theorem Handles.owns (h : step.before.Handles step.order step.calls step.reply step.after)
    (howns : step.before.Owns past) : step.after.Owns (past ++ step.calls) := by
  obtain ⟨before, order, calls, reply, after⟩ := step
  change before.Handles order calls reply after at h
  change before.Owns past at howns
  change after.Owns (past ++ calls)
  have hsame : ∀ {manager : SensorManager}, manager.driver = before.driver → builtIn calls = [] →
      (manager.powered = true → before.powered = true) → manager.Owns (past ++ calls) := by
    intro manager hdriver hbuilt hpowered
    refine ⟨fun hup => ?_, ?_, ?_⟩
    · rw [hdriver]
      exact howns.driven (hpowered hup)
    · rw [hdriver]
      exact howns.supported
    · rw [hdriver, builtIn_append, hbuilt, List.append_nil]
      exact howns.built
  cases h with
  | @brings _ code _ ready _ _ hbrings =>
    have hdriver := hbrings.driver_eq howns.supported
    refine ⟨fun _ => hdriver ▸ Option.some_ne_none _, ?_, ?_⟩
    · rw [hdriver]
      rintro model hmodel
      rw [← Option.some.inj hmodel]
      exact SensorModel.mem_table_lookup code
    · rw [hdriver, builtIn_append, hbrings.builtIn_eq]
      split
      next hkept =>
        rw [List.append_nil, ← howns.built]
        exact (driver_eq_of_code hkept (SensorModel.mem_table_lookup code) howns.supported).symm
      next => rw [List.getLast?_concat]
  | goesDown hdown => cases hdown <;> exact hsame rfl rfl (by simp_all)
  | polls hpolls => cases hpolls <;> exact hsame rfl rfl id
  | samples hsamples => cases hsamples <;> exact hsame rfl rfl id

/-- An operation of a manager that knows its driver is handled well. -/
theorem Handles.wellHandled (h : step.before.Handles step.order step.calls step.reply step.after)
    (howns : step.before.Owns past) : WellHandled past step := by
  have hnext := h.owns howns
  obtain ⟨before, order, calls, reply, after⟩ := step
  change before.Handles order calls reply after at h
  cases h with
  | @brings _ code _ ready _ hcode hbrings =>
    have hcalls := hbrings.call_cases
    obtain ⟨hmost, hall⟩ := hbrings.initialisations_le
    refine ⟨hnext.driven, hnext.built, fun found hmem => ?_, fun sample hmem => ?_, fun hmem => ?_, ?_, ?_, ?_, hmost⟩
    · simpa using hcalls _ hmem
    · simpa using hcalls _ hmem
    · simpa using hcalls _ hmem
    · intro asked hasked
      obtain rfl := Option.some.inj (hcode.symm.trans hasked)
      exact ⟨hbrings.driver_eq howns.supported, hbrings.builtIn_eq⟩
    · intro hnone
      rw [hcode] at hnone
      cases hnone
    · intro asked hasked
      obtain rfl := Option.some.inj (hcode.symm.trans hasked)
      refine ⟨ready, rfl, ?_, ?_, hall⟩
      · exact iff_of_eq (congrArg (· = true) hbrings.powered_eq.symm)
      · rintro rfl
        exact hbrings.ready_mem
  | goesDown hdown =>
    refine ⟨hnext.driven, hnext.built, ?_, ?_, ?_, nofun, fun _ => ?_, nofun, ?_⟩
    all_goals cases hdown <;> simp_all [builtIn, Exchange.built, initialisations]
  | polls hpolls =>
    refine ⟨hnext.driven, hnext.built, ?_, ?_, ?_, nofun, fun _ => ?_, nofun, ?_⟩
    all_goals cases hpolls <;> simp_all [builtIn, Exchange.built, initialisations]
  | samples hsamples =>
    refine ⟨hnext.driven, hnext.built, ?_, ?_, ?_, nofun, fun _ => ?_, nofun, ?_⟩
    all_goals cases hsamples <;> simp_all [builtIn, Exchange.built, initialisations]

/-! ## All operations -/

/-- What every operation carries on, with the operations up to it, a run carries on. -/
theorem Runs.invariant {I : List SensorStep → SensorManager → Prop} {earlier steps : List SensorStep}
    (h : manager.Runs steps last) (hstart : I earlier manager)
    (hstep : ∀ earlier step, step.before.Handles step.order step.calls step.reply step.after →
      I earlier step.before → I (earlier ++ [step]) step.after) : I (earlier ++ steps) last := by
  refine Steps.invariant h hstart ?_
  intro earlier manager step next hleads hmanager
  cases hleads with
  | mk hpath => exact hstep earlier ⟨_, _, _, _, _⟩ (ensures_handles _ _ hpath) hmanager

/-- After any operations, the manager owns what their calls built and brought up. -/
theorem Runs.owns {steps : List SensorStep} (h : ({} : SensorManager).Runs steps last) :
    last.Owns (sensorCalls steps) := by
  have hstart : ({} : SensorManager).Owns (sensorCalls []) := owns_nil
  refine h.invariant (I := fun steps manager => manager.Owns (sensorCalls steps)) hstart ?_
  intro earlier step hstep howns
  rw [sensorCalls_concat]
  exact hstep.owns howns

/-- In a run, every operation is carried out by the manager that the operations before it left. -/
theorem Runs.reach {before after : List SensorStep} (h : manager.Runs (before ++ step :: after) last) :
    manager.Runs before step.before ∧ step.before.Handles step.order step.calls step.reply step.after := by
  obtain ⟨_, _, hbefore, hleads, _⟩ := Steps.reach h
  cases hleads with
  | mk hpath => exact ⟨hbefore, ensures_handles _ _ hpath⟩

/-- Whatever a new manager is asked for, for whatever type codes, and whatever its drivers answer, every operation is
handled well. -/
theorem wellHandled_of_runs {steps : List SensorStep} (h : ({} : SensorManager).Runs steps last)
    {before after : List SensorStep} (hsplit : steps = before ++ step :: after) :
    WellHandled (sensorCalls before) step := by
  subst hsplit
  obtain ⟨hbefore, hstep⟩ := h.reach
  exact hstep.wellHandled hbefore.owns

/-- A radar responds to the second attempt, is polled and powered down. The type code is unknown after that: the radar
says that it woke but is not ready, and the infrared sensor in its place never responds. -/
theorem wellHandled_of_runs_givenUp :
    let radar : SensorModel := ⟨3, "Radar", false, true⟩
    let steps : List SensorStep := [
      ⟨{}, .ensureReady 3, [⟨.buildSensor radar, ()⟩, ⟨.initSensor, false⟩, ⟨.initSensor, true⟩,
        ⟨.isSensorReady, true⟩], .ready true, ⟨some radar, true⟩⟩,
      ⟨⟨some radar, true⟩, .poll, [⟨.sensorUsesInterrupt, false⟩, ⟨.pollSensor, true⟩], .detection true,
        ⟨some radar, true⟩⟩,
      ⟨⟨some radar, true⟩, .powerDown, [⟨.sleepSensor, ()⟩], .poweredDown, ⟨some radar, false⟩⟩]
    let last : SensorStep := ⟨⟨some radar, false⟩, .powerUp 9, [⟨.wakeSensor, true⟩, ⟨.isSensorReady, false⟩,
      ⟨.buildSensor .infrared, ()⟩, ⟨.initSensor, false⟩, ⟨.initSensor, false⟩], .ready false, ⟨some .infrared, false⟩⟩
    ({} : SensorManager).Runs (steps ++ [last]) last.after ∧ WellHandled (sensorCalls steps) last := by
  intro radar steps last
  have hruns : ({} : SensorManager).Runs (steps ++ [last]) last.after := by
    refine .cons (.mk ?_) ?_
    · exact .log (.ask (.ask (.log (.ask (.ask (.log (.done _)))))))
    refine .cons (.mk ?_) ?_
    · exact .ask (.ask (.done _))
    refine .cons (.mk ?_) ?_
    · exact .ask (.log (.done _))
    refine .cons (.mk ?_) (.nil _)
    exact .ask (.ask (.log (.log (.ask (.ask (.log (.ask (.log (.log (.done _))))))))))
  exact ⟨hruns, wellHandled_of_runs hruns rfl⟩

end SensorManager

end FieldCounter
