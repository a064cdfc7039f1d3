import FieldCounter.Proofs.Run

/-!
# Scripted runs

A program that is run in an environment follows one of its paths, so whatever is said of all paths is
said of every simulation. Devices that answer from a table, together with a store, are such an
environment, and a script that puts tables of answers behind the boots and ticks of a device plays
out as a run that the store serves.
-/

namespace FieldCounter

open Program (Path)

/-! ## Running a program along a path -/

/-- The calls made when the program runs in the environment, with their answers. -/
def Program.trace {σ α : Type} (env : Environment σ) : Program α → σ → List Exchange
  | .done _, _ => []
  | .ask call next, world =>
    ⟨call, (env.answer call world).1⟩ ::
      (next (env.answer call world).1).trace env (env.answer call world).2
  | .log note rest, world => rest.trace env (env.log note world)

/-- A program that runs in an environment follows one of its paths. -/
theorem Program.path_run {σ α : Type} (env : Environment σ) (x : Program α) (world : σ) :
    Path x (x.trace env world) (x.run env world).1 := by
  induction x generalizing world with
  | done a => exact .done a
  | ask call next ih => exact .ask (ih _ _)
  | log note rest ih => exact .log (ih _)

/-! ## Tables of answers -/

/-- Devices that give the same answer to a call whenever it is made. -/
abbrev Devices := (call : Call) → call.Answer

/-- What is read of a record. -/
def Store.read (store : Store) (key : RecordKey) : Except StorageError Bytes :=
  match store.bytes key with
  | some bytes => .ok bytes
  | none => .error (.missing key)

/-- Devices of which nothing is amiss, with the clocks at the moment and the radio up or down. -/
def Devices.ordinary (moment : Moment) (online : Bool) : Devices
  | .readClock => moment
  | .isConnected => online
  | .isDisconnected | .isModemOff => !online
  | .updateOffered => false
  | .signalQuality => 80
  | .requestConnect | .requestDisconnect | .requestModemOff => ()
  | .loadRemote => some {}
  | .publishStatus _ | .publishData _ | .enqueue _ | .isSafeToSleep _ => true
  | .pendingCount => 0
  | .lastHookResponse => none
  | .readBattery => { soc := 90, charge := .full, temperature := 200, fault := none }
  | .deepSleep _ _ => .restarting
  | .timedSleep _ _ => { manual := false, sensor := false }
  | .softReset | .hardPowerCycle => ()
  | .resetReason => .powerOn
  | .overrideAsserted | .takeSensorFlag | .takeButtonFlag => false
  | .readRecord key => .error (.missing key)
  | .writeRecord _ _ => .ok ()
  | .buildSensor _ | .sleepSensor => ()
  | .initSensor | .wakeSensor | .sensorUsesInterrupt | .isSensorReady | .isSensorHealthy => true
  | .pollSensor => false
  | .readSensor => { presence := false, raw := 0, quality := 100 }

/-- Devices of which nothing is amiss, so many seconds after noon on one day. -/
def Devices.afterNoon (secs : Nat) (online : Bool) : Devices :=
  .ordinary { now := 1699963200 + UInt32.ofNat secs, uptimeMs := UInt64.ofNat (secs * 1000), valid := true,
              utcOffset := 0 } online

/-- The same devices, but a deep sleep comes back. -/
def Devices.comingBack (devices : Devices) : Devices
  | .deepSleep _ _ => .resumed
  | call => devices call

/-- The answer to a call, from the store if it is about a record and from the devices otherwise. -/
def Store.answer (devices : Devices) : (call : Call) → Store → call.Answer × Store
  | .readRecord key, store => (store.read key, store)
  | .writeRecord key bytes, store => (.ok (), store.put key bytes)
  | call, store => (devices call, store)

/-- The devices together with the store. -/
def Store.environment (devices : Devices) : Environment Store where
  answer := Store.answer devices
  log := fun _ store => store

/-- What the store answers, it can answer. -/
theorem Store.answers_answer (devices : Devices) (call : Call) (store : Store) :
    store.Answers ⟨call, (Store.answer devices call store).1⟩ (Store.answer devices call store).2 := by
  cases call with
  | readRecord key =>
    have hread : match store.bytes key with
        | some bytes => store.read key = .ok bytes
        | none => ∃ error, store.read key = .error error := by
      unfold Store.read
      cases store.bytes key with
      | none => exact ⟨_, rfl⟩
      | some bytes => rfl
    exact ⟨rfl, hread⟩
  | writeRecord key bytes => exact ⟨rfl, rfl⟩
  | _ => rfl

/-- The store serves every program that runs over it. -/
theorem Store.serves_run {α : Type} (devices : Devices) (x : Program α) (store : Store) :
    store.Serves (x.trace (Store.environment devices) store) (x.run (Store.environment devices) store).2 := by
  induction x generalizing store with
  | done a => exact .nil store
  | ask call next ih => exact .cons (Store.answers_answer devices call store) (ih _ _)
  | log note rest ih => exact ih store

/-- Every answer that is not about a record comes from the table. -/
theorem Store.answer_of_mem {α : Type} {devices : Devices} {x : Program α} {store : Store} {exchange : Exchange}
    (hmem : exchange ∈ x.trace (Store.environment devices) store)
    (huntouched : exchange.call.touchesRecord = false) : exchange.answer = devices exchange.call := by
  induction x generalizing store with
  | done a => exact absurd hmem List.not_mem_nil
  | ask call next ih =>
    rcases List.mem_cons.mp hmem with rfl | hrest
    · cases call with
      | readRecord key => cases huntouched
      | writeRecord key bytes => cases huntouched
      | _ => rfl
    · exact ih _ hrest
  | log note rest ih => exact ih hmem

/-! ## Scripts -/

/-- One step of a script, with the devices as they are in it. -/
inductive Scene where
  | boot (devices : Devices)
  /-- A tick, if there is a controller. -/
  | tick (devices : Devices)
  /-- An alert from outside, if there is a controller. -/
  | raise (alert : Alert) (now : UInt32)

/-- What is left after a part of a script: the controller, if there is one, and the store. -/
structure Stage where
  controller : Option Controller
  store : Store

/-- A device that was never booted, with nothing stored. -/
def Stage.blank : Stage := { controller := none, store := { bytes := fun _ => none } }

/-- Play a scene: what happens in it, and what is left after it. -/
def Scene.play : Scene → Stage → List Event × Stage
  | .boot devices, ⟨_, store⟩ =>
    let env := Store.environment devices
    let (c, after) := Controller.boot.run env store
    ([.boot (Controller.boot.trace env store) c], ⟨some c, after⟩)
  | .tick devices, ⟨some before, store⟩ =>
    let env := Store.environment devices
    let ((control, c), after) := (Controller.tick.run before).run env store
    ([.tick before ((Controller.tick.run before).trace env store) control c], ⟨control.leaves c, after⟩)
  | .raise alert now, ⟨some c, store⟩ =>
    ([.raise alert now], ⟨some (c.setStatus (c.status.value.raiseAlert alert now).value), store⟩)
  | _, ⟨none, store⟩ => ([], ⟨none, store⟩)

/-- Play a script from the beginning to the end. -/
def play : List Scene → Stage → List Event × Stage
  | [], stage => ([], stage)
  | scene :: script, stage =>
    let (events, between) := scene.play stage
    let (rest, last) := play script between
    (events ++ rest, last)

/-- The scenes of a script are played one after the other. -/
theorem play_cons (scene : Scene) (script : List Scene) (stage : Stage) :
    play (scene :: script) stage =
      ((scene.play stage).1 ++ (play script (scene.play stage).2).1, (play script (scene.play stage).2).2) := rfl

/-- A script that begins with a boot goes on from what the boot loads. -/
theorem play_boot (devices : Devices) (script : List Scene) (stage : Stage) :
    (play (.boot devices :: script) stage).1 =
      .boot (Controller.boot.trace (Store.environment devices) stage.store)
          (Controller.boot.run (Store.environment devices) stage.store).1 ::
        (play script ⟨some (Controller.boot.run (Store.environment devices) stage.store).1,
          (Controller.boot.run (Store.environment devices) stage.store).2⟩).1 := rfl

/-- A script is played in parts. -/
theorem play_append (script later : List Scene) (stage : Stage) :
    play (script ++ later) stage =
      ((play script stage).1 ++ (play later (play script stage).2).1, (play later (play script stage).2).2) := by
  induction script generalizing stage with
  | nil => rfl
  | cons scene script ih => rw [List.cons_append, play_cons, play_cons, ih, List.append_assoc]

/-- The tick of a controller over a store, as an event. -/
def tickEvent (devices : Devices) (before : Controller) (store : Store) : Event :=
  let env := Store.environment devices
  let result := ((Controller.tick.run before).run env store).1
  .tick before ((Controller.tick.run before).trace env store) result.1 result.2

/-- A tick of a script, if there is a controller then, is in the history. -/
theorem tickEvent_mem_play {earlier later : List Scene} {stage : Stage} {before : Controller}
    (h : (play earlier stage).2.controller = some before) (devices : Devices) :
    tickEvent devices before (play earlier stage).2.store ∈
      (play (earlier ++ .tick devices :: later) stage).1 := by
  rw [play_append]
  refine List.mem_append_right _ (List.mem_append_left _ ?_)
  have hstage : (play earlier stage).2 = ⟨some before, (play earlier stage).2.store⟩ := by rw [← h]
  rw [hstage]
  exact List.mem_singleton_self _

/-- A script that ends with a tick, if there is a controller then, ends with the event of it. -/
theorem play_concat_tick {script : List Scene} {stage : Stage} {before : Controller}
    (h : (play script stage).2.controller = some before) (devices : Devices) :
    (play (script ++ [.tick devices]) stage).1 =
      (play script stage).1 ++ [tickEvent devices before (play script stage).2.store] := by
  have hstage : (play script stage).2 = ⟨some before, (play script stage).2.store⟩ := by rw [← h]
  rw [play_append, hstage]
  rfl

/-- The event is a tick of which the test holds. -/
def Event.isTick (test : Controller → List Exchange → Controller → Bool) : Event → Bool
  | .tick before calls _ after => test before calls after
  | .boot _ _ | .raise _ _ => false

/-- A tick that a test finds in a history is there. -/
theorem exists_tick_of_any {history : List Event} {test : Controller → List Exchange → Controller → Bool}
    (h : history.any (Event.isTick test) = true) :
    ∃ before calls control after, Event.tick before calls control after ∈ history ∧
      test before calls after = true := by
  obtain ⟨event, hmem, htest⟩ := List.any_eq_true.mp h
  cases event with
  | tick before calls control after => exact ⟨before, calls, control, after, hmem, htest⟩
  | boot => cases htest
  | raise => cases htest

/-- A scene is a run that the store serves. -/
theorem Scene.run_play (scene : Scene) (stage : Stage) :
    Run stage.controller (scene.play stage).1 (scene.play stage).2.controller ∧
      stage.store.Serves (callsOf (scene.play stage).1) (scene.play stage).2.store := by
  obtain ⟨controller, store⟩ := stage
  cases scene with
  | boot devices =>
    have hpath := Controller.boot.path_run (Store.environment devices) store
    have hserves := Store.serves_run devices Controller.boot store
    refine ⟨.cons (.boot hpath) (.nil _), ?_⟩
    rw [Scene.play, callsOf_singleton]
    exact hserves
  | tick devices =>
    cases controller with
    | none => exact ⟨.nil _, .nil _⟩
    | some before =>
      have hpath := (Controller.tick.run before).path_run (Store.environment devices) store
      have hserves := Store.serves_run devices (Controller.tick.run before) store
      refine ⟨.cons (.tick hpath) (.nil _), ?_⟩
      rw [Scene.play, callsOf_singleton]
      exact hserves
  | raise alert now =>
    cases controller with
    | none => exact ⟨.nil _, .nil _⟩
    | some c => exact ⟨.cons (.raise c alert now) (.nil _), .nil _⟩

/-- A script plays out as a run that the store serves. -/
theorem run_play (script : List Scene) (stage : Stage) :
    Run stage.controller (play script stage).1 (play script stage).2.controller ∧
      stage.store.Serves (callsOf (play script stage).1) (play script stage).2.store := by
  induction script generalizing stage with
  | nil => exact ⟨.nil _, .nil _⟩
  | cons scene script ih =>
    obtain ⟨hrun, hserves⟩ := scene.run_play stage
    obtain ⟨hrest, hlater⟩ := ih (scene.play stage).2
    refine ⟨Run.append_iff.mpr ⟨_, hrun, hrest⟩, ?_⟩
    show stage.store.Serves (callsOf ((scene.play stage).1 ++ (play script (scene.play stage).2).1)) _
    rw [callsOf_append]
    exact Store.serves_append_iff.mpr ⟨_, hserves, hlater⟩

/-! ## Scripts without a store -/

/-- The devices alone, with whatever they answer about a record. -/
def Devices.environment (devices : Devices) : Environment Unit where
  answer := fun call _ => (devices call, ())
  log := fun _ _ => ()

/-- Play a scene with the devices alone: what happens in it, and the controller that is left. -/
def Scene.live : Scene → Option Controller → List Event × Option Controller
  | .boot devices, _ =>
    let env := devices.environment
    let (c, _) := Controller.boot.run env ()
    ([.boot (Controller.boot.trace env ()) c], some c)
  | .tick devices, some before =>
    let env := devices.environment
    let ((control, c), _) := (Controller.tick.run before).run env ()
    ([.tick before ((Controller.tick.run before).trace env ()) control c], control.leaves c)
  | .raise alert now, some c =>
    ([.raise alert now], some (c.setStatus (c.status.value.raiseAlert alert now).value))
  | _, none => ([], none)

/-- Play a script from the beginning to the end. -/
def live : List Scene → Option Controller → List Event × Option Controller
  | [], state => ([], state)
  | scene :: script, state =>
    let (events, between) := scene.live state
    let (rest, last) := live script between
    (events ++ rest, last)

/-- A script plays out as a run. -/
theorem run_live (script : List Scene) (state : Option Controller) :
    Run state (live script state).1 (live script state).2 := by
  induction script generalizing state with
  | nil => exact .nil state
  | cons scene script ih =>
    have hscene : Run state (scene.live state).1 (scene.live state).2 := by
      cases scene with
      | boot devices => exact .cons (.boot (Controller.boot.path_run devices.environment ())) (.nil _)
      | tick devices =>
        cases state with
        | none => exact .nil _
        | some before => exact .cons (.tick ((Controller.tick.run before).path_run devices.environment ())) (.nil _)
      | raise alert now =>
        cases state with
        | none => exact .nil _
        | some c => exact .cons (.raise c alert now) (.nil _)
    exact Run.append_iff.mpr ⟨_, hscene, ih _⟩

/-- A script is played in parts. -/
theorem live_append (script later : List Scene) (state : Option Controller) :
    live (script ++ later) state =
      ((live script state).1 ++ (live later (live script state).2).1, (live later (live script state).2).2) := by
  induction script generalizing state with
  | nil => rfl
  | cons scene script ih => simp only [List.cons_append, live, ih, List.append_assoc]

/-- A script that ends with a tick, if there is a controller then, ends with the event of it. -/
theorem live_concat_tick {script : List Scene} {state : Option Controller} {before : Controller}
    (h : (live script state).2 = some before) (devices : Devices) :
    ∃ control after, (live (script ++ [.tick devices]) state).1 = (live script state).1 ++
      [.tick before ((Controller.tick.run before).trace devices.environment ()) control after] := by
  rw [live_append, h]
  exact ⟨_, _, rfl⟩

end FieldCounter
