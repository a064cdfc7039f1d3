import FieldCounter.Controller.Tick
import FieldCounter.Simulator.Options
import FieldCounter.Simulator.World

/-!
# A simulation

The controller runs against the simulated devices until the simulated clock has reached the end.
Each round is one tick; a round that ends in a restart takes no time itself, but none restarts twice
in a row, so two rounds a second are enough for any number of days.
-/

namespace FieldCounter.Simulator

/-- A running simulation. -/
structure Simulation where
  world : World
  controller : Controller
  boots : Nat := 1
  /-- The code in the alert slot after the last round. -/
  lastAlert : Int8 := 0
  /-- The alerts seen to come up, the last one first. -/
  raised : List Alert := []

/-- Simulated milliseconds that an awake tick takes. -/
def tickMs : Nat := 1000

namespace Simulation

/-- Boot the controller for the first time. -/
def start (options : Options) (filter : LogFilter) : Simulation :=
  let world : World := { filter, remote := options.remote }
  let world := world.remark .info
    s!"Starting tally simulator: {options.days} days, operating mode {options.modeCode}"
  let (controller, world) := Controller.boot.run World.environment world
  { world, controller }

/-- What happens before a tick: a detection leaves its mark, and an online queue is delivered. -/
def prepare (world : World) : World :=
  { world with
    sensorFlag := world.sensorFlag || isDetection world.now
    queue := if world.isConnected then world.queue.deliver world.clock else world.queue }

/-- Take note of an alert that came up in this round. -/
def watchAlert (simulation : Simulation) : Simulation :=
  let slot := simulation.controller.status.value.alert
  if slot.code = simulation.lastAlert then simulation
  else
    match slot.current with
    | some alert => { simulation with
        world := simulation.world.remark .info s!"[sim] alert {slot.code} ({alert.label})"
        lastAlert := slot.code
        raised := alert :: simulation.raised }
    | none => { simulation with lastAlert := slot.code }

/-- Boot again after a restart. -/
def reboot (simulation : Simulation) : Simulation :=
  let world := { simulation.world with uptimeMs := 0, radio := simulation.world.radio.losePower }
  let (controller, world) := Controller.boot.run World.environment world
  { simulation with world, controller, boots := simulation.boots + 1 }

/-- One round: a tick, and the time it takes or the boot that follows it. -/
def round (simulation : Simulation) : Simulation :=
  let ((control, controller), world) :=
    (Controller.tick.run simulation.controller).run World.environment (prepare simulation.world)
  let world := { world with radio := world.radio.observe world.uptimeMs }
  let simulation := { simulation with world, controller }.watchAlert
  match control with
  | .proceed => { simulation with world := simulation.world.advance tickMs }
  | .restart => simulation.reboot

/-- Run rounds until the clock has reached `finish`, but no more than so many. -/
def roundsUntil (finish : Nat) : (left : Nat) → Simulation → Simulation
  | 0, simulation => simulation
  | left + 1, simulation =>
    if simulation.world.now < finish then roundsUntil finish left simulation.round else simulation

/-- When a simulation of so many days ends. -/
def finishTime (days : Nat) : Nat := startTime + days * secsPerDay

/-- As many rounds as a simulation of so many days can take. -/
def maxRounds (days : Nat) : Nat := 2 * days * secsPerDay + 1

/-- The alerts in the order of their codes. -/
def alertsByCode : List Alert :=
  [.sensorFault, .outOfMemory, .modemFault, .sleepFault, .batteryFault, .chargeFault, .thermalFault,
   .connectTimeout, .webhookStale, .configApplyFailed, .dataPublishFailed, .statusPublishFailed,
   .prolongedOffline]

/-- What the simulation came to, line by line. -/
def summary (simulation : Simulation) (days : Nat) : List String :=
  let world := simulation.world
  let status := simulation.controller.status.value
  let raised := alertsByCode.filter simulation.raised.contains
  [s!"Simulation finished after {days} days",
   s!"Boots {simulation.boots}, connect attempts {world.radio.attempts}, sessions {world.radio.sessions}, " ++
     s!"reports delivered {world.queue.delivered}, still queued {world.queue.waiting}",
   s!"Sleeps: {world.rests.deep} deep, {world.rests.timed} timed ({world.rests.sensorWakes} sensor wakes); " ++
     s!"resets: {world.rests.softResets} soft, {world.rests.hardCycles} hard",
   s!"Published {world.statusPublished} status and {world.dataPublished} data snapshots",
   s!"Final: daily count {status.dailyCount}, battery {status.batterySoc}% ({status.batteryTier.label}), " ++
     s!"reset count {simulation.controller.config.value.resetCount}"] ++
  raised.map fun alert => s!"Alert {alert.code} raised {simulation.raised.count alert} time(s)"

/-- Simulate so many days. -/
def run (options : Options) (filter : LogFilter) : Simulation :=
  roundsUntil (finishTime options.days) (maxRounds options.days) (start options filter)

end Simulation

/-- The log of a whole simulation. -/
def simulate (options : Options) (filter : LogFilter) : List String :=
  let simulation := Simulation.run options filter
  let world := (simulation.summary options.days).foldl (World.remark · .info ·) simulation.world
  world.log.toList.map (·.line)

end FieldCounter.Simulator
