import FieldCounter.Device.Program
import FieldCounter.Log.Filter
import FieldCounter.Record.Codec
import FieldCounter.Simulator.Surroundings

/-!
# The simulated devices

One value holds every simulated device together with what the simulation counts about it. A sleep
takes its time from the simulated clock, a connection takes a while to come up, and every ninth
request for one fails. Nothing else ever goes wrong.
-/

namespace FieldCounter.Simulator

/-- Milliseconds from a request until the connection is up. -/
def connectDelayMs : Nat := 8000

/-- One in this many requests for a connection fails. -/
def failedConnectEvery : Nat := 9

/-- The radio, with the counts of requests and of connections seen. -/
structure Radio where
  /-- Uptime of the request that stands. -/
  requestedAt : Option Nat := none
  /-- The request that stands, or the last one, fails. -/
  failing : Bool := false
  modemOff : Bool := true
  attempts : Nat := 0
  sessions : Nat := 0
  /-- The connection was up when it was last looked at. -/
  wasConnected : Bool := false
deriving DecidableEq, Repr

namespace Radio

/-- The connection is up. -/
def isConnected (radio : Radio) (uptimeMs : Nat) : Bool :=
  !radio.failing && radio.requestedAt.any fun requested => requested + connectDelayMs ≤ uptimeMs

/-- Ask for a connection. -/
def request (radio : Radio) (uptimeMs : Nat) : Radio :=
  { radio with
    attempts := radio.attempts + 1
    failing := (radio.attempts + 1) % failedConnectEvery == 0
    requestedAt := some uptimeMs
    modemOff := false }

/-- Look at the connection, counting one that came up since the last look. -/
def observe (radio : Radio) (uptimeMs : Nat) : Radio :=
  let up := radio.isConnected uptimeMs
  { radio with
    sessions := radio.sessions + (if up && !radio.wasConnected then 1 else 0)
    wasConnected := up }

/-- A restart switches the modem off. -/
def losePower (radio : Radio) : Radio :=
  { radio with requestedAt := none, modemOff := true, wasConnected := false }

end Radio

/-- The outbound queue, which holds reports until the connection is up. -/
structure Queue where
  waiting : Nat := 0
  delivered : Nat := 0
  /-- When reports were last delivered. -/
  answeredAt : Option UInt32 := none
deriving DecidableEq, Repr

/-- Deliver what waits. -/
def Queue.deliver (queue : Queue) (now : UInt32) : Queue :=
  if queue.waiting = 0 then queue
  else { waiting := 0, delivered := queue.delivered + queue.waiting, answeredAt := some now }

/-- The fuel gauge of a battery that drains slowly and is charged by the sun. -/
structure Gauge where
  /-- The charge in percent. -/
  charge : Float32 := 80.0
  lastRead : Nat := startTime

namespace Gauge

/-- Percent per hour by which the charge changes. -/
def rate (sunny : Bool) : Float32 := if sunny then 4.0 else -1.2

/-- Keep a charge between empty and full. -/
def clamp (charge : Float32) : Float32 :=
  if charge < 0.0 then 0.0 else if 100.0 < charge then 100.0 else charge

/-- The charge at `now`, if it changed since the last reading as it does at `now`. -/
def chargeAt (gauge : Gauge) (now : Nat) : Float32 :=
  clamp (gauge.charge + rate (isSunny now) * (Float32.ofNat (now - gauge.lastRead) / 3600.0))

/-- Read the gauge. -/
def read (gauge : Gauge) (now : Nat) : BatteryReading × Gauge :=
  let charge := gauge.chargeAt now
  let state : ChargeState :=
    if 100.0 ≤ charge then .full else if isSunny now then .charging else .discharging
  ({ soc := charge.toUInt8, charge := state, temperature := if isSunny now then 310 else 190, fault := none },
    { charge, lastRead := now })

end Gauge

/-- The counts of sleeps and resets. -/
structure RestCounts where
  deep : Nat := 0
  timed : Nat := 0
  sensorWakes : Nat := 0
  softResets : Nat := 0
  hardCycles : Nat := 0
deriving DecidableEq, Repr

/-- The stored records. -/
structure Store where
  config : Option Bytes := none
  status : Option Bytes := none
deriving DecidableEq, Repr

namespace Store

/-- The bytes of a record. -/
def read (store : Store) : RecordKey → Option Bytes
  | .config => store.config
  | .status => store.status

/-- Store the bytes of a record. -/
def write (store : Store) (bytes : Bytes) : RecordKey → Store
  | .config => { store with config := some bytes }
  | .status => { store with status := some bytes }

end Store

/-- Every simulated device, the counts made and the log kept. Its clocks are natural numbers, where the
device's are words of 32 bits for the seconds and of 64 for the milliseconds. They agree as long as no
time passes 2³² seconds, which is the year 2106. -/
structure World where
  filter : LogFilter
  /-- What the operator asks for. -/
  remote : RemoteConfig
  /-- Seconds since 1970. -/
  now : Nat := startTime
  /-- Milliseconds since boot. -/
  uptimeMs : Nat := 0
  radio : Radio := {}
  queue : Queue := {}
  gauge : Gauge := {}
  resetReason : ResetReason := .powerOn
  sensorFlag : Bool := false
  sensorReady : Bool := false
  store : Store := {}
  rests : RestCounts := {}
  statusPublished : Nat := 0
  dataPublished : Nat := 0
  log : Array Note := #[]

namespace World

/-- The wall clock as a word. -/
def clock (world : World) : UInt32 := UInt32.ofNat world.now

/-- Let time go by. -/
def advance (world : World) (ms : Nat) : World :=
  { world with
    uptimeMs := world.uptimeMs + ms
    now := world.now + ((world.uptimeMs + ms) / 1000 - world.uptimeMs / 1000) }

/-- The connection is up. -/
def isConnected (world : World) : Bool := world.radio.isConnected world.uptimeMs

/-- Keep a note that the filter lets through. -/
def keep (world : World) (note : Note) : World :=
  if world.filter.keeps note then { world with log := world.log.push note } else world

/-- Write a note of the simulator itself. -/
def remark (world : World) (level : Level) (text : String) : World := world.keep ⟨level, .simulator, text⟩

/-- Ask for a connection. -/
def requestConnect (world : World) : World :=
  let world := { world with radio := world.radio.request world.uptimeMs }
  if world.radio.failing then
    world.remark .warn s!"[sim] connect attempt {world.radio.attempts} will not succeed"
  else world

/-- Publish the health of the device. -/
def publishStatus (world : World) (snapshot : StatusSnapshot) : World :=
  let told := world.remark .info <|
    s!"[sim] status: tier {snapshot.batteryTier.name}, battery {snapshot.batterySoc}%, " ++
      s!"alert {snapshot.alertCode}, {snapshot.resetCount} resets"
  { told with statusPublished := world.statusPublished + 1 }

/-- Sleep in place; the first detection ends a sleep that the sensor may end. -/
def sleepInPlace (world : World) (secs : Nat) (wake : WakeSources) : WakePins × World :=
  let world := { world with rests := { world.rests with timed := world.rests.timed + 1 } }
  match if wake.sensor then firstDetection world.now secs else none with
  | some found =>
    let world := { world with rests := { world.rests with sensorWakes := world.rests.sensorWakes + 1 } }
    (⟨false, true⟩, world.advance ((found - world.now) * 1000))
  | none => (⟨false, false⟩, world.advance (secs * 1000))

/-- Count a rest or reset, and remember it as the reason of the next start. -/
def rest (world : World) (count : RestCounts → RestCounts) (reason : ResetReason) : World :=
  { world with rests := count world.rests, resetReason := reason }

/-- How the devices answer. -/
def answer (call : Call) (world : World) : call.Answer × World :=
  match call with
  | .readClock => (⟨world.clock, UInt64.ofNat world.uptimeMs, true, 0⟩, world)
  | .isConnected => (world.isConnected, world)
  | .isDisconnected => (!world.isConnected, world)
  | .isModemOff => (world.radio.modemOff, world)
  | .signalQuality => (if world.isConnected then 64 else 0, world)
  | .updateOffered => (false, world)
  | .requestConnect => ((), world.requestConnect)
  | .requestDisconnect => ((), { world with radio := { world.radio with requestedAt := none } })
  | .requestModemOff =>
    ((), { world with radio := { world.radio with requestedAt := none, modemOff := true } })
  | .loadRemote => (some world.remote, world)
  | .publishStatus snapshot => (true, world.publishStatus snapshot)
  | .publishData _ => (true, { world with dataPublished := world.dataPublished + 1 })
  | .enqueue _ => (true, { world with queue := { world.queue with waiting := world.queue.waiting + 1 } })
  | .isSafeToSleep online => (!online || world.queue.waiting == 0, world)
  | .pendingCount => (UInt32.ofNat world.queue.waiting, world)
  | .lastHookResponse => (world.queue.answeredAt, world)
  | .readBattery =>
    let (reading, gauge) := world.gauge.read world.now
    (reading, { world with gauge })
  | .deepSleep secs _ =>
    (.restarting, (world.rest (fun rests => { rests with deep := rests.deep + 1 }) .deepSleepWake).advance
      (secs * 1000))
  | .timedSleep secs wake => world.sleepInPlace secs wake
  | .softReset =>
    ((), world.rest (fun rests => { rests with softResets := rests.softResets + 1 }) .softReset)
  | .hardPowerCycle =>
    ((), world.rest (fun rests => { rests with hardCycles := rests.hardCycles + 1 }) .powerManagement)
  | .resetReason => (world.resetReason, world)
  | .overrideAsserted => (false, world)
  | .takeSensorFlag => (world.sensorFlag, { world with sensorFlag := false })
  | .takeButtonFlag => (false, world)
  | .readRecord key =>
    (match world.store.read key with
      | some bytes => .ok bytes
      | none => .error (.missing key), world)
  | .writeRecord key bytes => (.ok (), { world with store := world.store.write bytes key })
  | .buildSensor model =>
    ((), { world.remark .info s!"[sim] building {model.name} driver" with sensorReady := false })
  | .initSensor => (true, { world with sensorReady := true })
  | .pollSensor => (false, world)
  | .readSensor => (⟨false, 0, 100⟩, world)
  | .sleepSensor => ((), { world with sensorReady := false })
  | .wakeSensor => (true, { world with sensorReady := true })
  | .sensorUsesInterrupt => (true, world)
  | .isSensorReady => (world.sensorReady, world)
  | .isSensorHealthy => (world.sensorReady, world)

/-- The simulated devices as an environment. -/
def environment : Environment World where
  answer := answer
  log := fun note world => world.keep note

end World

end FieldCounter.Simulator
