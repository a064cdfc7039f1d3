import FieldCounter.Device.Program
import FieldCounter.Sensor

/-!
# The active sensor

The manager owns at most one driver, built for the model that the settings name, and knows whether
it is powered. A driver that does not come up is tried a second time and then given up until the
next wake.
-/

namespace FieldCounter

/-- Attempts to bring a sensor up before it is given up. -/
def sensorAttempts : Nat := 2

/-- The driver in use, known by the model it was built for, and whether it is powered. -/
structure SensorManager where
  driver : Option SensorModel := none
  powered : Bool := false
deriving DecidableEq, Repr, Inhabited

namespace SensorManager

/-- Have a driver for the model, replacing one for another model; a new driver is not powered. -/
def install (manager : SensorManager) (model : SensorModel) : Program SensorManager := do
  if manager.driver.map (·.code) = some model.code then
    return manager
  note .info .sensor s!" Creating {model.name} sensor (type {model.code})"
  call (.buildSensor model)
  return { driver := some model, powered := false }

/-- Try to bring the sensor up, with so many attempts left. -/
def bringUp (model : SensorModel) : (left : Nat) → Program Bool
  | 0 => do
    note .error .sensor s!" {model.name} failed to initialize"
    return false
  | left + 1 => do
    let attempt := sensorAttempts - left
    if ← call .initSensor <&&> call .isSensorReady then
      note .debug .sensor s!" {model.name} ready after {attempt} attempt(s)"
      return true
    note .warn .sensor s!" {model.name} initialization attempt {attempt} failed"
    bringUp model left

/-- Have a powered sensor for the type code; whether it is ready. -/
def ensureReady (manager : SensorManager) (code : UInt8) : Program (Bool × SensorManager) := do
  let model ← SensorModel.lookup code
  let manager ← manager.install model
  if ← pure manager.powered <&&> call .isSensorReady then
    return (true, manager)
  let ready ← bringUp model sensorAttempts
  return (ready, { manager with powered := ready })

/-- Power the sensor down before a sleep. -/
def powerDown (manager : SensorManager) : Program SensorManager := do
  if manager.driver.isNone || !manager.powered then
    return manager
  call .sleepSensor
  note .debug .sensor " Sensor powered down"
  return { manager with powered := false }

/-- Let the driver in use wake up by itself; whether it came back ready. -/
def wake (manager : SensorManager) : Program SensorManager := do
  if manager.driver.isNone || manager.powered then
    return manager
  if ← call .wakeSensor <&&> call .isSensorReady then
    note .debug .sensor " Sensor powered up"
    return { manager with powered := true }
  return manager

/-- Power the sensor up after a wake, bringing it up anew where it did not come back by itself. -/
def powerUp (manager : SensorManager) (code : UInt8) : Program (Bool × SensorManager) := do
  (← manager.wake).ensureReady code

/-- The active sensor delivers detections as interrupts. -/
def usesInterrupt (manager : SensorManager) : Program Bool :=
  pure manager.driver.isSome <&&> call .sensorUsesInterrupt

/-- Look for a detection on a powered sensor that does not deliver interrupts. -/
def poll (manager : SensorManager) : Program Bool :=
  pure (manager.driver.isSome && manager.powered) <&&>
    ((not <$> call .sensorUsesInterrupt) <&&> call .pollSensor)

/-- Sample a powered sensor. -/
def sample (manager : SensorManager) : Program (Option SensorSample) := do
  if manager.driver.isSome && manager.powered then
    return some (← call .readSensor)
  return none

/-- There is a sensor and it is healthy. -/
def isHealthy (manager : SensorManager) : Program Bool :=
  pure manager.driver.isSome <&&> call .isSensorHealthy

end SensorManager

end FieldCounter
