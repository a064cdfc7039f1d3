import FieldCounter.Status

/-!
# Counting

An interrupt only leaves a mark that something was detected. Once in every tick the mark is taken
and accounted for here: as a count, or as a detection that opens an occupancy session or keeps it
open. A session ends once the debounce time has gone by without a detection.
-/

namespace FieldCounter

/-- Milliseconds for which the device is busy with a detection. -/
def indicatorHoldMs : Nat := 1500

/-- What became of a detection, or of the lack of one. -/
inductive CountEvent where
  | counted
  | occupancyStarted
  /-- A detection in an open session, which starts the debounce time anew. -/
  | occupancyExtended
  /-- The debounce time ran out; the seconds are those credited at the end of the session. -/
  | occupancyEnded (secs : UInt32)
  /-- The mode does not count detections. -/
  | ignored
deriving DecidableEq, Repr

/-- What the counting remembers within one boot: the uptime of the last detection. -/
structure CountingEngine where
  lastEvent : Option UInt64 := none
deriving DecidableEq, Repr, Inhabited

namespace CountingEngine

/-- Account for one detection. -/
def recordEvent (engine : CountingEngine) (mode : CountingMode) (status : RuntimeStatus) (moment : Moment) :
    Logged (CountEvent × CountingEngine × RuntimeStatus) := do
  match mode with
  | .counting =>
    let counted := status.countOne moment.now
    note .debug .counting s!" Count: hourly {counted.hourlyCount}, daily {counted.dailyCount}"
    return (.counted, ⟨some moment.uptimeMs⟩, counted)
  | .occupancy =>
    if status.occupied then
      return (.occupancyExtended, ⟨some moment.uptimeMs⟩, status)
    note .info .counting s!" Occupied at {moment.now}"
    return (.occupancyStarted, ⟨some moment.uptimeMs⟩, status.beginOccupancy moment.now)
  | .scheduled =>
    note .debug .counting " Detection ignored in scheduled mode"
    return (.ignored, engine, status)

/-- The uptime from which the debounce time runs: a session from before this boot starts it now. -/
def debounceStart (engine : CountingEngine) (uptimeMs : UInt64) : UInt64 := engine.lastEvent.getD uptimeMs

/-- End the open session once the debounce time has gone by; also the seconds credited for it. -/
def checkDebounce (engine : CountingEngine) (debounceMs : UInt32) (status : RuntimeStatus) (moment : Moment) :
    Logged (Option UInt32 × CountingEngine × RuntimeStatus) := do
  if !status.occupied then
    return (none, engine, status)
  let start := engine.debounceStart moment.uptimeMs
  if msBetween start moment.uptimeMs < debounceMs.toNat then
    return (none, ⟨some start⟩, status)
  let (secs, ended) := status.endOccupancy moment.now
  note .info .counting s!" Unoccupied at {moment.now}, session {secs}s"
  return (some secs, ⟨some start⟩, ended)

/-- Once per tick: account for a detection if there was one, then see whether the session is over. -/
def service (engine : CountingEngine) (edge : Bool) (mode : CountingMode) (debounceMs : UInt32)
    (status : RuntimeStatus) (moment : Moment) :
    Logged (Option CountEvent × CountingEngine × RuntimeStatus) := do
  let (recorded, engine, status) ←
    if edge then
      (fun (event, rest) => (some event, rest)) <$> engine.recordEvent mode status moment
    else pure (none, engine, status)
  if mode ≠ .occupancy then
    return (recorded, engine, status)
  let (ended, engine, status) ← engine.checkDebounce debounceMs status moment
  return ((ended.map CountEvent.occupancyEnded).or recorded, engine, status)

/-- Milliseconds until the open session would end. -/
def debounceRemaining (engine : CountingEngine) (debounceMs : UInt32) (status : RuntimeStatus)
    (uptimeMs : UInt64) : Option Nat :=
  if status.occupied then
    some (debounceMs.toNat - msBetween (engine.debounceStart uptimeMs) uptimeMs)
  else none

/-- Close the open session, if any, before a sleep that forgets it; also the seconds credited. -/
def closeOccupancy (engine : CountingEngine) (status : RuntimeStatus) (now : UInt32) :
    Logged (Option UInt32 × CountingEngine × RuntimeStatus) := do
  if !status.occupied then
    return (none, engine, status)
  let (secs, ended) := status.endOccupancy now
  note .info .counting s!" Occupancy closed before sleep, session {secs}s"
  return (some secs, ⟨none⟩, ended)

/-- A detection is still being handled. -/
def inFlight (engine : CountingEngine) (uptimeMs : UInt64) : Bool :=
  engine.lastEvent.any fun last => msBetween last uptimeMs < indicatorHoldMs

end CountingEngine

end FieldCounter
