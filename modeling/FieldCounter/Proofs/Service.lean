import FieldCounter.Proofs.Counting

/-!
# Services of the counting

In the mode that has sessions, the counting is serviced once in every tick, with a detection or without one. Only five
things can come of it, and which one it is depends on whether a session is open and on how long it has been quiet. A
detection at the very service is where the quiet time begins; a session that was open before the counting began is
taken to have had its last detection at the first service.
-/

namespace FieldCounter

namespace CountingEngine

variable {engine : CountingEngine} {status : RuntimeStatus} {moment : Moment} {debounceMs : UInt32}

/-- A detection begins a session where none is open. -/
theorem recordEvent_of_vacant (hvacant : status.occupied = false) :
    (engine.recordEvent .occupancy status moment).value =
      (.occupancyStarted, ⟨some moment.uptimeMs⟩, status.beginOccupancy moment.now) := by
  rw [recordEvent, hvacant]
  rfl

/-- In an open session it starts the debounce time anew. -/
theorem recordEvent_of_open (hopen : status.occupied = true) :
    (engine.recordEvent .occupancy status moment).value =
      (.occupancyExtended, ⟨some moment.uptimeMs⟩, status) := by
  rw [recordEvent, hopen]
  rfl

/-- Where no session is open, there is none to end. -/
theorem checkDebounce_of_vacant (hvacant : status.occupied = false) :
    (engine.checkDebounce debounceMs status moment).value = (none, engine, status) := by
  rw [checkDebounce, hvacant]
  rfl

/-- A session goes on as long as it was not quiet for the debounce time. -/
theorem checkDebounce_of_lt (hopen : status.occupied = true)
    (hearly : msBetween (engine.debounceStart moment.uptimeMs) moment.uptimeMs < debounceMs.toNat) :
    (engine.checkDebounce debounceMs status moment).value =
      (none, ⟨some (engine.debounceStart moment.uptimeMs)⟩, status) := by
  rw [checkDebounce, hopen]
  exact congrArg Logged.value (if_pos hearly)

/-- Once it was, it ends. -/
theorem checkDebounce_of_le (hopen : status.occupied = true)
    (hlate : debounceMs.toNat ≤ msBetween (engine.debounceStart moment.uptimeMs) moment.uptimeMs) :
    (engine.checkDebounce debounceMs status moment).value =
      (some (status.openSecs moment.now), ⟨some (engine.debounceStart moment.uptimeMs)⟩,
        (status.endOccupancy moment.now).2) := by
  rw [checkDebounce, hopen]
  exact congrArg Logged.value (if_neg (Nat.not_lt.mpr hlate))

end CountingEngine

/-- One service of the counting: whether there was a detection, and when it is. -/
structure Service where
  detected : Bool
  moment : Moment
deriving DecidableEq, Repr

/-- The counting, and the status that it counts in. -/
structure Counting where
  engine : CountingEngine := {}
  status : RuntimeStatus
deriving DecidableEq, Repr

namespace Counting

variable {counting : Counting} {debounceMs : UInt32} {service : Service}

/-- What became of a service in the mode that has sessions, and what it leaves. -/
def serve (counting : Counting) (debounceMs : UInt32) (service : Service) : Option CountEvent × Counting :=
  let result := (counting.engine.service service.detected .occupancy debounceMs counting.status service.moment).value
  (result.1, ⟨result.2.1, result.2.2⟩)

/-- The uptime since which it is quiet at the service. -/
def quietSince (counting : Counting) (service : Service) : UInt64 :=
  if service.detected then service.moment.uptimeMs else counting.engine.debounceStart service.moment.uptimeMs

/-- For how long it is quiet at the service. -/
def quietMs (counting : Counting) (service : Service) : Nat :=
  msBetween (counting.quietSince service) service.moment.uptimeMs

/-- What may come of a service in the mode that has sessions. -/
inductive Serves (counting : Counting) (debounceMs : UInt32) (service : Service) :
    Option CountEvent → Counting → Prop where
  /-- No session is open, and nothing begins one. -/
  | vacant : service.detected = false → counting.status.occupied = false → Serves counting debounceMs service none counting
  | begins : service.detected = true → counting.status.occupied = false → 0 < debounceMs.toNat →
      Serves counting debounceMs service (some .occupancyStarted)
        ⟨⟨some service.moment.uptimeMs⟩, counting.status.beginOccupancy service.moment.now⟩
  /-- With no debounce time a session ends where it begins. -/
  | passes : service.detected = true → counting.status.occupied = false → debounceMs.toNat = 0 →
      Serves counting debounceMs service
        (some (.occupancyEnded ((counting.status.beginOccupancy service.moment.now).openSecs service.moment.now)))
        ⟨⟨some service.moment.uptimeMs⟩,
          ((counting.status.beginOccupancy service.moment.now).endOccupancy service.moment.now).2⟩
  | goesOn : counting.status.occupied = true → counting.quietMs service < debounceMs.toNat →
      Serves counting debounceMs service (if service.detected then some .occupancyExtended else none)
        ⟨⟨some (counting.quietSince service)⟩, counting.status⟩
  | ends : counting.status.occupied = true → debounceMs.toNat ≤ counting.quietMs service →
      Serves counting debounceMs service (some (.occupancyEnded (counting.status.openSecs service.moment.now)))
        ⟨⟨some (counting.quietSince service)⟩, (counting.status.endOccupancy service.moment.now).2⟩

/-- With no detection, it is only seen whether the session is over. -/
theorem serve_of_quiet (hquiet : service.detected = false) :
    counting.serve debounceMs service =
      let checked := (counting.engine.checkDebounce debounceMs counting.status service.moment).value
      ((checked.1.map CountEvent.occupancyEnded).or none, ⟨checked.2.1, checked.2.2⟩) := by
  rw [serve, hquiet, CountingEngine.value_service_occupancy]
  rfl

/-- A detection is recorded before that. -/
theorem serve_of_detected (hdetected : service.detected = true) :
    counting.serve debounceMs service =
      let recorded := (counting.engine.recordEvent .occupancy counting.status service.moment).value
      let checked := (recorded.2.1.checkDebounce debounceMs recorded.2.2 service.moment).value
      ((checked.1.map CountEvent.occupancyEnded).or (some recorded.1), ⟨checked.2.1, checked.2.2⟩) := by
  rw [serve, hdetected, CountingEngine.value_service_occupancy]
  rfl

/-- An open session goes on or ends by how long it has been quiet. -/
theorem serves_of_open (debounceMs : UInt32) (hopen : counting.status.occupied = true) (engine : CountingEngine)
    (hstart : engine.debounceStart service.moment.uptimeMs = counting.quietSince service) :
    let checked := (engine.checkDebounce debounceMs counting.status service.moment).value
    counting.Serves debounceMs service
      ((checked.1.map CountEvent.occupancyEnded).or (if service.detected then some .occupancyExtended else none))
      ⟨checked.2.1, checked.2.2⟩ := by
  have hquiet : msBetween (engine.debounceStart service.moment.uptimeMs) service.moment.uptimeMs =
      counting.quietMs service := by rw [hstart, quietMs]
  rcases Nat.lt_or_ge (counting.quietMs service) debounceMs.toNat with hearly | hlate
  · rw [CountingEngine.checkDebounce_of_lt hopen (hquiet ▸ hearly), hstart]
    exact .goesOn hopen hearly
  · rw [CountingEngine.checkDebounce_of_le hopen (hquiet ▸ hlate), hstart]
    exact .ends hopen hlate

/-- A session that is begun goes on, unless there is no debounce time. -/
theorem serves_of_begun (hdetected : service.detected = true) (hvacant : counting.status.occupied = false) :
    counting.Serves debounceMs service (counting.serve debounceMs service).1
      (counting.serve debounceMs service).2 := by
  let engine : CountingEngine := ⟨some service.moment.uptimeMs⟩
  have hbegun : (counting.status.beginOccupancy service.moment.now).occupied = true := rfl
  have hquiet : msBetween (engine.debounceStart service.moment.uptimeMs) service.moment.uptimeMs = 0 := Nat.sub_self _
  rw [serve_of_detected hdetected, CountingEngine.recordEvent_of_vacant hvacant]
  dsimp only
  rcases Nat.eq_zero_or_pos debounceMs.toNat with hzero | hpos
  · rw [CountingEngine.checkDebounce_of_le hbegun (hzero ▸ Nat.zero_le _)]
    exact .passes hdetected hvacant hzero
  · rw [CountingEngine.checkDebounce_of_lt hbegun (hquiet ▸ hpos)]
    exact .begins hdetected hvacant hpos

/-- Whatever the counting is and whenever it is serviced, the service comes to one of these. -/
theorem serves_serve (counting : Counting) (debounceMs : UInt32) (service : Service) :
    counting.Serves debounceMs service (counting.serve debounceMs service).1
      (counting.serve debounceMs service).2 := by
  cases hdetected : service.detected with
  | false =>
    rw [serve_of_quiet hdetected]
    cases hopen : counting.status.occupied with
    | false =>
      rw [CountingEngine.checkDebounce_of_vacant hopen]
      exact .vacant hdetected hopen
    | true =>
      have hstart : counting.engine.debounceStart service.moment.uptimeMs = counting.quietSince service := by
        rw [quietSince, hdetected]
        rfl
      have hserves := serves_of_open debounceMs hopen counting.engine hstart
      rwa [hdetected] at hserves
  | true =>
    cases hopen : counting.status.occupied with
    | false => exact serves_of_begun hdetected hopen
    | true =>
      rw [serve_of_detected hdetected, CountingEngine.recordEvent_of_open hopen]
      have hstart : service.moment.uptimeMs = counting.quietSince service := by
        rw [quietSince, hdetected]
        rfl
      have hserves := serves_of_open debounceMs hopen ⟨some service.moment.uptimeMs⟩ hstart
      rwa [hdetected] at hserves

end Counting

end FieldCounter
