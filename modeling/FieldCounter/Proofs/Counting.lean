import FieldCounter.Counting

/-!
# What counting leaves alone

Counting changes the counts, the occupied time and the open session, and nothing else of the status.
The health of a status is what is left when those are wiped out, so an operation that counts is one
that keeps the health.
-/

namespace FieldCounter

/-- The status with everything that is counted wiped out. -/
def RuntimeStatus.health (status : RuntimeStatus) : RuntimeStatus :=
  { status with
    hourlyCount := 0
    dailyCount := 0
    lastCountTime := 0
    occupied := false
    occupancyStart := 0
    hourlyOccupancy := 0
    dailyOccupancy := 0 }

namespace RuntimeStatus

/-- Counting leaves the alert slot alone. -/
theorem alert_of_health {status other : RuntimeStatus} (h : other.health = status.health) :
    other.alert = status.alert := by
  have halert := congrArg alert h
  exact halert

/-- And the tier of the battery. -/
theorem batteryTier_of_health {status other : RuntimeStatus} (h : other.health = status.health) :
    other.batteryTier = status.batteryTier := by
  have htier := congrArg batteryTier h
  exact htier

/-- And the charge that is put in its place for a test. -/
theorem testSocOverride_of_health {status other : RuntimeStatus} (h : other.health = status.health) :
    other.testSocOverride = status.testSocOverride := by
  have hoverride := congrArg testSocOverride h
  exact hoverride

variable (status : RuntimeStatus)

/-- A new day changes only what is counted. -/
@[simp] theorem health_resetDaily : status.resetDaily.value.health = status.health := rfl

/-- So does crediting the open session. -/
@[simp] theorem health_creditOpenOccupancy (now : UInt32) :
    (status.creditOpenOccupancy now).2.health = status.health := by
  unfold creditOpenOccupancy
  split <;> rfl

/-- A session that is credited to a period goes on. -/
@[simp] theorem occupied_creditOpenOccupancy (now : UInt32) :
    (status.creditOpenOccupancy now).2.occupied = status.occupied := by
  unfold creditOpenOccupancy
  split <;> rfl

/-- A battery reading is no matter of counting. -/
@[simp] theorem occupied_updateBattery (reading : BatteryReading) (now : UInt32) :
    (status.updateBattery reading now).value.occupied = status.occupied := by
  unfold updateBattery
  simp only [Logged.value_bind, value_updateTier]
  cases reading.fault with
  | none => rfl
  | some fault => rfl

end RuntimeStatus

namespace CountingEngine

variable (engine : CountingEngine) (status : RuntimeStatus) (moment : Moment)

/-- So does recording a detection. -/
@[simp] theorem health_recordEvent (mode : CountingMode) :
    (engine.recordEvent mode status moment).value.2.2.health = status.health := by
  cases mode with
  | counting => rfl
  | occupancy =>
    unfold recordEvent
    dsimp only
    split <;> rfl
  | scheduled => rfl

/-- So does looking whether the session is over. -/
@[simp] theorem health_checkDebounce (debounceMs : UInt32) :
    (engine.checkDebounce debounceMs status moment).value.2.2.health = status.health := by
  unfold checkDebounce
  split
  · rfl
  · dsimp only
    split <;> rfl

/-- So does closing it. -/
@[simp] theorem health_closeOccupancy (now : UInt32) :
    (engine.closeOccupancy status now).value.2.2.health = status.health := by
  unfold closeOccupancy
  split <;> rfl

/-! ## A service by its parts -/

/-- What is recorded in a service, before it is seen whether the session is over. -/
def recorded (detected : Bool) (mode : CountingMode) : Option CountEvent × CountingEngine × RuntimeStatus :=
  if detected then
    let event := (engine.recordEvent mode status moment).value
    (some event.1, event.2)
  else (none, engine, status)

/-- In the mode that has sessions a service also looks at the debounce time. -/
theorem value_service_occupancy (detected : Bool) (debounceMs : UInt32) :
    (engine.service detected .occupancy debounceMs status moment).value =
      let recorded := engine.recorded status moment detected .occupancy
      let checked := (recorded.2.1.checkDebounce debounceMs recorded.2.2 moment).value
      ((checked.1.map CountEvent.occupancyEnded).or recorded.1, checked.2) := by
  cases detected with
  | false => rfl
  | true => rfl

/-- In the others it only records. -/
theorem value_service_of_ne {mode : CountingMode} (h : mode ≠ .occupancy) (detected : Bool) (debounceMs : UInt32) :
    (engine.service detected mode debounceMs status moment).value =
      engine.recorded status moment detected mode := by
  cases detected with
  | false => simp [service, recorded, h]
  | true => simp [service, recorded, h]

/-- So does the recording in a service. -/
@[simp] theorem health_recorded (detected : Bool) (mode : CountingMode) :
    (engine.recorded status moment detected mode).2.2.health = status.health := by
  cases detected with
  | false => rfl
  | true => exact health_recordEvent engine status moment mode

/-- So does a whole service. -/
@[simp] theorem health_service (detected : Bool) (mode : CountingMode) (debounceMs : UInt32) :
    (engine.service detected mode debounceMs status moment).value.2.2.health = status.health := by
  by_cases hmode : mode = .occupancy
  · subst hmode
    rw [value_service_occupancy]
    exact (health_checkDebounce ..).trans (health_recorded ..)
  · rw [value_service_of_ne engine status moment hmode, health_recorded]

/-! ## The open session -/

/-- A detection opens no session outside of the mode that has sessions. -/
theorem occupied_recordEvent {mode : CountingMode} (h : mode ≠ .occupancy) :
    (engine.recordEvent mode status moment).value.2.2.occupied = status.occupied := by
  cases mode with
  | counting => rfl
  | occupancy => exact absurd rfl h
  | scheduled => rfl

/-- Nor is a session opened or ended there by the detections of a tick, or by the lack of them. -/
theorem occupied_service {mode : CountingMode} (h : mode ≠ .occupancy) (edge : Bool) (debounceMs : UInt32) :
    (engine.service edge mode debounceMs status moment).value.2.2.occupied = status.occupied := by
  rw [value_service_of_ne engine status moment h]
  cases edge with
  | false => rfl
  | true => exact engine.occupied_recordEvent status moment h

/-- No session is open once it was closed before a sleep. -/
theorem occupied_closeOccupancy (now : UInt32) :
    (engine.closeOccupancy status now).value.2.2.occupied = false := by
  unfold closeOccupancy
  cases hoccupied : status.occupied with
  | false => simpa using hoccupied
  | true => rfl

end CountingEngine

end FieldCounter
