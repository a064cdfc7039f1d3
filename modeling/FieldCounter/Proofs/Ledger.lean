import Mathlib.Algebra.BigOperators.Group.List.Basic
import FieldCounter.Proofs.Reporting
import FieldCounter.Proofs.Sleeping

/-!
# Counts and occupied time as a ledger

A ledger is a number of counts and of occupied seconds. The status holds one for the running period and
one for the day, a report holds one, and whatever is recorded is an entry: a count, a session that ended
with the seconds credited for it, or the seconds credited to a session that goes on. An operation that
records makes both ledgers of the status grow by its entry, as far as the counters reach.
-/

namespace FieldCounter

open Program (Path)

/-- Counts and occupied seconds. -/
@[ext] structure Ledger where
  counts : Nat
  secs : Nat
deriving DecidableEq, Repr

namespace Ledger

instance : Add Ledger := ⟨fun first more => ⟨first.counts + more.counts, first.secs + more.secs⟩⟩

instance : Zero Ledger := ⟨⟨0, 0⟩⟩

instance : LE Ledger := ⟨fun part whole => part.counts ≤ whole.counts ∧ part.secs ≤ whole.secs⟩

/-- The counts are added up. -/
@[simp] theorem counts_add (first more : Ledger) : (first + more).counts = first.counts + more.counts := rfl

/-- The seconds are added up. -/
@[simp] theorem secs_add (first more : Ledger) : (first + more).secs = first.secs + more.secs := rfl

/-- A ledger is part of another one if both its numbers are. -/
theorem le_iff {part whole : Ledger} : part ≤ whole ↔ part.counts ≤ whole.counts ∧ part.secs ≤ whole.secs := Iff.rfl

instance : AddCommMonoid Ledger where
  add_assoc first more rest := Ledger.ext (Nat.add_assoc ..) (Nat.add_assoc ..)
  zero_add ledger := Ledger.ext (Nat.zero_add _) (Nat.zero_add _)
  add_zero _ := rfl
  add_comm first more := Ledger.ext (Nat.add_comm ..) (Nat.add_comm ..)
  nsmul := nsmulRec

/-- As much of it as two counters can hold. -/
def capped (ledger : Ledger) : Ledger := ⟨min ledger.counts wordMax, min ledger.secs wordMax⟩

/-- Neither number has reached the largest one that a counter can hold. -/
def HasRoom (ledger : Ledger) : Prop := ledger.counts < wordMax ∧ ledger.secs < wordMax

instance (ledger : Ledger) : Decidable ledger.HasRoom := inferInstanceAs (Decidable (_ ∧ _))

/-- What was cut off once is not missed by a later cut. -/
theorem capped_capped_add (first more : Ledger) : (first.capped + more).capped = (first + more).capped := by
  ext <;> simp only [capped, counts_add, secs_add] <;> omega

/-- Where there is room, nothing was cut off. -/
theorem capped_eq_self {ledger : Ledger} (h : ledger.capped.HasRoom) : ledger.capped = ledger := by
  simp only [HasRoom, capped] at h
  ext <;> simp only [capped] <;> omega

/-- A part that grows like the whole stays a part of it. -/
theorem capped_add_le {part whole : Ledger} (h : part ≤ whole) (entry : Ledger) :
    (part + entry).capped ≤ (whole + entry).capped := by
  simp only [le_iff, capped, counts_add, secs_add] at h ⊢
  omega

/-- Nothing is part of every ledger. -/
theorem zero_le (ledger : Ledger) : 0 ≤ ledger := ⟨Nat.zero_le _, Nat.zero_le _⟩

/-- A ledger holds nothing if both its numbers are zero. -/
theorem eq_zero_iff {ledger : Ledger} : ledger = 0 ↔ ledger.counts = 0 ∧ ledger.secs = 0 := Ledger.ext_iff

/-- Nothing but nothing is cut down to nothing. -/
theorem capped_eq_zero_iff {ledger : Ledger} : ledger.capped = 0 ↔ ledger = 0 := by
  simp only [eq_zero_iff, capped, wordMax]
  omega

/-- Two ledgers hold nothing together if neither holds anything. -/
theorem add_eq_zero_iff {first more : Ledger} : first + more = 0 ↔ first = 0 ∧ more = 0 := by
  simp only [eq_zero_iff, counts_add, secs_add]
  omega

end Ledger

/-! ## The ledgers of the status -/

namespace RuntimeStatus

/-- What is counted of the running period. -/
def period (status : RuntimeStatus) : Ledger := ⟨status.hourlyCount.toNat, status.hourlyOccupancy.toNat⟩

/-- What is counted of the day. -/
def day (status : RuntimeStatus) : Ledger := ⟨status.dailyCount.toNat, status.dailyOccupancy.toNat⟩

/-- All that is counted: both ledgers, and the open session. -/
def figures (status : RuntimeStatus) : Ledger × Ledger × Bool × UInt32 :=
  (status.period, status.day, status.occupied, status.occupancyStart)

/-- Both ledgers grew by the entry, as far as they reach. -/
structure GrownBy (before : RuntimeStatus) (entry : Ledger) (after : RuntimeStatus) : Prop where
  period : after.period = (before.period + entry).capped
  day : after.day = (before.day + entry).capped

variable {before between after status other : RuntimeStatus} {entry more : Ledger}

/-- The same figures are the same period. -/
theorem period_of_figures (h : other.figures = status.figures) : other.period = status.period := congrArg (·.1) h

/-- The same figures are the same day. -/
theorem day_of_figures (h : other.figures = status.figures) : other.day = status.day := congrArg (·.2.1) h

/-- The same figures tell the same of whether a session is open. -/
theorem occupied_of_figures (h : other.figures = status.figures) : other.occupied = status.occupied :=
  congrArg (·.2.2.1) h

/-- The same figures tell the same of when it began. -/
theorem occupancyStart_of_figures (h : other.figures = status.figures) :
    other.occupancyStart = status.occupancyStart := congrArg (·.2.2.2) h

/-- The ledgers of a status are within their counters. -/
theorem capped_period (status : RuntimeStatus) : status.period.capped = status.period :=
  Ledger.ext (Nat.min_eq_left (toNat_le_wordMax _)) (Nat.min_eq_left (toNat_le_wordMax _))

/-- What is counted of a day is never more than the counters hold. -/
theorem capped_day (status : RuntimeStatus) : status.day.capped = status.day :=
  Ledger.ext (Nat.min_eq_left (toNat_le_wordMax _)) (Nat.min_eq_left (toNat_le_wordMax _))

/-- What leaves the figures alone records nothing. -/
theorem grownBy_zero (h : after.figures = before.figures) : before.GrownBy 0 after where
  period := by rw [period_of_figures h, add_zero, capped_period]
  day := by rw [day_of_figures h, add_zero, capped_day]

/-- One entry after another is both of them. -/
theorem GrownBy.trans (h : before.GrownBy entry between) (hrest : between.GrownBy more after) :
    before.GrownBy (entry + more) after where
  period := by rw [hrest.period, h.period, Ledger.capped_capped_add, add_assoc]
  day := by rw [hrest.day, h.day, Ledger.capped_capped_add, add_assoc]

/-- The day goes on holding what the period holds. -/
theorem GrownBy.period_le_day (h : before.GrownBy entry after) (hle : before.period ≤ before.day) :
    after.period ≤ after.day := by
  rw [h.period, h.day]
  exact Ledger.capped_add_le hle entry

/-- A count is an entry of one. -/
theorem grownBy_countOne (status : RuntimeStatus) (now : UInt32) : status.GrownBy ⟨1, 0⟩ (status.countOne now) where
  period := Ledger.ext (toNat_addSat ..) (Nat.min_eq_left (toNat_le_wordMax _)).symm
  day := Ledger.ext (toNat_addSat ..) (Nat.min_eq_left (toNat_le_wordMax _)).symm

/-- Seconds that are credited are an entry of so many. -/
theorem grownBy_credit (status : RuntimeStatus) (secs : UInt32) :
    status.GrownBy ⟨0, secs.toNat⟩ (status.credit secs) where
  period := Ledger.ext (Nat.min_eq_left (toNat_le_wordMax _)).symm (toNat_addSat ..)
  day := Ledger.ext (Nat.min_eq_left (toNat_le_wordMax _)).symm (toNat_addSat ..)

/-- What is credited to an open session, it grows by. -/
theorem grownBy_creditOpenOccupancy (status : RuntimeStatus) (now : UInt32) :
    status.GrownBy ⟨0, (status.creditOpenOccupancy now).1.toNat⟩ (status.creditOpenOccupancy now).2 := by
  unfold creditOpenOccupancy
  split
  · exact ⟨(status.grownBy_credit _).period, (status.grownBy_credit _).day⟩
  · exact grownBy_zero rfl

/-- A session that ends counts as one, with the seconds credited for it. -/
theorem grownBy_endOccupancy (status : RuntimeStatus) (now : UInt32) :
    status.GrownBy ⟨1, (status.endOccupancy now).1.toNat⟩ (status.endOccupancy now).2 := by
  have hclosed := grownBy_credit { status with occupied := false } (status.openSecs now)
  have hended := hclosed.trans (grownBy_countOne _ now)
  have hentry : (⟨0, (status.openSecs now).toNat⟩ + ⟨1, 0⟩ : Ledger) = ⟨1, (status.openSecs now).toNat⟩ :=
    Ledger.ext (Nat.zero_add _) (Nat.add_zero _)
  rw [hentry] at hended
  exact ⟨hended.period, hended.day⟩

end RuntimeStatus

/-- The ledger of a report is the one of the period it closes. -/
def DataSnapshot.period (report : DataSnapshot) : Ledger := ⟨report.hourlyCount.toNat, report.hourlyOccupancy.toNat⟩

/-- What it says of the day. -/
def DataSnapshot.day (report : DataSnapshot) : Ledger := ⟨report.dailyCount.toNat, report.dailyOccupancy.toNat⟩

/-! ## What counting records -/

/-- A detection is an entry of its own in counting mode only. -/
def CountingMode.entry : CountingMode → Ledger
  | .counting => ⟨1, 0⟩
  | .occupancy | .scheduled => 0

/-- The entry of a session, if one ended. -/
def Ledger.ofSession (ended : Option UInt32) : Ledger := ended.elim 0 fun secs => ⟨1, secs.toNat⟩

/-- What became of a detection, or of the lack of one, as an entry. -/
def CountEvent.entry : CountEvent → Ledger
  | .counted => ⟨1, 0⟩
  | .occupancyEnded secs => ⟨1, secs.toNat⟩
  | .occupancyStarted | .occupancyExtended | .ignored => 0

namespace CountingEngine

variable (engine : CountingEngine) (status : RuntimeStatus) (moment : Moment)

/-- What a detection records depends on the mode alone. -/
theorem entry_recordEvent (mode : CountingMode) :
    (engine.recordEvent mode status moment).value.1.entry = mode.entry := by
  cases mode with
  | counting => rfl
  | occupancy =>
    unfold recordEvent
    dsimp only
    split <;> rfl
  | scheduled => rfl

/-- A detection is recorded as the entry of its mode. -/
theorem grownBy_recordEvent (mode : CountingMode) :
    status.GrownBy mode.entry (engine.recordEvent mode status moment).value.2.2 := by
  cases mode with
  | counting => exact status.grownBy_countOne moment.now
  | occupancy =>
    unfold recordEvent
    dsimp only
    split
    · exact RuntimeStatus.grownBy_zero rfl
    · exact ⟨(RuntimeStatus.grownBy_zero rfl).period, (RuntimeStatus.grownBy_zero rfl).day⟩
  | scheduled => exact RuntimeStatus.grownBy_zero rfl

/-- A session that is over is recorded with what it comes to. -/
theorem grownBy_checkDebounce (debounceMs : UInt32) :
    status.GrownBy (.ofSession (engine.checkDebounce debounceMs status moment).value.1)
      (engine.checkDebounce debounceMs status moment).value.2.2 := by
  unfold checkDebounce
  split
  · exact RuntimeStatus.grownBy_zero rfl
  · dsimp only
    split
    · exact RuntimeStatus.grownBy_zero rfl
    · exact status.grownBy_endOccupancy moment.now

/-- A session that is closed is recorded with what it comes to. -/
theorem grownBy_closeOccupancy (now : UInt32) :
    status.GrownBy (.ofSession (engine.closeOccupancy status now).value.1)
      (engine.closeOccupancy status now).value.2.2 := by
  unfold closeOccupancy
  split
  · exact RuntimeStatus.grownBy_zero rfl
  · exact status.grownBy_endOccupancy now

/-- Closing credits the seconds of the open session, if there is one. -/
theorem fst_closeOccupancy (now : UInt32) :
    (engine.closeOccupancy status now).value.1 = if status.occupied then some (status.openSecs now) else none := by
  unfold closeOccupancy
  cases status.occupied with
  | false => rfl
  | true => rfl

/-- The end of a session is reported in place of a detection that records nothing. -/
theorem elim_occupancyEnded {recorded : Option CountEvent} (ended : Option UInt32)
    (h : recorded.elim 0 CountEvent.entry = 0) :
    ((ended.map CountEvent.occupancyEnded).or recorded).elim 0 CountEvent.entry = .ofSession ended := by
  cases ended with
  | none => exact h
  | some secs => rfl

/-- Before it is seen whether the session is over, what is recorded is the entry of the detection. -/
theorem grownBy_recorded (detected : Bool) (mode : CountingMode) :
    status.GrownBy ((engine.recorded status moment detected mode).1.elim 0 CountEvent.entry)
      (engine.recorded status moment detected mode).2.2 := by
  cases detected with
  | false => exact RuntimeStatus.grownBy_zero rfl
  | true =>
    have hrecorded := engine.grownBy_recordEvent status moment mode
    rwa [← engine.entry_recordEvent status moment mode] at hrecorded

/-- In the mode that has sessions a detection has no entry of its own. -/
theorem entry_recorded_occupancy (detected : Bool) :
    (engine.recorded status moment detected .occupancy).1.elim 0 CountEvent.entry = 0 := by
  cases detected with
  | false => rfl
  | true => exact engine.entry_recordEvent status moment .occupancy

/-- In a tick, what became of a detection is all that is recorded: in occupancy mode, where the end of a
session is reported in place of a detection, the detection has no entry of its own. -/
theorem grownBy_service (detected : Bool) (mode : CountingMode) (debounceMs : UInt32) :
    status.GrownBy ((engine.service detected mode debounceMs status moment).value.1.elim 0 CountEvent.entry)
      (engine.service detected mode debounceMs status moment).value.2.2 := by
  have hrecorded := engine.grownBy_recorded status moment detected mode
  by_cases hmode : mode = .occupancy
  · subst hmode
    have hentry := engine.entry_recorded_occupancy status moment detected
    rw [hentry] at hrecorded
    rw [value_service_occupancy]
    dsimp only
    rw [elim_occupancyEnded _ hentry, ← zero_add (Ledger.ofSession _)]
    exact hrecorded.trans (grownBy_checkDebounce ..)
  · rw [value_service_of_ne engine status moment hmode]
    exact hrecorded

end CountingEngine

/-! ## What leaves the figures alone -/

namespace RuntimeStatus

/-- A battery reading is no matter of counting. -/
theorem figures_updateBattery (status : RuntimeStatus) (reading : BatteryReading) (now : UInt32) :
    (status.updateBattery reading now).value.figures = status.figures := by
  rw [value_updateBattery]
  rfl

end RuntimeStatus

namespace Records

/-- Neither is what is done online. -/
theorem kept_figures (figures : Ledger × Ledger × Bool × UInt32) :
    Kept fun records => records.status.figures = figures where
  raise := fun _ _ _ _ h => h
  remote := fun records remote report h => by
    obtain ⟨_, hfields⟩ := records.status.fields_applyRemotePower remote.power report
    rw [hfields]
    exact h
  clear := fun _ _ h => h
  battery := fun records reading now h => (records.status.figures_updateBattery reading now).trans h
  signal := fun _ _ h => h
  hook := fun _ _ h => h
  connection := fun _ _ h => h

end Records

/-- The call is one at which something may be recorded: a report is handed over, or a sleep begins. -/
def Call.books : Call → Bool
  | .enqueue _ | .deepSleep _ _ | .timedSleep _ _ => true
  | _ => false

/-- The effect neither records anything nor starts a new period or day. -/
def Effect.keepsFigures : Effect → Bool
  | .service | .detection | .closeSession | .credit | .newDay | .newPeriod => false
  | _ => true

/-- An effect that records nothing leaves the figures alone. -/
theorem Effect.Does.figures_eq {effect : Effect} {before after : Controller} {trace : List Exchange}
    (h : effect.Does before trace after) (hkeeps : effect.keepsFigures = true) :
    after.status.value.figures = before.status.value.figures := by
  cases h with
  | service | detection | closeSession | credit | newDay | newPeriod => cases hkeeps
  | battery c reading now => exact before.status.value.figures_updateBattery reading now
  | actOnline hpath =>
    have hkept := Records.kept_figures before.status.value.figures
    obtain ⟨_, settled, hsettled, hrecords⟩ := hkept.actOnline rfl _ _ _ hpath
    have hstatus := congrArg (·.status.figures) hrecords
    exact hstatus.trans ((congrArg (·.figures) settled.status_settleResetCount).trans hsettled)
  | reload hpath => exact (Records.kept_figures before.status.value.figures).reloadRemote rfl _ hpath
  | writeStatus hpath => exact congrArg (·.figures) (Persisted.value_of_flush hpath)
  | enter uptime => exact congrArg (·.value.figures) (before.status_prepare uptime)
  | _ => rfl

/-- So does a row of them. -/
theorem Effects.figures_eq {allowed : Effect → Bool} {before after : Controller} {trace : List Exchange}
    (h : Effects allowed before trace after)
    (hkeeps : ∀ effect, allowed effect = true → effect.keepsFigures = true) :
    after.status.value.figures = before.status.value.figures := by
  induction h with
  | none c => rfl
  | cons hallowed hdoes _ ih => exact ih.trans (hdoes.figures_eq (hkeeps _ hallowed))

/-- An effect makes such a call only where it is that call. -/
theorem Effect.books_of_mayCall {effect : Effect} {call : Call} (h : effect.mayCall call = true)
    (hask : ∀ call, effect = .ask call → call.books = false) : call.books = false := by
  cases effect with
  | ask asked =>
    have hasked := hask asked rfl
    rwa [eq_of_beq h] at hasked
  | _ => cases call <;> first | rfl | cases h

/-- Effects whose own calls record nothing come to no call that does. -/
theorem Effects.books_eq_false {allowed : Effect → Bool} {before after : Controller} {trace : List Exchange}
    (h : Effects allowed before trace after)
    (hask : ∀ call, allowed (.ask call) = true → call.books = false) :
    ∀ exchange ∈ trace, exchange.call.books = false := by
  intro exchange hmem
  obtain ⟨effect, hallowed, hcall⟩ := h.mayCall exchange hmem
  exact Effect.books_of_mayCall hcall fun call heq => hask call (heq ▸ hallowed)

end FieldCounter
