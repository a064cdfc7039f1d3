import FieldCounter.Proofs.Conservation
import FieldCounter.Proofs.Service
import FieldCounter.Proofs.Stretches

/-!
# What is credited is what the stretches come to

While the status goes on holding the session that is open, and the reading of the wall clock since which it was
not credited, every second that a tick records in this mode belongs to one of the stretches that are read off
its calls, and what it records is what they come to.
-/

namespace FieldCounter

open Program (Path)

namespace Watch

/-! ## The open session -/

/-- The status holds the session that is open, and the reading of the wall clock since which it was not
credited. -/
structure Tracks (watch : Watch) (status : RuntimeStatus) : Prop where
  occupied : status.occupied = watch.since.isSome
  start : ∀ since ∈ watch.since, status.occupancyStart = since.now

section

variable {watch : Watch} {status other : RuntimeStatus}

/-- It does so as long as what is counted stays the same. -/
theorem Tracks.of_figures (h : watch.Tracks status) (hfigures : other.figures = status.figures) :
    watch.Tracks other where
  occupied := (RuntimeStatus.occupied_of_figures hfigures).trans h.occupied
  start := fun since hsince => (RuntimeStatus.occupancyStart_of_figures hfigures).trans (h.start since hsince)

/-- Where no session is open, none is left uncredited. -/
theorem tracks_closed (latest : Moment) (h : status.occupied = false) : ({ latest } : Watch).Tracks status where
  occupied := h
  start := nofun

/-- What is credited to the open session is the stretch since it was credited last. -/
theorem Tracks.booked_credited (h : watch.Tracks status) :
    Stretch.booked (watch.stretch false) = ⟨0, (status.creditOpenOccupancy watch.latest.now).1.toNat⟩ := by
  obtain ⟨latest, since⟩ := watch
  unfold RuntimeStatus.creditOpenOccupancy
  cases since with
  | none =>
    have hoccupied : status.occupied = false := h.occupied
    rw [hoccupied]
    rfl
  | some since =>
    have hoccupied : status.occupied = true := h.occupied
    rw [if_pos hoccupied]
    show (⟨0, secsBetween since.now latest.now⟩ : Ledger) + 0 = ⟨0, (subSat latest.now status.occupancyStart).toNat⟩
    rw [toNat_subSat, h.start since rfl]
    rfl

/-- Once it is credited, the session is open from there. -/
theorem Tracks.credited (h : watch.Tracks status) :
    ({ watch with since := watch.since.map fun _ => watch.latest } : Watch).Tracks
      (status.creditOpenOccupancy watch.latest.now).2 := by
  obtain ⟨latest, since⟩ := watch
  unfold RuntimeStatus.creditOpenOccupancy
  cases since with
  | none =>
    have hoccupied : status.occupied = false := h.occupied
    rw [if_neg (by rw [hoccupied]; exact Bool.false_ne_true)]
    exact h
  | some since =>
    have hoccupied : status.occupied = true := h.occupied
    rw [if_pos hoccupied]
    exact ⟨hoccupied, fun moment hmoment => congrArg Moment.now (Option.some.inj hmoment)⟩

/-- So is what is credited at its end. -/
theorem Tracks.booked_ended (h : watch.Tracks status) :
    Stretch.booked (watch.stretch true) =
      .ofSession (if status.occupied then some (status.openSecs watch.latest.now) else none) := by
  obtain ⟨latest, since⟩ := watch
  cases since with
  | none =>
    have hoccupied : status.occupied = false := h.occupied
    rw [hoccupied]
    rfl
  | some since =>
    have hoccupied : status.occupied = true := h.occupied
    rw [if_pos hoccupied]
    show (⟨1, secsBetween since.now latest.now⟩ : Ledger) + 0 = ⟨1, (subSat latest.now status.occupancyStart).toNat⟩
    rw [toNat_subSat, h.start since rfl]
    rfl

/-- A detection begins a session where none is open. -/
theorem Tracks.detect (h : watch.Tracks status) (hvacant : status.occupied = false) :
    watch.detect.Tracks (status.beginOccupancy watch.latest.now) := by
  have hnone : watch.since = none := by
    rw [← Option.isNone_iff_eq_none, ← Option.not_isSome, ← h.occupied, hvacant]
    rfl
  refine ⟨rfl, fun since hsince => ?_⟩
  rw [Watch.detect, hnone] at hsince
  exact congrArg Moment.now (Option.some.inj hsince)

/-- In an open session it makes no difference. -/
theorem Tracks.detect_eq (h : watch.Tracks status) (hopen : status.occupied = true) : watch.detect = watch := by
  obtain ⟨latest, since⟩ := watch
  cases since with
  | none => cases hopen.symm.trans h.occupied
  | some since => rfl

/-- A detection begins a session where the watch has it begin. -/
theorem Tracks.recordEvent (h : watch.Tracks status) (engine : CountingEngine) :
    watch.detect.Tracks (engine.recordEvent .occupancy status watch.latest).value.2.2 := by
  cases hopen : status.occupied with
  | false =>
    rw [CountingEngine.recordEvent_of_vacant hopen]
    exact h.detect hopen
  | true =>
    rw [CountingEngine.recordEvent_of_open hopen, h.detect_eq hopen]
    exact h

/-- What a service of the counting comes to is the stretch that it ends. -/
theorem Tracks.serve {counting after : Counting} {debounceMs : UInt32} {detected : Bool} {event : Option CountEvent}
    (h : watch.Tracks counting.status) (hserves : counting.Serves debounceMs ⟨detected, watch.latest⟩ event after) :
    Stretch.booked (watch.serve event).1 = event.elim 0 CountEvent.entry ∧
      (watch.serve event).2.Tracks after.status := by
  cases hserves with
  | vacant _ _ => exact ⟨rfl, h⟩
  | begins _ hvacant _ => exact ⟨rfl, h.detect hvacant⟩
  | passes _ hvacant _ => exact ⟨(h.detect hvacant).booked_ended, tracks_closed watch.latest rfl⟩
  | goesOn _ _ =>
    cases detected with
    | false => exact ⟨rfl, h⟩
    | true => exact ⟨rfl, h⟩
  | ends hopen _ =>
    have hended := h.booked_ended
    rw [if_pos hopen] at hended
    rw [Watch.serve, h.detect_eq hopen]
    exact ⟨hended, tracks_closed watch.latest rfl⟩

/-- So it is in a tick. -/
theorem Tracks.service (h : watch.Tracks status) (engine : CountingEngine) (detected : Bool) (debounceMs : UInt32) :
    let result := (engine.service detected .occupancy debounceMs status watch.latest).value
    Stretch.booked (watch.serve result.1).1 = result.1.elim 0 CountEvent.entry ∧
      (watch.serve result.1).2.Tracks result.2.2 :=
  h.serve (Counting.serves_serve ⟨engine, status⟩ debounceMs ⟨detected, watch.latest⟩)

end

end Watch

/-! ## Sleeping -/

/-- The call neither begins a stretch nor ends one, nor does it read the clocks. -/
def Call.isAside : Call → Bool
  | .readClock | .takeSensorFlag | .enqueue _ | .deepSleep _ _ => false
  | _ => true

/-- None of the calls begins a stretch or ends one, or reads the clocks. -/
def Aside (calls : List Exchange) : Prop := ∀ exchange ∈ calls, exchange.call.isAside = true

namespace Watch

variable {watch : Watch} {exchange : Exchange} {calls rest : List Exchange}

/-- A call that is aside changes nothing about the watch. -/
theorem see_of_isAside (h : exchange.call.isAside = true) : watch.see exchange = ([], watch) := by
  unfold see
  split <;> first | rfl | cases h

/-- Such calls are passed over. -/
theorem follow_of_aside (h : Aside calls) : watch.follow calls = ([], watch) := by
  induction calls with
  | nil => rfl
  | cons exchange calls ih =>
    obtain ⟨hfirst, hrest⟩ := List.forall_mem_cons.mp h
    rw [follow_cons, see_of_isAside hfirst, ih hrest]
    rfl

/-- Neither do any number of them before the other calls. -/
theorem follow_append_of_aside (h : Aside calls) : watch.follow (calls ++ rest) = watch.follow rest := by
  rw [follow_append, follow_of_aside h]
  rfl

end Watch

/-- An effect makes a call of the other kind only where it is that call. -/
theorem Effects.aside {allowed : Effect → Bool} {before after : Controller} {trace : List Exchange}
    (h : Effects allowed before trace after)
    (hask : ∀ call, allowed (.ask call) = true → call.isAside = true) : Aside trace := by
  intro exchange hmem
  obtain ⟨effect, hallowed, hcall⟩ := h.mayCall exchange hmem
  cases effect with
  | ask call =>
    rw [← eq_of_beq hcall]
    exact hask call hallowed
  | _ => cases hmade : exchange.call <;> first | rfl | (rw [hmade] at hcall; cases hcall)

/-- Getting ready for a sleep begins and ends no stretch. -/
theorem Effects.aside_of_readies {before after : Controller} {trace : List Exchange}
    (h : Effects Effect.readies before trace after) : Aside trace :=
  h.aside fun call hallowed => by cases call <;> first | rfl | cases hallowed

namespace Controller

open Step

variable {c after : Controller} {watch : Watch} {trace : List Exchange} {outcome : Outcome}

/-- What is recorded at the calls is what the stretches come to that are credited at them, and the status goes on
holding the session that is open. -/
structure Follows (c : Controller) (watch : Watch) (trace : List Exchange) (after : Controller) : Prop where
  entries : c.entries watch.latest trace = Stretch.booked (watch.follow trace).1
  tracks : (watch.follow trace).2.Tracks after.status.value

/-- Where nothing is recorded and the clocks are not read, nothing is credited. -/
theorem follows_of_aside (h : watch.Tracks c.status.value)
    (hfigures : after.status.value.figures = c.status.value.figures) (haside : Aside trace)
    (hbooks : ∀ exchange ∈ trace, exchange.call.books = false) : c.Follows watch trace after where
  entries := by
    rw [entries_eq_zero hbooks, Watch.follow_of_aside haside]
    rfl
  tracks := by
    rw [Watch.follow_of_aside haside]
    exact h.of_figures hfigures

/-- Getting ready comes before. -/
theorem Follows.prepend {ready : Controller} {first rest : List Exchange}
    (hfirst : Effects Effect.readies c first ready) (h : ready.Follows watch rest after) :
    c.Follows watch (first ++ rest) after where
  entries := by
    obtain ⟨hfigures, hconfig, hbooks⟩ := hfirst.unbooked_of_readies
    rw [entries_append, entries_eq_zero hbooks, zero_add, Watch.follow_append_of_aside hfirst.aside_of_readies,
      ← h.entries]
    exact (entries_congr hfigures (congrArg (·.countingMode) hconfig)).symm
  tracks := by
    rw [Watch.follow_append_of_aside hfirst.aside_of_readies]
    exact h.tracks

/-- A detection that ended a sleep begins a session where none is open. -/
theorem ensures_accountForWake_tracks (h : watch.Tracks c.status.value)
    (hmode : c.config.value.countingMode = .occupancy) (cause : WakeCause) :
    (accountForWake cause watch.latest).Ensures c fun trace _ after =>
      (watch.follow trace).1 = [] ∧ (watch.follow trace).2.Tracks after.status.value := by
  cases cause with
  | manual => exact ensures_discard.mpr (ensures_call.mpr fun _ => ⟨rfl, h⟩)
  | sensor =>
    refine ensures_bind.mpr (ensures_discard.mpr (ensures_call.mpr fun _ => ensures_get_bind.mpr ?_))
    refine ensures_discard.mpr (ensures_onCounting.mpr ⟨rfl, ?_⟩)
    rw [hmode]
    exact h.recordEvent c.counting
  | timer => exact ensures_pure.mpr ⟨rfl, h⟩

/-- Waking up, the clocks are read, and the sensor may be brought up, before what ended the sleep is accounted
for. -/
theorem ensures_wakeUp_parts (pins : WakePins) :
    (wakeUp pins).Ensures c fun trace _ after => ∃ moment first between accounted,
      Aside first ∧ Path ((accountForWake (.ofPins pins) moment).run between) accounted ((), after) ∧
        between.config = c.config ∧ between.status.value.figures = c.status.value.figures ∧
        trace = ⟨.readClock, moment⟩ :: (first ++ accounted) := by
  refine ensures_call_bind.mpr fun moment => ensures_get_bind.mpr (ensures_logged_bind.mpr ?_)
  extract_lets rest
  have hrest : ∀ between : Controller, (rest ()).Ensures between fun trace _ after =>
      Path ((accountForWake (.ofPins pins) moment).run between) trace ((), after) := by
    intro between
    refine ensures_bind.mpr fun accounted _ haccounted => ensures_get_bind.mpr (ensures_pure.mpr ?_)
    rw [List.append_nil]
    exact haccounted
  refine ensures_ite.mpr ⟨fun _ => ?_, fun _ => ?_⟩
  · refine ensures_modify_bind.mpr (ensures_bind.mpr (ensures_get_bind.mpr (ensures_bind.mpr ?_)))
    refine ensures_onSensors.mpr fun first result hup => ?_
    have haside : Aside first := by
      intro exchange hmem
      have hbring := SensorManager.calls_powerUp _ _ hup exchange hmem
      cases hcall : exchange.call <;> first | rfl | (rw [hcall] at hbring; cases hbring)
    refine ensures_ite.mpr ⟨fun _ => ensures_pure.mpr ?_, fun _ => ?_⟩
    · refine (hrest _).mono fun accounted _ after haccounted => ?_
      rw [List.append_nil]
      exact ⟨moment, first, _, accounted, haside, haccounted, rfl, rfl, rfl⟩
    · refine ensures_logged_bind.mpr (ensures_updateStatus.mpr ?_)
      refine (hrest _).mono fun accounted _ after haccounted => ?_
      rw [List.append_nil]
      exact ⟨moment, first, _, accounted, haside, haccounted, rfl, rfl, rfl⟩
  · exact (hrest c).mono fun accounted _ after haccounted =>
      ⟨moment, [], c, accounted, List.forall_mem_nil _, haccounted, rfl, rfl, rfl⟩

/-- So does waking up, once the clocks are read. -/
theorem ensures_wakeUp_tracks (h : watch.Tracks c.status.value)
    (hmode : c.config.value.countingMode = .occupancy) (pins : WakePins) :
    (wakeUp pins).Ensures c fun trace _ after =>
      (watch.follow trace).1 = [] ∧ (watch.follow trace).2.Tracks after.status.value := by
  refine (ensures_wakeUp_parts pins).mono fun trace _ after hparts => ?_
  obtain ⟨moment, first, between, accounted, haside, haccounted, hconfig, hfigures, rfl⟩ := hparts
  have htracks := h.of_figures hfigures
  have hread : ({ watch with latest := moment } : Watch).Tracks between.status.value :=
    ⟨htracks.occupied, htracks.start⟩
  rw [← hconfig] at hmode
  obtain ⟨hnone, hafter⟩ := ensures_accountForWake_tracks hread hmode (.ofPins pins) haccounted
  rw [Watch.follow_cons, Watch.see, Watch.follow_append_of_aside haside, hnone]
  exact ⟨rfl, hafter⟩

/-- A timed sleep credits nothing; the detection that ended it may begin a session. -/
theorem Naps.follows {plan : SleepPlan} (h : Naps c plan trace outcome after) (htracks : watch.Tracks c.status.value)
    (hmode : c.config.value.countingMode = .occupancy) :
    (watch.follow trace).1 = [] ∧ (watch.follow trace).2.Tracks after.status.value := by
  obtain ⟨first, pins, rest, asleep, rfl, hready, hpath⟩ := h.parts
  obtain ⟨hfigures, hconfig, _⟩ := hready.unbooked_of_readies
  rw [← hconfig] at hmode
  obtain ⟨hnone, hafter⟩ := ensures_wakeUp_tracks (htracks.of_figures hfigures) hmode pins hpath
  rw [Watch.follow_append_of_aside hready.aside_of_readies, Watch.follow_cons, Watch.see_of_isAside rfl, hnone]
  exact ⟨rfl, hafter⟩

/-- Nor does it record anything at a call, in this mode. -/
theorem Naps.entries_eq_zero {plan : SleepPlan} (h : Naps c plan trace outcome after) {teller : Controller}
    (hmode : teller.config.value.countingMode = .occupancy) (moment : Moment) : teller.entries moment trace = 0 := by
  obtain ⟨first, pins, rest, asleep, rfl, hready, hpath⟩ := h.parts
  obtain ⟨_, _, hbooks⟩ := hready.unbooked_of_readies
  obtain ⟨woken, following, _, rfl, hwakes, _⟩ := ensures_wakeUp pins hpath
  have hslept : teller.entry moment ⟨.timedSleep plan.seconds plan.wake, pins⟩ = 0 := by
    rw [entry, hmode]
    split <;> rfl
  rw [entries_append, Controller.entries_eq_zero hbooks, entries_cons, hslept, entries_cons, entry_readClock,
    Controller.entries_eq_zero hwakes.books_eq_false]
  rfl

/-- A deep sleep ends the open session, if nothing is credited after it. -/
theorem follows_deepSleep {first rest : List Exchange} {secs : Nat} {wake : WakeSources} {result : DeepSleepOutcome}
    (h : watch.Tracks c.status.value) (haside : Aside first) (hbooks : ∀ exchange ∈ first, exchange.call.books = false)
    (hentries : c.entries watch.latest rest = 0)
    (hrest : (({ watch with since := none } : Watch).follow rest).1 = [] ∧
      (({ watch with since := none } : Watch).follow rest).2.Tracks after.status.value) :
    c.Follows watch (first ++ ⟨.deepSleep secs wake, result⟩ :: rest) after where
  entries := by
    have hclosed : c.entry watch.latest ⟨.deepSleep secs wake, result⟩ = Stretch.booked (watch.stretch true) := by
      rw [h.booked_ended, ← c.counting.fst_closeOccupancy]
      rfl
    rw [entries_append, entries_eq_zero hbooks, entries_cons, hclosed, hentries, Watch.follow_append_of_aside haside,
      Watch.follow_cons, Watch.see, hrest.1, List.append_nil, zero_add, add_zero]
  tracks := by
    rw [Watch.follow_append_of_aside haside, Watch.follow_cons, Watch.see]
    exact hrest.2

/-- Before a deep sleep the sensor is powered down, the session is closed and the records are written, and no stretch is
credited yet. -/
theorem closes_before_deepSleep {down writing : List Exchange} {sensors : SensorManager} {ready : Controller}
    {now : UInt32} (hdown : Path c.sensors.powerDown down sensors)
    (hwrites : Effects Effect.writes ({ c with sensors }.setCounting
      (c.counting.closeOccupancy c.status.value now).value) writing ready) :
    Aside (down ++ writing) ∧ (∀ exchange ∈ down ++ writing, exchange.call.books = false) ∧
      ready.status.value.occupied = false ∧ ready.config.value = c.config.value := by
  have hdowned : ∀ exchange ∈ down, exchange.call = .sleepSensor := c.sensors.calls_powerDown hdown
  have hwriting := hwrites.mono fun _ => Effect.readies_of_writes
  obtain ⟨hfigures, hconfig, hbooks⟩ := hwriting.unbooked_of_readies
  refine ⟨fun exchange hmem => ?_, fun exchange hmem => ?_, ?_, hconfig⟩
  · rcases List.mem_append.mp hmem with hmem | hmem
    · rw [hdowned exchange hmem]
      rfl
    · exact hwriting.aside_of_readies exchange hmem
  · rcases List.mem_append.mp hmem with hmem | hmem
    · rw [hdowned exchange hmem]
      rfl
    · exact hbooks exchange hmem
  · exact (RuntimeStatus.occupied_of_figures hfigures).trans (c.counting.occupied_closeOccupancy _ _)

/-- So does a deep sleep that comes back, and the timed sleep that follows it. -/
theorem SleepsDeeply.follows {plan : SleepPlan} (h : SleepsDeeply c plan watch.latest.now trace outcome after)
    (htracks : watch.Tracks c.status.value) (hmode : c.config.value.countingMode = .occupancy) :
    c.Follows watch trace after := by
  cases h with
  | restarting hdown hwrites =>
    obtain ⟨haside, hbooks, hclosed, _⟩ := closes_before_deepSleep hdown hwrites
    exact follows_deepSleep htracks haside hbooks rfl ⟨rfl, Watch.tracks_closed _ hclosed⟩
  | @resumed _ _ planning rest _ ready between _ moment _ _ hdown hwrites hplans hnaps =>
    obtain ⟨haside, hbooks, hclosed, hready⟩ := closes_before_deepSleep hdown hwrites
    have hplanning := hplans.mono fun _ => Effect.readies_of_replans
    obtain ⟨hfigures, hconfig, hplanned⟩ := hplanning.unbooked_of_readies
    have hbetween := (Watch.tracks_closed moment hclosed).of_figures hfigures
    have hnapping : between.config.value.countingMode = .occupancy := by rwa [hconfig, hready]
    obtain ⟨hnone, hafter⟩ := hnaps.follows hbetween hnapping
    refine follows_deepSleep htracks haside hbooks ?_ ?_
    · rw [entries_cons, entry_readClock, entries_append, Controller.entries_eq_zero hplanned,
        hnaps.entries_eq_zero hmode]
      rfl
    · rw [Watch.follow_cons, Watch.see, Watch.follow_append_of_aside hplanning.aside_of_readies, hnone]
      exact ⟨rfl, hafter⟩

/-- A tick that sleeps credits what its sleeps do. -/
theorem SleepTick.follows (h : SleepTick c watch.latest trace outcome after)
    (htracks : watch.Tracks c.status.value) (hmode : c.config.value.countingMode = .occupancy) :
    c.Follows watch trace after := by
  cases h with
  | awake hwinds _ =>
    have hready := hwinds.mono fun _ => Effect.readies_of_windsDown
    obtain ⟨hfigures, _, hbooks⟩ := hready.unbooked_of_readies
    exact follows_of_aside htracks hfigures hready.aside_of_readies hbooks
  | stuck _ hwinds =>
    have hready := hwinds.mono fun _ => Effect.readies_of_windsDown
    obtain ⟨_, _, hbooks⟩ := hready.unbooked_of_readies
    exact follows_of_aside htracks rfl hready.aside_of_readies hbooks
  | asleep _ hwinds hsleeps =>
    have hready := hwinds.mono fun _ => Effect.readies_of_windsDown
    obtain ⟨hfigures, hconfig, _⟩ := hready.unbooked_of_readies
    rw [← hconfig] at hmode
    have hwound := htracks.of_figures hfigures
    refine Follows.prepend hready ?_
    cases hsleeps with
    | timed hplans hnaps =>
      have hplanning := hplans.mono fun _ => Effect.readies_of_plans
      obtain ⟨hplanned, hkept, _⟩ := hplanning.unbooked_of_readies
      rw [← hkept] at hmode
      obtain ⟨hnone, hafter⟩ := hnaps.follows (hwound.of_figures hplanned) hmode
      refine Follows.prepend hplanning ⟨?_, hafter⟩
      rw [hnaps.entries_eq_zero hmode, hnone]
      rfl
    | deep hplans hdeep =>
      have hplanning := hplans.mono fun _ => Effect.readies_of_plans
      obtain ⟨hplanned, hkept, _⟩ := hplanning.unbooked_of_readies
      rw [← hkept] at hmode
      exact Follows.prepend hplanning (hdeep.follows (hwound.of_figures hplanned) hmode)

end Controller

/-! ## Reporting -/

/-- A look is aside. -/
theorem Call.isAside_of_isInspection {call : Call} (h : call.isInspection = true) : call.isAside = true := by
  cases call <;> first | rfl | cases h

namespace Controller

open Step

variable {c after : Controller} {watch : Watch} {trace rest polling : List Exchange} {outcome : Outcome}
  {moment : Moment} {marked polled : Bool} {control : Control}

/-- A report credits the open session, which goes on from there. -/
theorem ensures_reporting_follows (h : watch.Tracks c.status.value) :
    (reporting watch.latest).Ensures c fun trace _ after => c.Follows watch trace after := by
  refine (ensures_reporting_parts watch.latest).mono fun _ _ after hparts => ?_
  obtain ⟨closed, measured, sample, taken, first, judging, hclose, hkept, hafter, _, hinspects, hjudges, rfl⟩ := hparts
  have haside : Aside first := fun exchange hmem => Call.isAside_of_isInspection (hinspects exchange hmem)
  have hjudging : Aside judging := fun exchange hmem => Call.isAside_of_isInspection (hjudges exchange hmem)
  have hcredited := h.credited
  have hclosed :
      ({ watch with since := watch.since.map fun _ => watch.latest } : Watch).Tracks closed.status.value := by
    rcases ensures_closePeriod_status watch.latest hclose with hstatus | hstatus
    · rw [hstatus]
      exact hcredited
    · rw [hstatus]
      exact ⟨hcredited.occupied, hcredited.start⟩
  have hmeasured := hclosed.of_figures hkept
  refine ⟨?_, ?_⟩
  · rw [entries_enqueue (fun exchange hmem => Call.books_of_isInspection (hinspects exchange hmem))
      (fun exchange hmem => Call.books_of_isInspection (hjudges exchange hmem)), ← h.booked_credited,
      Watch.follow_append_of_aside haside, Watch.follow_cons, Watch.see, Watch.follow_of_aside hjudging,
      List.append_nil]
  · rw [Watch.follow_append_of_aside haside, Watch.follow_cons, Watch.see, Watch.follow_of_aside hjudging]
    have hstarted : ({ watch with since := watch.since.map fun _ => watch.latest } : Watch).Tracks
        measured.status.value.resetHourly := ⟨hmeasured.occupied, hmeasured.start⟩
    exact hstarted.of_figures hafter

/-! ## The tick -/

/-- Carrying a state out credits the stretches that are seen at its calls. -/
theorem follows_of_carryOut (h : Path ((carryOut watch.latest).run c) trace (outcome, after))
    (htracks : watch.Tracks c.status.value) (hmode : c.config.value.countingMode = .occupancy) :
    c.Follows watch trace after := by
  by_cases hsleeping : c.runState = .sleeping
  · exact (sleepTick_of_carryOut h hsleeping).follows htracks hmode
  by_cases hreporting : c.runState = .reporting
  · exact ensures_reporting_follows htracks (work_of_carryOut h hreporting)
  · have hhas : Effects c.runState.has c trace after := within_carryOut watch.latest h
    obtain ⟨hfigures, hbooks⟩ := unbooked_of_has hhas hsleeping hreporting
    refine follows_of_aside htracks hfigures (hhas.aside fun call hallowed => ?_) hbooks
    cases hstate : c.runState with
    | sleeping => exact absurd hstate hsleeping
    | reporting => exact absurd hstate hreporting
    | _ =>
      rw [hstate] at hallowed
      cases call <;> first | rfl | cases hallowed

end Controller

/-- The stretches that are credited in a tick which begins at the moment: one that the service of the counting
ends, and those that are seen at the calls that follow. -/
def Watch.through (watch : Watch) (c : Controller) (detected : Bool) (moment : Moment) (rest : List Exchange) :
    List Stretch × Watch :=
  let (first, served) := { watch with latest := moment }.serve
    (c.counting.service detected c.config.value.countingMode c.config.value.debounceMs c.status.value moment).value.1
  let (more, last) := served.follow rest
  (first ++ more, last)

/-- They take no longer than the calls do. -/
theorem Watch.spends_through {c : Controller} {detected : Bool} {moment : Moment} {rest : List Exchange} {watch : Watch}
    (h : watch.Ordered) (honward : Onward (watch.latest :: moment :: readings rest)) :
    watch.Spends (watch.through c detected moment rest).1 (watch.through c detected moment rest).2 ∧
      (watch.through c detected moment rest).2.latest = (readings rest).getLastD moment := by
  obtain ⟨hstart, hlater⟩ := List.pairwise_cons.mp honward
  have hread := spends_read h (hstart moment List.mem_cons_self)
  have hserve := spends_serve hread.ordered
    (c.counting.service detected c.config.value.countingMode c.config.value.debounceMs c.status.value moment).value.1
  have hserved : ({ watch with latest := moment }.serve (c.counting.service detected c.config.value.countingMode
      c.config.value.debounceMs c.status.value moment).value.1).2.latest = moment := latest_serve _ _
  unfold through
  generalize Watch.serve _ _ = served at hserve hserved ⊢
  obtain ⟨first, between⟩ := served
  obtain rfl : between.latest = moment := hserved
  obtain ⟨hfollow, hlast⟩ := spends_follow hserve.ordered hlater
  exact ⟨hread.trans (hserve.trans hfollow), hlast⟩

namespace Controller

open Step

variable {c after : Controller} {watch : Watch} {rest polling : List Exchange}
  {moment : Moment} {marked polled : Bool} {control : Control}

/-- What a tick records is what its stretches come to. -/
theorem follows_of_tick
    (h : Path (tick.run c) (⟨.readClock, moment⟩ :: ⟨.takeSensorFlag, marked⟩ :: (polling ++ rest)) (control, after))
    (hpoll : Path c.sensors.poll polling polled) (htracks : watch.Tracks c.status.value)
    (hmode : c.config.value.countingMode = .occupancy) :
    c.booked (marked || polled) moment rest = Stretch.booked (watch.through c (marked || polled) moment rest).1 ∧
      (watch.through c (marked || polled) moment rest).2.Tracks after.status.value := by
  obtain ⟨middle, outcome, carried, closing, hcarry, hflush, rfl⟩ := parts_of_poll h hpoll
  obtain ⟨hfigures, hclosing⟩ := figures_flush hflush
  have haside : Aside closing :=
    ((within_flush_writes hflush : Effects Effect.writes _ _ _).mono fun _ => Effect.readies_of_writes).aside_of_readies
  have hread : ({ watch with latest := moment } : Watch).Tracks c.status.value := ⟨htracks.occupied, htracks.start⟩
  obtain ⟨hserved, hopened⟩ := hread.service c.counting (marked || polled) c.config.value.debounceMs
  rw [← hmode] at hserved hopened
  have hlatest := Watch.latest_serve { watch with latest := moment } (c.counting.service (marked || polled)
    c.config.value.countingMode c.config.value.debounceMs c.status.value moment).value.1
  unfold Watch.through booked
  generalize Watch.serve _ _ = served at hserved hopened hlatest ⊢
  obtain ⟨first, between⟩ := served
  obtain rfl : between.latest = moment := hlatest
  have hcarried := follows_of_carryOut hcarry (by rw [status_opened]; exact hopened) (by rwa [config_opened])
  dsimp only at hserved ⊢
  rw [← entries_opened, entries_append, entries_eq_zero hclosing, add_zero, hcarried.entries, Watch.follow_append,
    Watch.follow_of_aside haside, List.append_nil, Stretch.booked_append, hserved]
  exact ⟨rfl, hcarried.tracks.of_figures hfigures⟩

/-- The seconds of the day grow by no more than the tick records. -/
theorem day_secs_of_tick
    (h : Path (tick.run c) (⟨.readClock, moment⟩ :: ⟨.takeSensorFlag, marked⟩ :: (polling ++ rest)) (control, after))
    (hpoll : Path c.sensors.poll polling polled) :
    after.status.value.day.secs ≤ c.status.value.day.secs + (c.booked (marked || polled) moment rest).secs := by
  rw [day_of_tick h hpoll]
  split
  · exact Nat.zero_le _
  · exact Nat.min_le_left _ _

end Controller

end FieldCounter
