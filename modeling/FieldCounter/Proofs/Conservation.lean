import FieldCounter.Proofs.FallingAsleep
import FieldCounter.Proofs.Ledger
import FieldCounter.Proofs.Transparency

/-!
# No count is lost or made up

A tick records what its service of the counting came to, what a detection that woke the device counts for,
the session that is closed before a deep sleep, and the seconds credited to an open session in a report.
All of this is in the ledger of the running period, until a report carries the ledger away and a new
period starts from nothing. Both ledgers are in storage at the end of a tick, so a reboot changes neither.
-/

namespace FieldCounter

open Program (Path)

/-! ## What a tick records -/

/-- What is recorded at the call, by a controller as its service of the counting has left it. -/
def Controller.entry (c : Controller) (moment : Moment) : Exchange → Ledger
  | ⟨.enqueue _, _⟩ => ⟨0, (c.status.value.creditOpenOccupancy moment.now).1.toNat⟩
  | ⟨.deepSleep _ _, _⟩ => .ofSession (c.counting.closeOccupancy c.status.value moment.now).value.1
  | ⟨.timedSleep _ _, pins⟩ => if WakeCause.ofPins pins = .sensor then c.config.value.countingMode.entry else 0
  | _ => 0

/-- What is recorded at all the calls. -/
def Controller.entries (c : Controller) (moment : Moment) (calls : List Exchange) : Ledger :=
  (calls.map (c.entry moment)).sum

/-- What a tick records: what its service of the counting comes to, with a detection or without one, and what
is recorded at the calls that follow. -/
def Controller.booked (c : Controller) (detected : Bool) (moment : Moment) (calls : List Exchange) : Ledger :=
  (c.counting.service detected c.config.value.countingMode c.config.value.debounceMs c.status.value
      moment).value.1.elim 0 CountEvent.entry +
    (c.serviced detected moment).entries moment calls

/-- The event records this much. A tick does so from its look at the mark of a detection, and at the sensor
where it has to be asked. -/
inductive Event.Books : Event → Ledger → Prop where
  | boot (calls : List Exchange) (c : Controller) : Books (.boot calls c) 0
  | raise (alert : Alert) (now : UInt32) : Books (.raise alert now) 0
  | tick {before after : Controller} {moment : Moment} {marked polled : Bool} {polling rest : List Exchange}
      {control : Control} :
      Path before.sensors.poll polling polled →
      Books (.tick before (⟨.readClock, moment⟩ :: ⟨.takeSensorFlag, marked⟩ :: (polling ++ rest)) control after)
        (before.booked (marked || polled) moment rest)

/-- The events of the history record this much together. -/
def Booked (history : List Event) (total : Ledger) : Prop :=
  ∃ entries, List.Forall₂ Event.Books history entries ∧ total = entries.sum

/-! ## What is reported -/

/-- The report that is handed to the queue, and whether the queue takes it. -/
def Exchange.report : Exchange → Option (DataSnapshot × Bool)
  | ⟨.enqueue report, taken⟩ => some (report, taken)
  | _ => none

/-- All the reports among the calls. -/
def reports (calls : List Exchange) : List (DataSnapshot × Bool) := calls.filterMap Exchange.report

/-- What the reports hold that the queue takes, or that it does not take. -/
def reported (taken : Bool) (calls : List Exchange) : Ledger :=
  (((reports calls).filter (·.2 = taken)).map (·.1.period)).sum

/-- Reports are listed part by part. -/
theorem reports_append (calls rest : List Exchange) : reports (calls ++ rest) = reports calls ++ reports rest :=
  List.filterMap_append

/-- What they hold is added up part by part. -/
theorem reported_append (taken : Bool) (calls rest : List Exchange) :
    reported taken (calls ++ rest) = reported taken calls + reported taken rest := by
  simp only [reported, reports_append, List.filter_append, List.map_append, List.sum_append]

namespace Controller

variable {c other : Controller} {moment : Moment} {calls rest : List Exchange}

/-- Entries are added up part by part. -/
theorem entries_append : c.entries moment (calls ++ rest) = c.entries moment calls + c.entries moment rest := by
  simp only [entries, List.map_append, List.sum_append]

/-- Entries are added up call by call. -/
theorem entries_cons (exchange : Exchange) :
    c.entries moment (exchange :: rest) = c.entry moment exchange + c.entries moment rest := by
  simp only [entries, List.map_cons, List.sum_cons]

/-- At most calls nothing is recorded. -/
theorem entry_eq_zero {exchange : Exchange} (h : exchange.call.books = false) : c.entry moment exchange = 0 := by
  unfold entry
  split <;> first | rfl | cases h

/-- Nothing is recorded where the clock is read. -/
@[simp] theorem entry_readClock (answer : Moment) : c.entry moment ⟨.readClock, answer⟩ = 0 := rfl

/-- Nothing is recorded by calls that are not of the kind. -/
theorem entries_eq_zero (h : ∀ exchange ∈ calls, exchange.call.books = false) : c.entries moment calls = 0 := by
  refine List.sum_eq_zero fun entry hmem => ?_
  obtain ⟨exchange, hexchange, rfl⟩ := List.mem_map.mp hmem
  exact entry_eq_zero (h exchange hexchange)

/-- What is recorded goes by the open session and the mode. -/
theorem entries_congr (hfigures : other.status.value.figures = c.status.value.figures)
    (hmode : other.config.value.countingMode = c.config.value.countingMode) :
    other.entries moment calls = c.entries moment calls := by
  have hentry : other.entry moment = c.entry moment := by
    funext exchange
    unfold entry
    simp only [RuntimeStatus.creditOpenOccupancy, CountingEngine.fst_closeOccupancy, RuntimeStatus.openSecs, hmode,
      RuntimeStatus.occupied_of_figures hfigures, RuntimeStatus.occupancyStart_of_figures hfigures]
    split <;> first | rfl | (split <;> rfl)
  rw [entries, entries, hentry]

end Controller

/-- Among calls that hand over no report there is none. -/
theorem reports_eq_nil {calls : List Exchange} (h : ∀ exchange ∈ calls, exchange.call.books = false) :
    reports calls = [] := by
  refine List.filterMap_eq_nil_iff.mpr fun exchange hmem => ?_
  have hbooks := h exchange hmem
  unfold Exchange.report
  split
  · cases hbooks
  · rfl

/-! ## Sleeping -/

/-- Getting ready for a sleep records nothing, and is no matter of the settings. -/
theorem Effects.unbooked_of_readies {before after : Controller} {trace : List Exchange}
    (h : Effects Effect.readies before trace after) :
    after.status.value.figures = before.status.value.figures ∧ after.config.value = before.config.value ∧
      ∀ exchange ∈ trace, exchange.call.books = false := by
  refine ⟨h.figures_eq fun effect hallowed => ?_, h.config_eq fun effect hallowed => ?_,
    h.books_eq_false fun call hallowed => ?_⟩
  · cases effect <;> first | rfl | cases hallowed
  · cases effect <;> first | rfl | cases hallowed
  · cases call <;> first | rfl | cases hallowed

namespace Controller

open Step

variable {c after : Controller} {trace : List Exchange} {outcome : Outcome} {moment : Moment}

/-- Only a detection that ended the sleep records anything, and it does so by the mode. -/
theorem ensures_accountForWake (cause : WakeCause) (moment : Moment) :
    (accountForWake cause moment).Ensures c fun _ _ after => c.status.value.GrownBy
      (if cause = .sensor then c.config.value.countingMode.entry else 0) after.status.value := by
  cases cause with
  | manual => exact ensures_discard.mpr (ensures_call.mpr fun _ => RuntimeStatus.grownBy_zero rfl)
  | sensor =>
    refine ensures_bind.mpr (ensures_discard.mpr (ensures_call.mpr fun _ => ensures_get_bind.mpr ?_))
    refine ensures_discard.mpr (ensures_onCounting.mpr ?_)
    exact c.counting.grownBy_recordEvent c.status.value moment c.config.value.countingMode
  | timer => exact ensures_pure.mpr (RuntimeStatus.grownBy_zero rfl)

/-- So does waking up. -/
theorem ensures_wakeUp_grownBy (pins : WakePins) :
    (wakeUp pins).Ensures c fun _ _ after => c.status.value.GrownBy
      (if WakeCause.ofPins pins = .sensor then c.config.value.countingMode.entry else 0) after.status.value := by
  refine ensures_call_bind.mpr fun moment => ensures_get_bind.mpr (ensures_logged_bind.mpr ?_)
  extract_lets rest
  have hrest : ∀ between : Controller, between.config = c.config →
      between.status.value.figures = c.status.value.figures →
      (rest ()).Ensures between fun _ _ after => c.status.value.GrownBy
        (if WakeCause.ofPins pins = .sensor then c.config.value.countingMode.entry else 0) after.status.value := by
    intro between hconfig hfigures
    refine ensures_bind.mpr ((ensures_accountForWake _ moment).mono fun _ _ accounted haccounted => ?_)
    refine ensures_get_bind.mpr (ensures_pure.mpr ?_)
    have hgrown := (RuntimeStatus.grownBy_zero hfigures).trans haccounted
    rwa [zero_add, hconfig] at hgrown
  refine ensures_ite.mpr ⟨fun _ => ?_, fun _ => hrest c rfl rfl⟩
  refine ensures_modify_bind.mpr (ensures_bind.mpr (ensures_get_bind.mpr (ensures_bind.mpr ?_)))
  refine ensures_onSensors.mpr fun _ _ _ => ensures_ite.mpr ⟨fun _ => ?_, fun _ => ?_⟩
  · exact ensures_pure.mpr (hrest _ rfl rfl)
  · exact ensures_logged_bind.mpr (ensures_updateStatus.mpr (hrest _ rfl rfl))

/-- Waking up nothing more is recorded at a call. -/
theorem Wakes.books_eq_false (h : Wakes c moment trace after) : ∀ exchange ∈ trace, exchange.call.books = false := by
  have haccounts : ∀ {before rest}, Effects Effect.accounts before rest after →
      ∀ exchange ∈ rest, exchange.call.books = false := by
    intro before rest heffects
    refine heffects.books_eq_false fun call hallowed => ?_
    cases call <;> first | rfl | cases hallowed
  cases h with
  | opened _ hup hrest =>
    intro exchange hmem
    rcases List.mem_append.mp hmem with hfirst | hlast
    · have hbring := SensorManager.calls_powerUp _ _ hup exchange hfirst
      cases hcall : exchange.call <;> first | rfl | (rw [hcall] at hbring; cases hbring)
    · exact haccounts hrest exchange hlast
  | closed _ hrest => exact haccounts hrest

/-- A timed sleep records the detection that ended it; by whom it is told makes no difference but for the
mode. -/
theorem Naps.grownBy {plan : SleepPlan} (h : Naps c plan trace outcome after) (teller : Controller) (moment : Moment)
    (hmode : c.config.value = teller.config.value) :
    c.status.value.GrownBy (teller.entries moment trace) after.status.value := by
  obtain ⟨first, pins, rest, asleep, rfl, hready, hpath⟩ := h.parts
  obtain ⟨hfigures, hconfig, hfirst⟩ := hready.unbooked_of_readies
  have hwoken := ensures_wakeUp_grownBy pins hpath
  obtain ⟨woken, following, _, rfl, hwakes, _⟩ := ensures_wakeUp pins hpath
  rw [hconfig, hmode] at hwoken
  rw [entries_append, entries_cons, entries_cons, entries_eq_zero hfirst, entries_eq_zero hwakes.books_eq_false,
    entry_readClock, add_zero, add_zero]
  exact (RuntimeStatus.grownBy_zero hfigures).trans hwoken

/-- A deep sleep records the session that is closed before it, and what the timed sleep in its place
records where it comes back. -/
theorem SleepsDeeply.grownBy {plan : SleepPlan} (h : SleepsDeeply c plan moment.now trace outcome after) :
    c.status.value.GrownBy (c.entries moment trace) after.status.value := by
  have hclosed := c.counting.grownBy_closeOccupancy c.status.value moment.now
  have hdowned : ∀ {down sensors}, Path c.sensors.powerDown down sensors →
      ∀ exchange ∈ down, exchange.call.books = false := by
    intro down sensors hdown exchange hmem
    rw [c.sensors.calls_powerDown hdown exchange hmem]
    rfl
  cases h with
  | restarting hdown hwrites =>
    obtain ⟨hfigures, _, hwriting⟩ := (hwrites.mono fun _ => Effect.readies_of_writes).unbooked_of_readies
    rw [entries_append, entries_append, entries_eq_zero (hdowned hdown), entries_eq_zero hwriting, zero_add, zero_add]
    exact hclosed.trans (RuntimeStatus.grownBy_zero hfigures)
  | resumed hdown hwrites hplans hnaps _ =>
    obtain ⟨hfigures, hconfig, hwriting⟩ := (hwrites.mono fun _ => Effect.readies_of_writes).unbooked_of_readies
    obtain ⟨hplanned, hkept, hplanning⟩ := (hplans.mono fun _ => Effect.readies_of_replans).unbooked_of_readies
    have hslept := (RuntimeStatus.grownBy_zero (hplanned.trans hfigures)).trans
      (hnaps.grownBy c moment (hkept.trans hconfig))
    rw [zero_add] at hslept
    rw [entries_append, entries_append, entries_cons, entries_cons, entries_append, entries_eq_zero (hdowned hdown),
      entries_eq_zero hwriting, entries_eq_zero hplanning, entry_readClock, zero_add, zero_add, zero_add, zero_add]
    exact hclosed.trans hslept

/-- What comes before a sleep records nothing. -/
theorem grownBy_prepend {ready : Controller} {first rest : List Exchange} (hfirst : Effects Effect.readies c first ready)
    (hrest : ready.status.value.GrownBy (ready.entries moment rest) after.status.value) :
    c.status.value.GrownBy (c.entries moment (first ++ rest)) after.status.value := by
  obtain ⟨hfigures, hconfig, hbooks⟩ := hfirst.unbooked_of_readies
  rw [entries_congr hfigures (congrArg (·.countingMode) hconfig)] at hrest
  rw [entries_append, entries_eq_zero hbooks]
  exact (RuntimeStatus.grownBy_zero hfigures).trans hrest

/-- A sleep records its entries and nothing else. -/
theorem Sleeps.grownBy (h : Sleeps c moment trace outcome after) :
    c.status.value.GrownBy (c.entries moment trace) after.status.value := by
  cases h with
  | timed hplans hnaps =>
    exact grownBy_prepend (hplans.mono fun _ => Effect.readies_of_plans) (hnaps.grownBy _ moment rfl)
  | deep hplans hdeep => exact grownBy_prepend (hplans.mono fun _ => Effect.readies_of_plans) hdeep.grownBy

/-- The sleeping state records what its sleeps do, and nothing where it stays awake. -/
theorem SleepTick.grownBy (h : SleepTick c moment trace outcome after) :
    c.status.value.GrownBy (c.entries moment trace) after.status.value := by
  cases h with
  | awake hwinds _ =>
    obtain ⟨hfigures, _, hbooks⟩ := (hwinds.mono fun _ => Effect.readies_of_windsDown).unbooked_of_readies
    rw [entries_eq_zero hbooks]
    exact RuntimeStatus.grownBy_zero hfigures
  | stuck _ hwinds =>
    obtain ⟨_, _, hbooks⟩ := (hwinds.mono fun _ => Effect.readies_of_windsDown).unbooked_of_readies
    rw [entries_eq_zero hbooks]
    exact RuntimeStatus.grownBy_zero rfl
  | asleep _ hwinds hsleeps => exact grownBy_prepend (hwinds.mono fun _ => Effect.readies_of_windsDown) hsleeps.grownBy

end Controller

/-! ## Reporting -/

/-- The call looks at the sensor, the battery or the radio. -/
def Call.isInspection : Call → Bool
  | .readBattery | .isConnected => true
  | call => call.isSensor

/-- A call to the sensor is a look. -/
theorem Call.isInspection_of_isSensor {call : Call} (h : call.isSensor = true) : call.isInspection = true := by
  cases call <;> first | rfl | cases h

/-- Nothing is recorded at it. -/
theorem Call.books_of_isInspection {call : Call} (h : call.isInspection = true) : call.books = false := by
  cases call <;> first | rfl | cases h

namespace Controller

open Step

variable {c after : Controller} {trace : List Exchange} {outcome : Outcome} {moment : Moment}

/-- A report closes the period: it holds what the period held and the entry, and the next period starts from
nothing. -/
structure Closes (c : Controller) (entry : Ledger) (calls : List Exchange) (report : DataSnapshot) (taken : Bool)
    (after : Controller) : Prop where
  reports : reports calls = [(report, taken)]
  period : report.period = (c.status.value.period + entry).capped
  cleared : after.status.value.period = 0
  day : after.status.value.day = report.day

/-- Among the calls of a report there is no other one, and nothing is recorded but what is credited. -/
theorem reports_enqueue {first rest : List Exchange} {report : DataSnapshot} {taken : Bool}
    (hfirst : ∀ exchange ∈ first, exchange.call.books = false) (hrest : ∀ exchange ∈ rest, exchange.call.books = false) :
    FieldCounter.reports (first ++ ⟨.enqueue report, taken⟩ :: rest) = [(report, taken)] := by
  rw [reports_append, reports_eq_nil hfirst]
  exact congrArg (List.cons (report, taken)) (reports_eq_nil hrest)

/-- Where one report is handed over, the entry is what the open session is credited for it. -/
theorem entries_enqueue {first rest : List Exchange} {report : DataSnapshot} {taken : Bool}
    (hfirst : ∀ exchange ∈ first, exchange.call.books = false) (hrest : ∀ exchange ∈ rest, exchange.call.books = false) :
    c.entries moment (first ++ ⟨.enqueue report, taken⟩ :: rest) =
      ⟨0, (c.status.value.creditOpenOccupancy moment.now).1.toNat⟩ := by
  rw [entries_append, entries_cons, entries_eq_zero hfirst, entries_eq_zero hrest, zero_add, add_zero]
  rfl

/-- At the end of a period the open session is credited to it, and then a new day begins if there is one. -/
theorem ensures_closePeriod_newDay (moment : Moment) :
    (closePeriod moment).Ensures c fun _ _ after => after.status.value =
      if c.isNewDay moment then (c.status.value.creditOpenOccupancy moment.now).2.resetDaily.value
      else (c.status.value.creditOpenOccupancy moment.now).2 := by
  refine ensures_get_bind.mpr (ensures_bind.mpr (ensures_modifyStatus.mpr ?_))
  extract_lets rest
  have hrest : ∀ between : Controller, between.config = c.config → (rest ()).Ensures between fun _ _ after =>
      after.status.value =
        if c.isNewDay moment then between.status.value.resetDaily.value else between.status.value := by
    intro between hconfig
    have hnewDay : between.isNewDay moment = c.isNewDay moment := by
      unfold isNewDay
      rw [hconfig]
    refine ensures_get_bind.mpr (ensures_ite.mpr ⟨fun hnew => ?_, fun hsame => ?_⟩)
    · rw [hnewDay] at hnew
      exact ensures_updateStatus.mpr (if_pos hnew).symm
    · rw [hnewDay] at hsame
      exact ensures_pure.mpr (if_neg hsame).symm
  refine ensures_ite.mpr ⟨fun _ => ensures_logged_bind.mpr ?_, fun _ => ?_⟩
  · exact hrest _ rfl
  · exact hrest _ rfl

/-- The open session is credited, and a new day may begin. -/
theorem ensures_closePeriod_status (moment : Moment) :
    (closePeriod moment).Ensures c fun _ _ after =>
      after.status.value = (c.status.value.creditOpenOccupancy moment.now).2 ∨
        after.status.value = (c.status.value.creditOpenOccupancy moment.now).2.resetDaily.value := by
  refine (ensures_closePeriod_newDay moment).mono fun _ _ after hclosed => ?_
  split at hclosed
  · exact .inr hclosed
  · exact .inl hclosed

/-- A new day is no matter of the period. -/
theorem ensures_closePeriod_period (moment : Moment) :
    (closePeriod moment).Ensures c fun _ _ after => after.status.value.period =
      (c.status.value.period + ⟨0, (c.status.value.creditOpenOccupancy moment.now).1.toNat⟩).capped := by
  have hcredited := (c.status.value.grownBy_creditOpenOccupancy moment.now).period
  refine (ensures_closePeriod_status moment).mono fun _ _ after hclosed => ?_
  rw [← hcredited]
  rcases hclosed with hclosed | hclosed
  · rw [hclosed]
  · rw [hclosed]
    rfl

/-- The effects of judging the connection. -/
def judges : Effect → Bool
  | .raise _ | .ask .isConnected => true
  | _ => false

/-- A report closes the period and reads the battery before it is handed to the queue; then a new period begins, the
time of the report is stored, and the connection is judged. -/
theorem ensures_reporting_parts (moment : Moment) :
    (reporting moment).Ensures c fun trace _ after => ∃ (closed measured : Controller) (sample : Option SensorSample)
      (taken : Bool) (first judging : List Exchange),
      Path ((closePeriod moment).run c) [] ((), closed) ∧
        measured.status.value.figures = closed.status.value.figures ∧
        after.status.value.figures = measured.status.value.resetHourly.figures ∧
        after.config.value.lastReport = moment.now ∧
        (∀ exchange ∈ first, exchange.call.isInspection = true) ∧
        (∀ exchange ∈ judging, exchange.call.isInspection = true) ∧
        trace = first ++ ⟨.enqueue (.capture measured.status.value sample moment.now), taken⟩ :: judging := by
  refine ensures_bind.mpr fun _ ⟨_, closed⟩ hclose => ?_
  obtain ⟨rfl, _⟩ := ensures_closePeriod moment hclose
  refine ensures_bind.mpr ((ensures_checkBattery moment.now).mono fun _ _ measured hmeasured => ?_)
  obtain ⟨reading, rfl, hmeasured⟩ := hmeasured
  refine ensures_bind.mpr ((ensures_queueReport moment.now).mono fun _ _ queued hqueued => ?_)
  obtain ⟨sampling, sample, taken, rfl, hsensor, hqueued⟩ := hqueued
  have hstart : (modifyStatus RuntimeStatus.resetHourly).Ensures queued fun trace _ after =>
      trace = [] ∧ after.status.value = queued.status.value.resetHourly := ensures_modifyStatus.mpr ⟨rfl, rfl⟩
  refine ensures_bind.mpr (hstart.mono fun _ _ started hstarted => ?_)
  obtain ⟨rfl, hstarted⟩ := hstarted
  have hnote : (modifyConfig fun config => { config with lastReport := moment.now }).Ensures started
      fun trace _ after => trace = [] ∧ after.status = started.status ∧ after.config.value.lastReport = moment.now :=
    ensures_modifyConfig.mpr ⟨rfl, rfl, rfl⟩
  refine ensures_bind.mpr (hnote.mono fun _ _ noted hnoted => ?_)
  obtain ⟨rfl, hnoted, htime⟩ := hnoted
  extract_lets rest
  have hrest : ∀ c, Within judges (rest ()) c := fun c =>
    .bind (.ask rfl) fun _ _ => .ite (.pure _) (within_afterReportOffline moment.now)
  have hjudges : Within judges (if moment.valid then checkConnectionHealth moment.now >>= rest else rest () :
      Step Outcome) noted := .ite (.bind (within_checkConnectionHealth rfl rfl) fun _ c => hrest c) (hrest _)
  refine Ensures.mono hjudges fun judging _ after hjudged => ?_
  have hfigures := hjudged.figures_eq fun effect hallowed => by cases effect <;> first | rfl | cases hallowed
  have hconfig := hjudged.config_eq fun effect hallowed => by cases effect <;> first | rfl | cases hallowed
  have hjudging : ∀ exchange ∈ judging, exchange.call.isInspection = true := by
    intro exchange hmem
    obtain ⟨effect, hallowed, hcall⟩ := hjudged.mayCall exchange hmem
    cases effect with
    | ask call =>
      rw [← eq_of_beq hcall]
      cases call <;> first | rfl | cases hallowed
    | raise => cases hcall
    | _ => cases hallowed
  have hsampling : ∀ exchange ∈ sampling, exchange.call.isInspection = true := fun exchange hmem =>
    Call.isInspection_of_isSensor (hsensor exchange hmem)
  have hkept : measured.status.value.figures = closed.status.value.figures := by
    rw [hmeasured]
    exact closed.status.value.figures_updateBattery reading moment.now
  have hafter : after.status.value.figures = measured.status.value.resetHourly.figures := by
    rw [hfigures, hnoted, hstarted, hqueued]
    rfl
  refine ⟨closed, measured, sample, taken, ⟨.readBattery, reading⟩ :: sampling, judging, hclose, hkept, hafter,
    (congrArg (·.lastReport) hconfig).trans htime, List.forall_mem_cons.mpr ⟨rfl, hsampling⟩, hjudging, ?_⟩
  simp

/-- Reporting closes the period with one report, whatever becomes of it. -/
theorem ensures_reporting_closes (moment : Moment) :
    (reporting moment).Ensures c fun trace _ after =>
      ∃ report taken, c.Closes (c.entries moment trace) trace report taken after := by
  refine (ensures_reporting_parts moment).mono fun _ _ after hparts => ?_
  obtain ⟨closed, measured, sample, taken, first, judging, hclose, hkept, hafter, _, hinspects, hjudges, rfl⟩ := hparts
  have hfirst := fun exchange hmem => Call.books_of_isInspection (hinspects exchange hmem)
  have hjudging := fun exchange hmem => Call.books_of_isInspection (hjudges exchange hmem)
  have hday : after.status.value.day = measured.status.value.resetHourly.day := RuntimeStatus.day_of_figures hafter
  refine ⟨_, taken, reports_enqueue hfirst hjudging, ?_, RuntimeStatus.period_of_figures hafter, hday⟩
  rw [entries_enqueue hfirst hjudging, ← ensures_closePeriod_period moment hclose]
  exact RuntimeStatus.period_of_figures hkept

/-- The day goes on by what is recorded in a report, or begins anew; the report is remembered by its time. -/
theorem ensures_reporting_newDay (moment : Moment) :
    (reporting moment).Ensures c fun trace _ after =>
      after.status.value.day =
        (if c.isNewDay moment then 0 else (c.status.value.day + c.entries moment trace).capped) ∧
      after.config.value.lastReport = moment.now := by
  refine (ensures_reporting_parts moment).mono fun _ _ after hparts => ?_
  obtain ⟨closed, measured, _, _, first, judging, hclose, hkept, hafter, htime, hinspects, hjudges, rfl⟩ := hparts
  have hfirst := fun exchange hmem => Call.books_of_isInspection (hinspects exchange hmem)
  have hjudging := fun exchange hmem => Call.books_of_isInspection (hjudges exchange hmem)
  have hstarted : after.status.value.day = measured.status.value.resetHourly.day :=
    RuntimeStatus.day_of_figures hafter
  have hmeasured : measured.status.value.day = closed.status.value.day := RuntimeStatus.day_of_figures hkept
  have hday : after.status.value.day = closed.status.value.day := hstarted.trans hmeasured
  refine ⟨?_, htime⟩
  rw [hday, entries_enqueue hfirst hjudging, ensures_closePeriod_newDay moment hclose]
  split
  · rfl
  · exact (c.status.value.grownBy_creditOpenOccupancy moment.now).day

end Controller

/-! ## The tick -/

/-- Looking for a detection, a tick hands over no report. -/
theorem reports_of_poll {sensors : SensorManager} {polling : List Exchange} {polled : Bool}
    (hpoll : Path sensors.poll polling polled) (moment : Moment) (marked : Bool) (rest : List Exchange) :
    reports (⟨.readClock, moment⟩ :: ⟨.takeSensorFlag, marked⟩ :: (polling ++ rest)) = reports rest := by
  have hlook : ∀ exchange ∈ polling, exchange.call.books = false := by
    intro exchange hmem
    have hlook := SensorManager.calls_poll _ hpoll exchange hmem
    cases hcall : exchange.call <;> first | rfl | (rw [hcall] at hlook; cases hlook)
  show reports (polling ++ rest) = _
  rw [reports_append, reports_eq_nil hlook, List.nil_append]

/-- Only the reporting state hands over reports. -/
theorem reports_eq_nil_of_has {state : RunState} {before after : Controller} {trace : List Exchange}
    (h : Effects state.has before trace after) (hstate : state ≠ .reporting) : reports trace = [] := by
  refine List.filterMap_eq_nil_iff.mpr fun exchange hmem => ?_
  obtain ⟨effect, hallowed, hcall⟩ := h.mayCall exchange hmem
  unfold Exchange.report
  split
  · cases effect with
    | ask call =>
      rw [eq_of_beq hcall] at hallowed
      cases state with
      | reporting => exact absurd rfl hstate
      | _ => cases hallowed
    | _ => cases hcall
  · rfl

/-- Apart from sleeping and reporting, no state records anything. -/
theorem unbooked_of_has {state : RunState} {before after : Controller} {trace : List Exchange}
    (h : Effects state.has before trace after) (hsleeping : state ≠ .sleeping) (hreporting : state ≠ .reporting) :
    after.status.value.figures = before.status.value.figures ∧ ∀ exchange ∈ trace, exchange.call.books = false := by
  refine ⟨h.figures_eq fun effect hallowed => ?_, h.books_eq_false fun call hallowed => ?_⟩
  · cases state with
    | sleeping => exact absurd rfl hsleeping
    | reporting => exact absurd rfl hreporting
    | _ => cases effect <;> first | rfl | cases hallowed
  · cases state with
    | sleeping => exact absurd rfl hsleeping
    | reporting => exact absurd rfl hreporting
    | _ => cases call <;> first | rfl | cases hallowed

namespace Controller

open Step

variable {c after : Controller} {moment : Moment} {marked polled : Bool} {polling rest trace : List Exchange}
  {control : Control} {outcome : Outcome}

/-- Once a state was carried out, nothing more is recorded in the tick. -/
theorem figures_flush (h : Path (flush.run (c.following outcome)) trace ((), after)) :
    after.status.value.figures = c.status.value.figures ∧ ∀ exchange ∈ trace, exchange.call.books = false := by
  have hwrites : Effects Effect.writes (c.following outcome) trace after := within_flush_writes h
  obtain ⟨hfigures, _, hbooks⟩ := (hwrites.mono fun _ => Effect.readies_of_writes).unbooked_of_readies
  refine ⟨hfigures.trans ?_, hbooks⟩
  cases outcome with
  | remain | moveTo | restart => rfl

/-- Carrying out a state other than reporting makes the period go on. -/
theorem grownBy_of_carryOut (h : Path ((carryOut moment).run c) trace (outcome, after))
    (hstate : c.runState ≠ .reporting) :
    reports trace = [] ∧ c.status.value.GrownBy (c.entries moment trace) after.status.value := by
  have hhas : Effects c.runState.has c trace after := within_carryOut moment h
  refine ⟨reports_eq_nil_of_has hhas hstate, ?_⟩
  by_cases hsleeping : c.runState = .sleeping
  · exact (sleepTick_of_carryOut h hsleeping).grownBy
  · obtain ⟨hfigures, hbooks⟩ := unbooked_of_has hhas hsleeping hstate
    rw [entries_eq_zero hbooks]
    exact RuntimeStatus.grownBy_zero hfigures

/-- A tick divides into its opening, what it carries out and its closing, as its calls do. -/
theorem parts_of_poll
    (h : Path (tick.run c) (⟨.readClock, moment⟩ :: ⟨.takeSensorFlag, marked⟩ :: (polling ++ rest)) (control, after))
    (hpoll : Path c.sensors.poll polling polled) :
    ∃ middle outcome carried closing,
      Path ((carryOut moment).run (c.opened (marked || polled) moment)) middle (outcome, carried) ∧
      Path (flush.run (carried.following outcome)) closing ((), after) ∧ rest = middle ++ closing := by
  obtain ⟨_, _, looking, found, middle, outcome, carried, closing, hlook, hcarry, hflush, _, htrace⟩ := tick_parts h
  simp only [List.cons_append, List.append_assoc] at htrace
  obtain ⟨hclock, hopening⟩ := List.cons.inj htrace
  obtain ⟨hmark, hlooking⟩ := List.cons.inj hopening
  cases hclock
  cases hmark
  obtain ⟨rfl, rfl, rfl⟩ := hpoll.unique hlook hlooking
  exact ⟨middle, outcome, carried, closing, hcarry, hflush, rfl⟩

/-- The service of the counting is the first thing a tick records. -/
theorem grownBy_opened (c : Controller) (detected : Bool) (moment : Moment) :
    c.status.value.GrownBy ((c.counting.service detected c.config.value.countingMode c.config.value.debounceMs
      c.status.value moment).value.1.elim 0 CountEvent.entry) (c.opened detected moment).status.value := by
  rw [status_opened]
  exact c.counting.grownBy_service c.status.value moment detected _ _

/-- Entering the state makes no difference to what is recorded. -/
theorem entries_opened (c : Controller) (detected : Bool) (moment : Moment) (calls : List Exchange) :
    (c.opened detected moment).entries moment calls = (c.serviced detected moment).entries moment calls :=
  entries_congr (congrArg (·.value.figures) (c.status_opened detected moment))
    (congrArg (·.value.countingMode) (c.config_opened detected moment))

/-- A tick that does not report makes the period go on by what it records. -/
theorem grownBy_of_tick
    (h : Path (tick.run c) (⟨.readClock, moment⟩ :: ⟨.takeSensorFlag, marked⟩ :: (polling ++ rest)) (control, after))
    (hpoll : Path c.sensors.poll polling polled) (hstate : c.runState ≠ .reporting) :
    reports rest = [] ∧ c.status.value.GrownBy (c.booked (marked || polled) moment rest) after.status.value := by
  obtain ⟨middle, outcome, carried, closing, hcarry, hflush, rfl⟩ := parts_of_poll h hpoll
  obtain ⟨hfigures, hclosing⟩ := figures_flush hflush
  obtain ⟨hreports, hgrown⟩ := grownBy_of_carryOut hcarry (by rwa [runState_opened])
  rw [entries_opened] at hgrown
  have hall := (c.grownBy_opened (marked || polled) moment).trans
    (hgrown.trans (RuntimeStatus.grownBy_zero hfigures))
  rw [reports_append, hreports, reports_eq_nil hclosing, booked, entries_append, entries_eq_zero hclosing]
  exact ⟨rfl, hall⟩

/-- A tick that reports closes the period with what it records, whether or not the queue takes the report. -/
theorem closes_of_tick
    (h : Path (tick.run c) (⟨.readClock, moment⟩ :: ⟨.takeSensorFlag, marked⟩ :: (polling ++ rest)) (control, after))
    (hpoll : Path c.sensors.poll polling polled) (hstate : c.runState = .reporting) :
    ∃ report taken, c.Closes (c.booked (marked || polled) moment rest) rest report taken after := by
  obtain ⟨middle, outcome, carried, closing, hcarry, hflush, rfl⟩ := parts_of_poll h hpoll
  obtain ⟨hfigures, hclosing⟩ := figures_flush hflush
  obtain ⟨report, taken, hcloses⟩ := ensures_reporting_closes moment (work_of_opened hcarry hstate)
  have hopened := (c.grownBy_opened (marked || polled) moment).period
  refine ⟨report, taken, ?_, ?_, ?_, ?_⟩
  · rw [reports_append, hcloses.reports, reports_eq_nil hclosing, List.append_nil]
  · rw [hcloses.period, hopened, entries_opened, Ledger.capped_capped_add, add_assoc, booked, entries_append,
      entries_eq_zero hclosing, add_zero]
  · rw [RuntimeStatus.period_of_figures hfigures, hcloses.cleared]
  · rw [RuntimeStatus.day_of_figures hfigures, hcloses.day]

/-- The day goes on by what a tick records, unless the tick reports on a new day. -/
theorem day_of_tick
    (h : Path (tick.run c) (⟨.readClock, moment⟩ :: ⟨.takeSensorFlag, marked⟩ :: (polling ++ rest)) (control, after))
    (hpoll : Path c.sensors.poll polling polled) :
    after.status.value.day =
      if c.runState = .reporting ∧ c.isNewDay moment = true then 0
      else (c.status.value.day + c.booked (marked || polled) moment rest).capped := by
  by_cases hstate : c.runState = .reporting
  · obtain ⟨middle, outcome, carried, closing, hcarry, hflush, rfl⟩ := parts_of_poll h hpoll
    obtain ⟨hfigures, hclosing⟩ := figures_flush hflush
    obtain ⟨hday, _⟩ := ensures_reporting_newDay moment (work_of_opened hcarry hstate)
    have hnewDay : (c.opened (marked || polled) moment).isNewDay moment = c.isNewDay moment := by
      unfold isNewDay
      rw [config_opened]
    rw [RuntimeStatus.day_of_figures hfigures, hday, hnewDay]
    by_cases hnew : c.isNewDay moment = true
    · rw [if_pos hnew, if_pos ⟨hstate, hnew⟩]
    · rw [if_neg hnew, if_neg fun hboth => hnew hboth.2, (c.grownBy_opened (marked || polled) moment).day,
        entries_opened, Ledger.capped_capped_add, add_assoc, booked, entries_append, entries_eq_zero hclosing, add_zero]
  · rw [if_neg fun hboth => hstate hboth.1]
    exact (grownBy_of_tick h hpoll hstate).2.day

end Controller

/-! ## Runs -/

/-- In the tick neither number of the period reached its largest value, nor did one of a report. -/
def Event.HasRoom : Event → Prop
  | .tick _ calls _ after => after.status.value.period.HasRoom ∧ ∀ report ∈ reports calls, report.1.period.HasRoom
  | .boot _ _ | .raise _ _ => True

instance : DecidablePred Event.HasRoom
  | .tick _ _ _ _ => inferInstanceAs (Decidable (_ ∧ _))
  | .boot _ _ | .raise _ _ => isTrue trivial

/-- What is counted in memory is what is found in storage. -/
structure Controller.Entered (c : Controller) (store : Store) : Prop where
  sound : c.Sound store
  figures : c.status.value.figures = (store.found : RuntimeStatus).figures

/-- A report of one tick is among those taken or among those not taken. -/
theorem reported_add_reported {calls : List Exchange} {report : DataSnapshot} {taken : Bool}
    (h : reports calls = [(report, taken)]) : reported true calls + reported false calls = report.period := by
  cases taken with
  | true => simp [reported, h]
  | false => simp [reported, h]

/-- Where there is no report, nothing is reported. -/
theorem reported_eq_zero {taken : Bool} {calls : List Exchange} (h : reports calls = []) : reported taken calls = 0 := by
  simp [reported, h]

namespace Controller

variable {c after : Controller} {moment : Moment} {marked polled : Bool} {polling rest : List Exchange}
  {control : Control}

/-- What the period held and what a tick records is what its report holds, if there is one, and what the
period holds afterwards. -/
theorem period_add_booked
    (h : Path (tick.run c) (⟨.readClock, moment⟩ :: ⟨.takeSensorFlag, marked⟩ :: (polling ++ rest)) (control, after))
    (hpoll : Path c.sensors.poll polling polled) (hperiod : after.status.value.period.HasRoom)
    (hreports : ∀ report ∈ reports rest, report.1.period.HasRoom) :
    c.status.value.period + c.booked (marked || polled) moment rest =
      reported true rest + reported false rest + after.status.value.period := by
  by_cases hstate : c.runState = .reporting
  · obtain ⟨report, taken, hcloses⟩ := closes_of_tick h hpoll hstate
    have hroom := hreports (report, taken) (by simp [hcloses.reports])
    rw [hcloses.period] at hroom
    rw [reported_add_reported hcloses.reports, hcloses.cleared, add_zero, hcloses.period, Ledger.capped_eq_self hroom]
  · obtain ⟨hnone, hgrown⟩ := grownBy_of_tick h hpoll hstate
    rw [hgrown.period] at hperiod
    rw [reported_eq_zero hnone, reported_eq_zero hnone, zero_add, zero_add, hgrown.period,
      Ledger.capped_eq_self hperiod]

end Controller

section

variable {c after : Controller} {store later : Store} {trace : List Exchange} {control : Control}

/-- After a tick the status is found in storage as it is in memory. -/
theorem Controller.Entered.tick (h : c.Entered store) (hpath : Path (Controller.tick.run c) trace (control, after))
    (hserves : store.Serves trace later) : after.Entered later ∧ (later.found : RuntimeStatus) = after.status.value := by
  obtain ⟨hsound, hsaved⟩ := h.sound.tick hpath hserves
  have hfound := Persisted.found_of_stored hsound.statusStored hsaved.status
  exact ⟨⟨hsound, congrArg (·.figures) hfound.symm⟩, hfound⟩

/-- A boot takes the status over as it is found in storage, and leaves it there. -/
theorem entered_of_boot (hpath : Path Controller.boot trace c) (hserves : store.Serves trace later) :
    c.Entered later ∧ (later.found : RuntimeStatus) = store.found := by
  obtain ⟨hsound, hsaved⟩ := sound_of_boot hpath hserves
  have hfound := Persisted.found_of_stored hsound.statusStored hsaved.status
  obtain ⟨_, hstatus⟩ := found_of_boot hpath hserves
  exact ⟨⟨hsound, congrArg (·.figures) hfound.symm⟩, hfound.trans hstatus⟩

/-- No report is handed over in a boot. -/
theorem reports_boot (hpath : Path Controller.boot trace c) : reports trace = [] := by
  refine reports_eq_nil fun exchange hmem => ?_
  have htouches := calls_boot hpath exchange hmem
  cases hcall : exchange.call <;> first | rfl | (rw [hcall] at htouches; cases htouches)

end

namespace Event.Leads

variable {event : Event} {state next : Option Controller} {store later : Store}

/-- Of every event it is known what it records. -/
theorem books (h : event.Leads state next) : ∃ entry, event.Books entry := by
  cases h with
  | boot hpath => exact ⟨0, .boot _ _⟩
  | tick hpath =>
    obtain ⟨moment, marked, polling, polled, rest, hpoll, rfl⟩ := Controller.opening_of_tick hpath
    exact ⟨_, .tick hpoll⟩
  | raise before alert now => exact ⟨0, .raise alert now⟩

/-- What is counted stays the same in memory and in storage. -/
theorem entered (h : event.Leads state next) (hstate : ∀ c ∈ state, c.Entered store)
    (hserves : store.Serves event.calls later) : ∀ c ∈ next, c.Entered later := by
  intro c hc
  cases h with
  | boot hpath =>
    obtain rfl := Option.some.inj hc
    exact (entered_of_boot hpath hserves).1
  | @tick before after trace control hpath =>
    cases control with
    | proceed =>
      obtain rfl := Option.some.inj hc
      exact ((hstate before rfl).tick hpath hserves).1
    | restart => cases hc
  | raise before alert now =>
    obtain rfl := Option.some.inj hc
    have hbefore := hstate before rfl
    rw [Store.serves_nil_iff.mp hserves]
    exact ⟨hbefore.sound.setStatus (RuntimeStatus.isSane_raiseAlert hbefore.sound.status alert now), hbefore.figures⟩

/-- What was held before an event and is recorded in it is in its report, or held afterwards. -/
theorem balance (h : event.Leads state next) (hstate : ∀ c ∈ state, c.Entered store)
    (hserves : store.Serves event.calls later) (hroom : event.HasRoom) {entry : Ledger} (hbooks : event.Books entry) :
    (store.found : RuntimeStatus).period + entry =
      reported true event.calls + reported false event.calls + (later.found : RuntimeStatus).period := by
  cases h with
  | @boot _ trace c hpath =>
    cases hbooks
    have hnone : reports (Event.boot trace c).calls = [] := reports_boot hpath
    rw [(entered_of_boot hpath hserves).2, reported_eq_zero hnone, reported_eq_zero hnone, add_zero, zero_add, zero_add]
  | @tick before after trace control hpath =>
    cases hbooks with
    | @tick _ _ moment marked polled polling rest _ hpoll =>
      have hreports := reports_of_poll hpoll moment marked rest
      have hsame : ∀ taken, reported taken (⟨.readClock, moment⟩ :: ⟨.takeSensorFlag, marked⟩ :: (polling ++ rest)) =
          reported taken rest := fun taken => by rw [reported, reported, hreports]
      obtain ⟨hperiod, hrest⟩ := hroom
      rw [hreports] at hrest
      have hbefore := hstate before rfl
      have hfound := (hbefore.tick hpath hserves).2
      rw [← RuntimeStatus.period_of_figures hbefore.figures, hfound]
      show _ = reported true (⟨.readClock, moment⟩ :: ⟨.takeSensorFlag, marked⟩ :: (polling ++ rest)) +
        reported false (⟨.readClock, moment⟩ :: ⟨.takeSensorFlag, marked⟩ :: (polling ++ rest)) + _
      rw [hsame, hsame]
      exact Controller.period_add_booked hpath hpoll hperiod hrest
  | raise before alert now =>
    cases hbooks
    rw [Store.serves_nil_iff.mp hserves, add_zero]
    exact (zero_add _).symm

/-- What the day holds stays at least what the period holds. -/
theorem period_le_day (h : event.Leads state next) (hstate : ∀ c ∈ state, c.Entered store)
    (hserves : store.Serves event.calls later)
    (hle : (store.found : RuntimeStatus).period ≤ (store.found : RuntimeStatus).day) :
    (later.found : RuntimeStatus).period ≤ (later.found : RuntimeStatus).day := by
  cases h with
  | boot hpath => rwa [(entered_of_boot hpath hserves).2]
  | @tick before after trace control hpath =>
    have hbefore := hstate before rfl
    rw [← RuntimeStatus.period_of_figures hbefore.figures, ← RuntimeStatus.day_of_figures hbefore.figures] at hle
    rw [(hbefore.tick hpath hserves).2]
    obtain ⟨moment, marked, polling, polled, rest, hpoll, rfl⟩ := Controller.opening_of_tick hpath
    by_cases hreporting : before.runState = .reporting
    · obtain ⟨report, taken, hcloses⟩ := Controller.closes_of_tick hpath hpoll hreporting
      rw [hcloses.cleared]
      exact Ledger.zero_le _
    · exact (Controller.grownBy_of_tick hpath hpoll hreporting).2.period_le_day hle
  | raise before alert now => rwa [Store.serves_nil_iff.mp hserves]

end Event.Leads

section

variable {state last : Option Controller} {history : List Event} {store later : Store}

/-- In every run it is known what is recorded. -/
theorem Run.booked (h : Run state history last) : ∃ total, Booked history total := by
  induction h with
  | nil state => exact ⟨0, [], .nil, rfl⟩
  | cons hleads _ ih =>
    obtain ⟨entry, hentry⟩ := hleads.books
    obtain ⟨_, entries, hentries, _⟩ := ih
    exact ⟨_, entry :: entries, .cons hentry hentries, rfl⟩

/-- Over a run, what is counted in memory stays what is found in storage. -/
theorem Run.entered (h : Run state history last) (hstate : ∀ c ∈ state, c.Entered store)
    (hserves : store.Serves (callsOf history) later) : ∀ c ∈ last, c.Entered later := by
  induction h generalizing store with
  | nil state => rwa [Store.serves_nil_iff.mp hserves]
  | cons hleads _ ih =>
    obtain ⟨between, hfirst, hrest⟩ := Store.serves_append_iff.mp hserves
    exact ih (hleads.entered hstate hfirst) hrest

/-- What is held at first and what is recorded in a run is what the reports hold, taken or not, and what is
held at last. -/
theorem Run.balance (h : Run state history last) (hstate : ∀ c ∈ state, c.Entered store)
    (hserves : store.Serves (callsOf history) later) (hroom : ∀ event ∈ history, event.HasRoom) {total : Ledger}
    (hbooked : Booked history total) :
    (store.found : RuntimeStatus).period + total =
      reported true (callsOf history) + reported false (callsOf history) + (later.found : RuntimeStatus).period := by
  obtain ⟨entries, hentries, rfl⟩ := hbooked
  induction h generalizing store entries with
  | nil state =>
    cases hentries
    rw [Store.serves_nil_iff.mp hserves]
    exact (add_zero _).trans (zero_add _).symm
  | @cons _ _ _ event rest hleads _ ih =>
    cases hentries with
    | cons hentry hrest =>
      obtain ⟨between, hfirst, hlater⟩ := Store.serves_append_iff.mp hserves
      obtain ⟨hevent, hevents⟩ := List.forall_mem_cons.mp hroom
      have hstep := hleads.balance hstate hfirst hevent hentry
      have hlast := ih (hleads.entered hstate hfirst) hlater hevents _ hrest
      show _ = reported true (event.calls ++ callsOf rest) + reported false (event.calls ++ callsOf rest) + _
      rw [List.sum_cons, ← add_assoc, hstep, add_assoc, hlast, reported_append, reported_append,
        ← add_assoc, add_add_add_comm]

/-- The day holds at least what the period holds, throughout. -/
theorem Run.period_le_day (h : Run state history last) (hstate : ∀ c ∈ state, c.Entered store)
    (hserves : store.Serves (callsOf history) later)
    (hle : (store.found : RuntimeStatus).period ≤ (store.found : RuntimeStatus).day) :
    (later.found : RuntimeStatus).period ≤ (later.found : RuntimeStatus).day := by
  induction h generalizing store with
  | nil state => rwa [Store.serves_nil_iff.mp hserves]
  | cons hleads _ ih =>
    obtain ⟨between, hfirst, hrest⟩ := Store.serves_append_iff.mp hserves
    exact ih (hleads.entered hstate hfirst) hrest (hleads.period_le_day hstate hfirst hle)

/-- So it does at the end of every tick. -/
theorem Run.period_le_day_of_tick {before after : Controller} {calls : List Exchange} {control : Control}
    (h : Run state history last) (hstate : ∀ c ∈ state, c.Entered store)
    (hserves : store.Serves (callsOf history) later)
    (hle : (store.found : RuntimeStatus).period ≤ (store.found : RuntimeStatus).day)
    (hmem : Event.tick before calls control after ∈ history) : after.status.value.period ≤ after.status.value.day := by
  obtain ⟨earlier, rest, rfl⟩ := List.append_of_mem hmem
  obtain ⟨_, _, hearlier, hleads, _⟩ := h.reach
  rw [callsOf_append] at hserves
  obtain ⟨started, hfirst, hlater⟩ := Store.serves_append_iff.mp hserves
  obtain ⟨ended, htick, _⟩ := Store.serves_append_iff.mp hlater
  have hentered := hearlier.entered hstate hfirst
  have hended := hleads.period_le_day hentered htick (hearlier.period_le_day hstate hfirst hle)
  cases hleads with
  | tick hpath => rwa [((hentered before rfl).tick hpath htick).2] at hended

end

/-- Nothing is counted yet where no status is stored. -/
theorem Store.found_of_empty {store : Store} (h : store.bytes .status = none) :
    (store.found : RuntimeStatus) = {} := by
  have hkey : store.bytes (Record.key RuntimeStatus) = none := h
  rw [Store.found, hkey]
  rfl

/-- Over a store that held no status at first, what is recorded in a run is what the reports hold, taken or not,
and what is held at last. -/
theorem Run.booked_eq {history : List Event} {last : Option Controller} {initial store : Store}
    (h : Run none history last) (hserves : initial.Serves (callsOf history) store) (hempty : initial.bytes .status = none)
    (hroom : ∀ event ∈ history, event.HasRoom) {total : Ledger} (hbooked : Booked history total) :
    total = reported true (callsOf history) + reported false (callsOf history) +
      (store.found : RuntimeStatus).period := by
  have hbalance := h.balance (fun _ hc => by cases hc) hserves hroom hbooked
  have hstart : (initial.found : RuntimeStatus).period = 0 := by
    rw [Store.found_of_empty hempty]
    rfl
  rwa [hstart, zero_add] at hbalance

/-- The reports among the calls are those that were handed to the queue. -/
theorem mem_reports {calls : List Exchange} {report : DataSnapshot} {taken : Bool} :
    (report, taken) ∈ reports calls ↔ (⟨.enqueue report, taken⟩ : Exchange) ∈ calls := by
  refine List.mem_filterMap.trans ⟨fun h => ?_, fun hmem => ⟨_, hmem, rfl⟩⟩
  obtain ⟨exchange, hmem, hreport⟩ := h
  unfold Exchange.report at hreport
  split at hreport
  · cases hreport
    exact hmem
  · cases hreport

/-- Where the queue takes every report, nothing is in reports that it did not take. -/
theorem reported_false_eq_zero {calls : List Exchange}
    (h : ∀ report, (⟨.enqueue report, false⟩ : Exchange) ∉ calls) : reported false calls = 0 := by
  have hnone : (reports calls).filter (·.2 = false) = [] := by
    rw [List.filter_eq_nil_iff]
    rintro ⟨report, taken⟩ hmem htaken
    cases of_decide_eq_true htaken
    exact h report (mem_reports.mp hmem)
  rw [reported, hnone]
  rfl

/-- In every run, over a store that keeps what is written and held no status at first, with a queue that takes
every report and counters that stay below their largest value: what was recorded is what the reports hold and
what the running period holds, in storage as in memory. At the end of every tick the day holds at least what
the period holds. -/
theorem booked_eq_reported_add_period {history : List Event} {last : Option Controller} {initial store : Store}
    (hrun : Run none history last) (hserves : initial.Serves (callsOf history) store)
    (hempty : initial.bytes .status = none)
    (htaken : ∀ report, (⟨.enqueue report, false⟩ : Exchange) ∉ callsOf history)
    (hroom : ∀ event ∈ history, event.HasRoom) :
    (∃ total, Booked history total) ∧
      (∀ total, Booked history total →
        total = reported true (callsOf history) + (store.found : RuntimeStatus).period) ∧
      (∀ c ∈ last, c.status.value.period = (store.found : RuntimeStatus).period) ∧
      ∀ before calls control after, Event.tick before calls control after ∈ history →
        after.status.value.hourlyCount ≤ after.status.value.dailyCount ∧
          after.status.value.hourlyOccupancy ≤ after.status.value.dailyOccupancy := by
  have hnone : ∀ c ∈ (none : Option Controller), c.Entered initial := fun _ h => by cases h
  refine ⟨hrun.booked, fun total hbooked => ?_, fun c hc => ?_, fun before calls control after hmem => ?_⟩
  · have hbalance := hrun.booked_eq hserves hempty hroom hbooked
    rwa [reported_false_eq_zero htaken, add_zero] at hbalance
  · exact RuntimeStatus.period_of_figures (hrun.entered hnone hserves c hc).figures
  · have hstart : (initial.found : RuntimeStatus).period ≤ (initial.found : RuntimeStatus).day := by
      rw [Store.found_of_empty hempty]
      exact Ledger.zero_le _
    obtain ⟨hcounts, hsecs⟩ := hrun.period_le_day_of_tick hnone hserves hstart hmem
    exact ⟨UInt32.le_iff_toNat_le.mpr hcounts, UInt32.le_iff_toNat_le.mpr hsecs⟩

/-- The same devices, but the sensor has left its mark. -/
def Devices.detecting (devices : Devices) : Devices
  | .takeSensorFlag => true
  | call => devices call

/-- A device counts once, learns to count sessions, and begins one, which goes on over a report and a boot until
nothing more is detected. -/
def twoPeriods : List Scene :=
  let learning : Devices
    | .loadRemote => some { modes := { countingMode := some 1, operatingMode := some 1 } }
    | call => Devices.afterNoon 4 true call
  [.boot (.afterNoon 0 false), .tick (Devices.afterNoon 1 false).detecting, .tick (.afterNoon 2 false),
    .tick (.afterNoon 3 false), .tick learning, .tick (Devices.afterNoon 100 true).detecting,
    .tick (Devices.afterNoon 3700 true).detecting, .tick (.afterNoon 3701 true), .boot (.afterNoon 3702 true),
    .tick (.afterNoon 3703 true), .tick (.afterNoon 4103 true)]

/-- The count is in the first report and the session in parts in the second one and in the period that runs; as
one it counts in the latter. -/
theorem booked_twoPeriods :
    Booked (play twoPeriods .blank).1 ⟨2, 4003⟩ ∧ reported true (callsOf (play twoPeriods .blank).1) = ⟨1, 3601⟩ ∧
      ((play twoPeriods .blank).2.store.found : RuntimeStatus).period = ⟨1, 402⟩ := by
  obtain ⟨hrun, hserves⟩ := run_play twoPeriods .blank
  have htaken : ∀ report, (⟨.enqueue report, false⟩ : Exchange) ∉ callsOf (play twoPeriods .blank).1 := by
    have hall : ∀ report ∈ reports (callsOf (play twoPeriods .blank).1), report.2 = true := by decide +kernel
    exact fun report hmem => absurd (hall _ (mem_reports.mpr hmem)) Bool.false_ne_true
  have hroom : ∀ event ∈ (play twoPeriods .blank).1, event.HasRoom := by decide +kernel
  obtain ⟨⟨total, hbooked⟩, hbalance, _⟩ := booked_eq_reported_add_period hrun hserves rfl htaken hroom
  have hreported : reported true (callsOf (play twoPeriods .blank).1) = ⟨1, 3601⟩ := by decide +kernel
  have hperiod : ((play twoPeriods .blank).2.store.found : RuntimeStatus).period = ⟨1, 402⟩ := by decide +kernel
  have htotal := hbalance total hbooked
  rw [hreported, hperiod] at htotal
  rw [htotal] at hbooked
  exact ⟨hbooked, hreported, hperiod⟩

end FieldCounter
