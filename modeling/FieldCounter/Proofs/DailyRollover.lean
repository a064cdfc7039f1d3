import FieldCounter.Proofs.Conservation
import FieldCounter.Proofs.Stretches

/-!
# The day rolls over

Whether a new local day has begun is asked only when a report is made, and it is told from the stored time of the
report before. So the day rolls over in a report that falls on a later local day than the last one, however many
days, sleeps and boots lie between the two, and nowhere else; and what the day holds at any time is what was
recorded since it last rolled over. The seconds that the report itself credits to an open session still belong to
the day that ends. For a report whose own clock is not set, or which is the first, no day is known to have ended.
-/

namespace FieldCounter

open Program (Path)

/-! ## Local days -/

/-- The local day of the moment. -/
def Moment.localDay (moment : Moment) : Int := (LocalTime.ofMoment moment).dayNumber

/-- The wall clock is set and does not go back, and local time keeps its distance from universal time. -/
structure KeepsTime (moments : List Moment) : Prop where
  valid : ∀ moment ∈ moments, moment.valid = true
  positive : ∀ moment ∈ moments, 0 < moment.now
  offset : ∀ first ∈ moments, ∀ second ∈ moments, first.utcOffset = second.utcOffset
  onward : moments.Pairwise (·.now ≤ ·.now)

instance : DecidablePred KeepsTime := fun moments =>
  decidable_of_iff ((∀ moment ∈ moments, moment.valid = true) ∧ (∀ moment ∈ moments, 0 < moment.now) ∧
      (∀ first ∈ moments, ∀ second ∈ moments, first.utcOffset = second.utcOffset) ∧
      moments.Pairwise (·.now ≤ ·.now))
    ⟨fun ⟨hvalid, hpositive, hoffset, honward⟩ => ⟨hvalid, hpositive, hoffset, honward⟩,
      fun h => ⟨h.valid, h.positive, h.offset, h.onward⟩⟩

namespace KeepsTime

variable {moments part : List Moment} {first second : Moment}

/-- So it is with part of the moments. -/
theorem sublist (h : KeepsTime moments) (hpart : part.Sublist moments) : KeepsTime part where
  valid := fun moment hmem => h.valid moment (hpart.subset hmem)
  positive := fun moment hmem => h.positive moment (hpart.subset hmem)
  offset := fun first hfirst second hsecond => h.offset first (hpart.subset hfirst) second (hpart.subset hsecond)
  onward := h.onward.sublist hpart

/-- No moment is on a later day than the last one. -/
theorem localDay_le_of_getLast? (h : KeepsTime moments) (hfirst : first ∈ moments)
    (hsecond : second ∈ moments.getLast?) : first.localDay ≤ second.localDay := by
  obtain ⟨earlier, rfl⟩ := List.getLast?_eq_some_iff.mp hsecond
  have hnow : first.now ≤ second.now := by
    rcases List.mem_append.mp hfirst with hearlier | hlast
    · exact (List.pairwise_append.mp h.onward).2.2 first hearlier second (List.mem_singleton_self second)
    · rw [List.mem_singleton.mp hlast]
      exact UInt32.le_refl _
  have hoffset : first.utcOffset = second.utcOffset :=
    h.offset first hfirst second (List.mem_append_right _ (List.mem_singleton_self second))
  have hseconds := UInt32.le_iff_toNat_le.mp hnow
  simp only [Moment.localDay, LocalTime.ofMoment, LocalTime.ofUnix, LocalTime.shifted, secsPerDay, hoffset]
  omega

end KeepsTime

/-! ## Reports and days of a history -/

/-- When the event made a report, if it did. -/
def Event.reportedAt : Event → Option Moment
  | .tick before (⟨.readClock, moment⟩ :: _) _ _ => if before.runState = .reporting then some moment else none
  | _ => none

/-- When the reports of the history were made. -/
def reportTimes (history : List Event) : List Moment := history.filterMap Event.reportedAt

/-- The event makes a report, on a later local day than the last report before it. -/
def Event.RollsOver (event : Event) (earlier : List Event) : Prop :=
  ∃ moment ∈ event.reportedAt, ∃ last ∈ (reportTimes earlier).getLast?, last.localDay < moment.localDay

/-- The day that runs at the end of the history is its second part: it began with the history or when the day last
rolled over. -/
structure DayBegan (past today : List Event) : Prop where
  begins : past = [] ∨ ∃ earlier event, past = earlier ++ [event] ∧ event.RollsOver earlier
  goesOn : ∀ earlier event rest, today = earlier ++ event :: rest → ¬event.RollsOver (past ++ earlier)

/-- A tick makes its report at the moment that it reads first. -/
theorem Event.reportedAt_tick {before after : Controller} {moment : Moment} {rest : List Exchange} {control : Control} :
    (Event.tick before (⟨.readClock, moment⟩ :: rest) control after).reportedAt =
      if before.runState = .reporting then some moment else none := rfl

/-- The times of the reports are listed part by part. -/
theorem reportTimes_append (history rest : List Event) :
    reportTimes (history ++ rest) = reportTimes history ++ reportTimes rest := List.filterMap_append

/-- A single event makes one report at most. -/
theorem reportTimes_singleton (event : Event) : reportTimes [event] = event.reportedAt.toList := by
  unfold reportTimes
  cases htime : event.reportedAt with
  | none => exact List.filterMap_cons_none htime
  | some moment => exact List.filterMap_cons_some htime

/-- The last report is that of the last event, if it made one. -/
theorem getLast?_reportTimes_concat (history : List Event) (event : Event) :
    (reportTimes (history ++ [event])).getLast? = event.reportedAt.or (reportTimes history).getLast? := by
  rw [reportTimes_append, reportTimes_singleton]
  cases event.reportedAt with
  | none => rw [Option.toList_none, List.append_nil, Option.none_or]
  | some moment => rw [Option.toList_some, List.getLast?_concat, Option.some_or]

/-- A clock that kept time over a history did so over its first part. -/
theorem KeepsTime.of_append {history rest : List Event} (h : KeepsTime (reportTimes (history ++ rest))) :
    KeepsTime (reportTimes history) := by
  rw [reportTimes_append] at h
  exact h.sublist (List.sublist_append_left _ _)

/-- The clock was read when a report was made. -/
theorem reportTimes_sublist (history : List Event) : (reportTimes history).Sublist (readings (callsOf history)) := by
  induction history with
  | nil => exact List.nil_sublist _
  | cons event history ih =>
    have hevent : event.reportedAt.toList.Sublist (readings event.calls) := by
      unfold Event.reportedAt
      split
      · rename_i before moment rest control after
        have hread : readings (⟨.readClock, moment⟩ :: rest) = moment :: readings rest := readings_cons _ rest
        show List.Sublist _ (readings (⟨.readClock, moment⟩ :: rest))
        rw [hread]
        split
        · exact List.singleton_sublist.mpr List.mem_cons_self
        · exact List.nil_sublist _
      · exact List.nil_sublist _
    show List.Sublist _ (readings (event.calls ++ callsOf history))
    rw [← List.singleton_append, reportTimes_append, reportTimes_singleton, readings_append]
    exact hevent.append ih

namespace DayBegan

variable {past today : List Event} {event : Event}

/-- The day begins with the history. -/
theorem nil : DayBegan [] [] where
  begins := .inl rfl
  goesOn := fun _ _ _ h => absurd h.symm (List.append_ne_nil_of_right_ne_nil _ (List.cons_ne_nil _ _))

/-- An event that rolls the day over ends it. -/
theorem anew {history : List Event} (h : event.RollsOver history) : DayBegan (history ++ [event]) [] where
  begins := .inr ⟨history, event, rfl, h⟩
  goesOn := fun _ _ _ h => absurd h.symm (List.append_ne_nil_of_right_ne_nil _ (List.cons_ne_nil _ _))

/-- Any other event belongs to the day that runs. -/
theorem concat (h : DayBegan past today) (hsame : ¬event.RollsOver (past ++ today)) :
    DayBegan past (today ++ [event]) where
  begins := h.begins
  goesOn := by
    intro earlier other rest hsplit
    rcases List.eq_nil_or_concat rest with rfl | ⟨between, last, rfl⟩
    · obtain ⟨rfl, hlast⟩ := List.append_inj' hsplit rfl
      obtain rfl := (List.cons.inj hlast).1
      exact hsame
    · rw [List.concat_eq_append, ← List.cons_append, ← List.append_assoc] at hsplit
      obtain ⟨htoday, _⟩ := List.append_inj' hsplit rfl
      exact h.goesOn earlier other between htoday

end DayBegan

/-- Two days that roll over are different ones. -/
theorem localDay_lt_of_rollsOver {past between rest : List Event} {first second : Event} {earlier later : Moment}
    (hkeeps : KeepsTime (reportTimes (past ++ first :: (between ++ second :: rest))))
    (hfirst : earlier ∈ first.reportedAt) (hsecond : second.RollsOver (past ++ first :: between))
    (hlater : later ∈ second.reportedAt) : earlier.localDay < later.localDay := by
  obtain ⟨moment, hmoment, last, hlast, hlt⟩ := hsecond
  obtain rfl := Option.some.inj (hmoment.symm.trans hlater)
  have hbefore : KeepsTime (reportTimes (past ++ first :: between)) := by
    rw [← List.cons_append, ← List.append_assoc] at hkeeps
    exact hkeeps.of_append
  have hmem : earlier ∈ reportTimes (past ++ first :: between) :=
    List.mem_filterMap.mpr ⟨first, List.mem_append_right _ List.mem_cons_self, hfirst⟩
  exact Int.lt_of_le_of_lt (hbefore.localDay_le_of_getLast? hmem hlast) hlt

/-! ## The time of the last report -/

/-- No operator can change it. -/
theorem Records.kept_lastReport (last : UInt32) : Kept fun records => records.config.lastReport = last where
  raise := fun _ _ _ _ h => h
  remote := fun records remote _ h =>
    (congrArg (·.2.1) (DeviceConfig.past_applyRemote records.config remote)).trans h
  clear := fun _ _ h => h
  battery := fun _ _ _ h => h
  signal := fun _ _ h => h
  hook := fun _ _ h => h
  connection := fun _ _ h => h

/-- Only a report changes it. -/
theorem Effect.Does.lastReport_eq {effect : Effect} {before after : Controller} {trace : List Exchange}
    (h : effect.Does before trace after) (hreported : effect ≠ .reported) :
    after.config.value.lastReport = before.config.value.lastReport := by
  cases h with
  | reported => exact absurd rfl hreported
  | actOnline hpath =>
    obtain ⟨_, settled, hsettled, hrecords⟩ := (Records.kept_lastReport _).actOnline rfl _ _ _ hpath
    have hconfig := congrArg (·.config.lastReport) hrecords
    refine hconfig.trans (Eq.trans ?_ hsettled)
    rw [Records.value_settleResetCount]
    split <;> rfl
  | reload hpath => exact (Records.kept_lastReport _).reloadRemote rfl _ hpath
  | writeConfig hpath => exact congrArg (·.lastReport) (Persisted.value_of_flush hpath)
  | enter uptime => exact congrArg (·.value.lastReport) (before.config_prepare uptime)
  | _ => rfl

/-- Only reporting changes the time of the last report. -/
theorem Effects.lastReport_eq {allowed : Effect → Bool} {before after : Controller} {trace : List Exchange}
    (h : Effects allowed before trace after) (hreported : allowed .reported = false) :
    after.config.value.lastReport = before.config.value.lastReport := by
  induction h with
  | none c => rfl
  | cons hallowed hdoes _ ih =>
    exact ih.trans (hdoes.lastReport_eq fun heq => by rw [heq, hreported] at hallowed; cases hallowed)

/-! ## The tick -/

namespace Controller

open Step

variable {c after : Controller} {moment : Moment} {trace : List Exchange} {control : Control}

/-- Writing the records changes no settings. -/
theorem config_flush (h : Path (flush.run c) trace ((), after)) : after.config.value = c.config.value := by
  obtain ⟨_, _, config, _, _, _, hconfig, _, _, rfl⟩ := flush_cases h
  exact Persisted.value_of_flush hconfig

/-- Moving on leaves the settings alone. -/
theorem config_following (c : Controller) (outcome : Outcome) : (c.following outcome).config = c.config := by
  cases outcome with
  | remain | moveTo | restart => rfl

/-- A report is made on a new day where one was made before, on an earlier day. -/
theorem isNewDay_iff {times : List Moment} (hkeeps : KeepsTime (times ++ [moment]))
    (hlast : c.config.value.lastReport = times.getLast?.elim 0 (·.now)) :
    c.isNewDay moment = true ↔ ∃ last ∈ times.getLast?, last.localDay < moment.localDay := by
  have hmoment : moment ∈ times ++ [moment] := List.mem_append_right _ (List.mem_singleton_self moment)
  have hvalid := hkeeps.valid moment hmoment
  cases htimes : times.getLast? with
  | none =>
    rw [htimes] at hlast
    have hnever : c.config.value.lastReport = 0 := hlast
    simp [isNewDay, hnever]
  | some last =>
    rw [htimes] at hlast
    have hlastReport : c.config.value.lastReport = last.now := hlast
    have hmem : last ∈ times ++ [moment] := List.mem_append_left _ (List.mem_of_getLast? htimes)
    have hnever : last.now ≠ 0 := by
      intro hzero
      have hpositive := hkeeps.positive last hmem
      rw [hzero] at hpositive
      exact absurd hpositive (by decide)
    simp [isNewDay, hvalid, hlastReport, hnever, Moment.localDay, LocalTime.ofMoment,
      hkeeps.offset last hmem moment hmoment]

/-- A tick that reports leaves its time, and no other tick changes the time of the last report. -/
theorem lastReport_of_tick {opening : List Exchange}
    (h : Path (tick.run c) (⟨.readClock, moment⟩ :: opening) (control, after)) :
    after.config.value.lastReport = if c.runState = .reporting then moment.now else c.config.value.lastReport := by
  by_cases hstate : c.runState = .reporting
  · obtain ⟨read, before, entered, middle, outcome, carried, closing, hopen, hcarry, hflush, _, htrace⟩ := tick_cases h
    obtain ⟨hread, _⟩ := List.cons.inj htrace
    cases hread
    have hentered : entered.runState = .reporting := (hopen.runState_eq rfl).trans hstate
    obtain ⟨_, htime⟩ := ensures_reporting_newDay moment (work_of_carryOut hcarry hentered)
    rw [if_pos hstate, config_flush hflush, config_following, htime]
  · obtain ⟨_, _, _, heffects, hflush, _⟩ := effects_tick h
    rw [if_neg hstate, config_flush hflush]
    refine heffects.lastReport_eq ?_
    cases hrun : c.runState with
    | reporting => exact absurd hrun hstate
    | _ => rfl

/-- A tick leaves in storage the settings that it leaves in memory. -/
theorem found_config_of_tick {store later : Store} (h : c.Sound store)
    (hpath : Path (tick.run c) trace (control, after)) (hserves : store.Serves trace later) :
    (later.found : DeviceConfig) = after.config.value := by
  obtain ⟨hsound, hsaved⟩ := h.tick hpath hserves
  exact Persisted.found_of_stored hsound.configStored hsaved.config

end Controller

/-- A boot takes the settings over as they are found in storage, and leaves them there. -/
theorem found_config_of_boot {c : Controller} {trace : List Exchange} {store later : Store}
    (hpath : Path Controller.boot trace c) (hserves : store.Serves trace later) :
    c.config.value = later.found ∧ (later.found : DeviceConfig) = store.found := by
  obtain ⟨hsound, hsaved⟩ := sound_of_boot hpath hserves
  have hfound := Persisted.found_of_stored hsound.configStored hsaved.config
  exact ⟨hfound.symm, hfound.trans (found_of_boot hpath hserves).1⟩

/-! ## Runs -/

/-- In the tick neither number of the day reached its largest value. -/
def Event.DayHasRoom : Event → Prop
  | .tick _ _ _ after => after.status.value.day.HasRoom
  | .boot _ _ | .raise _ _ => True

instance : DecidablePred Event.DayHasRoom
  | .tick _ _ _ after => inferInstanceAs (Decidable after.status.value.day.HasRoom)
  | .boot _ _ | .raise _ _ => isTrue trivial

/-- What was recorded up to the last event and in it. -/
theorem booked_concat {history : List Event} {event : Event} {total : Ledger} (h : Booked (history ++ [event]) total) :
    ∃ earlier entry, Booked history earlier ∧ event.Books entry ∧ total = earlier + entry := by
  obtain ⟨entries, hentries, rfl⟩ := h
  induction history generalizing entries with
  | nil =>
    cases hentries with
    | @cons _ entry _ _ hentry hnil =>
      cases hnil
      exact ⟨0, entry, ⟨[], .nil, rfl⟩, hentry, by rw [List.sum_cons, List.sum_nil, add_comm]⟩
  | cons first history ih =>
    cases hentries with
    | @cons _ entry _ rest hfirst hrest =>
      obtain ⟨earlier, last, ⟨entries, hentries, rfl⟩, hlast, hsum⟩ := ih rest hrest
      refine ⟨entry + entries.sum, last, ⟨entry :: entries, .cons hfirst hentries, ?_⟩, hlast, ?_⟩
      · rw [List.sum_cons]
      · rw [List.sum_cons, hsum, add_assoc]

/-- What is found in storage after the history: the time of its last report, and what was recorded since the day
last rolled over. -/
structure DayBook (history : List Event) (store : Store) (state : Option Controller) : Prop where
  entered : ∀ c ∈ state, c.Entered store
  config : ∀ c ∈ state, c.config.value = store.found
  lastReport : (store.found : DeviceConfig).lastReport = (reportTimes history).getLast?.elim 0 (·.now)
  today : KeepsTime (reportTimes history) → (∀ event ∈ history, event.DayHasRoom) →
    ∃ past today, history = past ++ today ∧ DayBegan past today ∧
      ∀ total, Booked today total → (store.found : RuntimeStatus).day = total

section

variable {earlier : List Event} {event : Event} {state next : Option Controller} {store later : Store}

/-- The day does not roll over without a report. -/
theorem Event.not_rollsOver (h : event.reportedAt = none) : ¬event.RollsOver earlier := by
  rintro ⟨moment, hmoment, _⟩
  rw [h] at hmoment
  cases hmoment

/-- The day rolls over in a tick that reports and takes the day for a new one. -/
theorem DayBook.rollsOver_iff {before after : Controller} {moment : Moment} {rest : List Exchange} {control : Control}
    (h : DayBook earlier store (some before))
    (hkeeps : KeepsTime (reportTimes (earlier ++ [.tick before (⟨.readClock, moment⟩ :: rest) control after]))) :
    (Event.tick before (⟨.readClock, moment⟩ :: rest) control after).RollsOver earlier ↔
      before.runState = .reporting ∧ before.isNewDay moment = true := by
  by_cases hstate : before.runState = .reporting
  · have htime : (Event.tick before (⟨.readClock, moment⟩ :: rest) control after).reportedAt = some moment :=
      if_pos hstate
    rw [reportTimes_append, reportTimes_singleton, htime] at hkeeps
    have hlast := h.lastReport
    rw [← h.config before rfl] at hlast
    rw [Controller.isNewDay_iff hkeeps hlast, Event.RollsOver, htime]
    simp [hstate]
  · exact iff_of_false (Event.not_rollsOver (if_neg hstate)) fun hboth => hstate hboth.1

/-- The day begins anew in an event in which it rolls over, and goes on in every other one by what that records. -/
theorem DayBook.day (h : DayBook earlier store state) (hleads : event.Leads state next)
    (hserves : store.Serves event.calls later) (hkeeps : KeepsTime (reportTimes (earlier ++ [event])))
    (hroom : event.DayHasRoom) {entry : Ledger} (hbooks : event.Books entry) :
    (event.RollsOver earlier → (later.found : RuntimeStatus).day = 0) ∧
      (¬event.RollsOver earlier →
        (later.found : RuntimeStatus).day = (store.found : RuntimeStatus).day + entry) := by
  cases hleads with
  | boot hpath =>
    cases hbooks
    refine ⟨fun hrolls => absurd hrolls (Event.not_rollsOver rfl), fun _ => ?_⟩
    rw [(entered_of_boot hpath hserves).2, add_zero]
  | raise before alert now =>
    cases hbooks
    refine ⟨fun hrolls => absurd hrolls (Event.not_rollsOver rfl), fun _ => ?_⟩
    rw [Store.serves_nil_iff.mp hserves, add_zero]
  | @tick before after trace control hpath =>
    cases hbooks with
    | @tick _ _ moment marked polled polling rest _ hpoll =>
      have hbefore := h.entered before rfl
      have hday := Controller.day_of_tick hpath hpoll
      rw [(hbefore.tick hpath hserves).2, ← RuntimeStatus.day_of_figures hbefore.figures, h.rollsOver_iff hkeeps]
      refine ⟨fun hnew => ?_, fun hsame => ?_⟩
      · rw [hday, if_pos hnew]
      · rw [if_neg hsame] at hday
        have hcapped : (before.status.value.day + before.booked (marked || polled) moment rest).capped.HasRoom := by
          rw [← hday]
          exact hroom
        rw [hday, Ledger.capped_eq_self hcapped]

/-- Only a report changes the stored time of the last one. -/
theorem DayBook.lastReport_of_leads (h : DayBook earlier store state) (hleads : event.Leads state next)
    (hserves : store.Serves event.calls later) :
    (later.found : DeviceConfig).lastReport = event.reportedAt.elim (store.found : DeviceConfig).lastReport (·.now) := by
  cases hleads with
  | boot hpath => exact congrArg (·.lastReport) (found_config_of_boot hpath hserves).2
  | raise before alert now =>
    rw [Store.serves_nil_iff.mp hserves]
    rfl
  | @tick before after trace control hpath =>
    obtain ⟨moment, marked, polling, polled, rest, hpoll, rfl⟩ := Controller.opening_of_tick hpath
    rw [Controller.found_config_of_tick (h.entered before rfl).sound hpath hserves,
      Controller.lastReport_of_tick hpath, Event.reportedAt_tick, h.config before rfl]
    split <;> rfl

/-- Every event carries the book on. -/
theorem DayBook.concat (h : DayBook earlier store state) (hleads : event.Leads state next)
    (hserves : store.Serves event.calls later) : DayBook (earlier ++ [event]) later next where
  entered := hleads.entered h.entered hserves
  config := by
    intro c hc
    cases hleads with
    | boot hpath =>
      obtain rfl := Option.some.inj hc
      exact (found_config_of_boot hpath hserves).1
    | @tick before after trace control hpath =>
      cases control with
      | proceed =>
        obtain rfl := Option.some.inj hc
        exact (Controller.found_config_of_tick (h.entered before rfl).sound hpath hserves).symm
      | restart => cases hc
    | raise before alert now =>
      obtain rfl := Option.some.inj hc
      rw [Store.serves_nil_iff.mp hserves]
      exact h.config before rfl
  lastReport := by
    rw [h.lastReport_of_leads hleads hserves, h.lastReport, getLast?_reportTimes_concat]
    cases event.reportedAt with
    | none | some moment => rfl
  today := by
    intro hkeeps hroom
    have hearlier := fun other hmem => hroom other (List.mem_append_left _ hmem)
    obtain ⟨past, today, rfl, hbegan, htotal⟩ := h.today hkeeps.of_append hearlier
    have hevent := hroom event (List.mem_append_right _ (List.mem_singleton_self event))
    by_cases hrolls : event.RollsOver (past ++ today)
    · refine ⟨past ++ today ++ [event], [], (List.append_nil _).symm, .anew hrolls, fun total hbooked => ?_⟩
      obtain ⟨entry, hentry⟩ := hleads.books
      obtain ⟨entries, hentries, rfl⟩ := hbooked
      cases hentries
      exact (h.day hleads hserves hkeeps hevent hentry).1 hrolls
    · refine ⟨past, today ++ [event], List.append_assoc .., hbegan.concat hrolls, fun total hbooked => ?_⟩
      obtain ⟨sofar, entry, hsofar, hentry, rfl⟩ := booked_concat hbooked
      rw [(h.day hleads hserves hkeeps hevent hentry).2 hrolls, htotal sofar hsofar]

end

/-- In every run from an empty store the book is kept. -/
theorem Run.dayBook {history : List Event} {last : Option Controller} {initial store : Store} (h : Run none history last)
    (hserves : initial.Serves (callsOf history) store) (hempty : ∀ key, initial.bytes key = none) :
    DayBook history store last := by
  have hstart : DayBook [] initial none := by
    have hnone : ∀ {P : Controller → Prop}, ∀ c ∈ (none : Option Controller), P c := fun _ hc => by cases hc
    refine ⟨hnone, hnone, ?_, fun _ _ => ⟨[], [], rfl, .nil, fun total hbooked => ?_⟩⟩
    · have hkey : initial.bytes (Record.key DeviceConfig) = none := hempty .config
      rw [Store.found, hkey]
      rfl
    · obtain ⟨entries, hentries, rfl⟩ := hbooked
      cases hentries
      rw [Store.found_of_empty (hempty .status)]
      rfl
  exact h.invariant_of_serves (I := DayBook) hserves hstart
    fun _ _ _ _ _ _ hleads hevent hbook => hbook.concat hleads hevent

/-- What is known of a tick of a run, by the events before it. -/
structure DayGoesOn (earlier : List Event) (before : Controller) (calls : List Exchange) (control : Control)
    (after : Controller) : Prop where
  anew : (Event.tick before calls control after).RollsOver earlier → after.status.value.day = 0
  onward : ¬(Event.tick before calls control after).RollsOver earlier → ∀ entry,
    (Event.tick before calls control after).Books entry → after.status.value.day = before.status.value.day + entry
  /-- A report says what the day holds when the tick ends. -/
  report : before.runState = .reporting →
    ∃ report taken, reports calls = [(report, taken)] ∧ report.day = after.status.value.day
  unreported : before.runState ≠ .reporting → reports calls = []
  /-- That is what was recorded since the day last rolled over. -/
  today : ∃ past today, earlier ++ [.tick before calls control after] = past ++ today ∧ DayBegan past today ∧
    (∃ total, Booked today total) ∧ ∀ total, Booked today total → after.status.value.day = total

/-- Over a run from an empty store, this is known of every tick. -/
theorem Run.dayGoesOn {earlier : List Event} {before after : Controller} {calls : List Exchange} {control : Control}
    {last : Option Controller} {initial store : Store}
    (h : Run none (earlier ++ [.tick before calls control after]) last)
    (hserves : initial.Serves (callsOf (earlier ++ [.tick before calls control after])) store)
    (hempty : ∀ key, initial.bytes key = none)
    (hkeeps : KeepsTime (reportTimes (earlier ++ [.tick before calls control after])))
    (hroom : ∀ event ∈ earlier ++ [.tick before calls control after], event.DayHasRoom) :
    DayGoesOn earlier before calls control after := by
  have hend := h.dayBook hserves hempty
  obtain ⟨past, today, hsplit, hbegan, htoday⟩ := hend.today hkeeps hroom
  have hbooked : ∃ total, Booked today total := by
    rw [hsplit] at h
    obtain ⟨_, _, hrest⟩ := Run.append_iff.mp h
    exact hrest.booked
  obtain ⟨state, hbefore, hleads⟩ := Run.concat_iff.mp h
  rw [callsOf_append, callsOf_singleton] at hserves
  obtain ⟨started, hearlier, htick⟩ := Store.serves_append_iff.mp hserves
  have hbook := hbefore.dayBook hearlier hempty
  have hlast := hroom _ (List.mem_append_right _ (List.mem_singleton_self _))
  have hday := fun (entry : Ledger) (hbooks : Event.Books _ entry) => hbook.day hleads htick hkeeps hlast hbooks
  obtain ⟨entry, hentry⟩ := hleads.books
  cases hleads with
  | tick hpath =>
    have hentered := hbook.entered before rfl
    have hfound := (hentered.tick hpath htick).2
    obtain ⟨moment, marked, polling, polled, rest, hpoll, rfl⟩ := Controller.opening_of_tick hpath
    have hreports := reports_of_poll hpoll moment marked rest
    rw [hfound] at hday htoday
    refine ⟨(hday entry hentry).1, fun hsame entry hentry => ?_, fun hstate => ?_, fun hstate => ?_,
      past, today, hsplit, hbegan, hbooked, htoday⟩
    · rw [(hday entry hentry).2 hsame, RuntimeStatus.day_of_figures hentered.figures]
    · obtain ⟨report, taken, hcloses⟩ := Controller.closes_of_tick hpath hpoll hstate
      exact ⟨report, taken, hreports.trans hcloses.reports, hcloses.day.symm⟩
    · exact hreports.trans (Controller.grownBy_of_tick hpath hpoll hstate).1

/-- In every run from an empty store that keeps what is written, with a clock that is set and does not go back, a
local time that keeps its distance and counters that stay below their largest value: the daily totals begin anew in
a report that is made on a later local day than the last one, and in no other tick, so on no local day twice; and
every report gives what was recorded since they last did. -/
theorem day_rolls_over {history : List Event} {last : Option Controller} {initial store : Store}
    (hrun : Run none history last) (hserves : initial.Serves (callsOf history) store)
    (hempty : ∀ key, initial.bytes key = none) (hkeeps : KeepsTime (readings (callsOf history)))
    (hroom : ∀ event ∈ history, event.DayHasRoom) :
    (∀ earlier before calls control after rest, history = earlier ++ .tick before calls control after :: rest →
      DayGoesOn earlier before calls control after) ∧
    ∀ past first between second rest, history = past ++ first :: (between ++ second :: rest) →
      first.RollsOver past → second.RollsOver (past ++ first :: between) →
      ∀ sooner ∈ first.reportedAt, ∀ later ∈ second.reportedAt, sooner.localDay < later.localDay := by
  have hreports : KeepsTime (reportTimes history) := hkeeps.sublist (reportTimes_sublist history)
  refine ⟨fun earlier before calls control after rest hsplit => ?_, ?_⟩
  · rw [← List.singleton_append, ← List.append_assoc] at hsplit
    subst hsplit
    rw [callsOf_append] at hserves
    obtain ⟨_, hserved, _⟩ := Store.serves_append_iff.mp hserves
    obtain ⟨_, hfirst, _⟩ := Run.append_iff.mp hrun
    exact hfirst.dayGoesOn hserved hempty hreports.of_append fun event hmem => hroom event (List.mem_append_left _ hmem)
  · intro past first between second rest hsplit hfirst hsecond sooner hsooner later hlater
    rw [hsplit] at hreports
    exact localDay_lt_of_rollsOver hreports hsooner hsecond hlater

/-- A device counts once and reports, is booted on the next morning, counts once more and reports, counts a third
time and reports an hour later. -/
def overMidnight : List Scene :=
  [.boot (.afterNoon 0 false), .tick (Devices.afterNoon 1 false).detecting, .tick (.afterNoon 2 false),
    .tick (.afterNoon 3 false), .boot (.afterNoon 80000 false), .tick (Devices.afterNoon 80001 false).detecting,
    .tick (.afterNoon 80002 false), .tick (.afterNoon 80003 false), .tick (Devices.afterNoon 80004 true).detecting,
    .tick (.afterNoon 83603 true)]

/-- In the second report the day began anew, so that the third holds the count made since then. -/
theorem day_rolls_over_overMidnight :
    let history := (play (overMidnight ++ [.tick (.afterNoon 83604 true)]) .blank).1
    KeepsTime (readings (callsOf history)) ∧ (∀ event ∈ history, event.DayHasRoom) ∧
      (reportTimes history).map Moment.localDay = [738838, 738839, 738839] ∧
      (reports (callsOf history)).map (·.1.day) = [⟨1, 0⟩, 0, ⟨1, 0⟩] ∧
      ∃ past today, history = past ++ today ∧ DayBegan past today ∧ Booked today ⟨1, 0⟩ := by
  intro history
  obtain ⟨hrun, hserves⟩ := run_play (overMidnight ++ [.tick (.afterNoon 83604 true)]) .blank
  have hkeeps : KeepsTime (readings (callsOf history)) := by decide +kernel
  have hroom : ∀ event ∈ history, event.DayHasRoom := by decide +kernel
  have hsome : (play overMidnight .blank).2.controller.isSome = true := by decide +kernel
  obtain ⟨before, hbefore⟩ := Option.isSome_iff_exists.mp hsome
  have hlast : history = (play overMidnight .blank).1 ++
      [tickEvent (.afterNoon 83604 true) before (play overMidnight .blank).2.store] := play_concat_tick hbefore _
  obtain ⟨hticks, _⟩ := day_rolls_over hrun hserves (fun _ => rfl) hkeeps hroom
  obtain ⟨past, today, hsplit, hbegan, ⟨total, hbooked⟩, htoday⟩ := (hticks _ _ _ _ _ [] hlast).today
  have hends : history.getLast?.all (Event.isTick fun _ _ after => after.status.value.day = ⟨1, 0⟩) = true := by
    decide +kernel
  rw [hlast, List.getLast?_concat] at hends
  rw [← htoday total hbooked, of_decide_eq_true hends] at hbooked
  exact ⟨hkeeps, hroom, by decide +kernel, by decide +kernel, past, today, hlast.trans hsplit, hbegan, hbooked⟩

end FieldCounter
