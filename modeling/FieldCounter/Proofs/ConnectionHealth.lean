import FieldCounter.Proofs.Reporting
import FieldCounter.Proofs.Script

/-!
# When a report finds fault with the connection

A report judges the connection by two times in the settings, both of which only the actions after a
connection store. The session may be up while it is judged, and the queue may know of a later webhook
answer: neither is asked before the alerts are raised. So a session that stays up is declared offline
once it is old enough, and a webhook that goes on answering is declared silent.
-/

namespace FieldCounter

open Program (Path)

/-! ## The calls of a report -/

/-- A call that is not routine is made in a tick that reports only if it is one of four. -/
theorem mem_notable {trace : List Exchange} {exchange : Exchange} (hmem : exchange ∈ trace)
    (hnotable : exchange.call.isRoutine = false) : exchange ∈ notable trace := by
  rw [notable, List.mem_filter, hnotable]
  exact ⟨hmem, rfl⟩

section
variable {before after : Controller} {trace : List Exchange} {control : Control} {moment : Moment}
  {reading : BatteryReading}

/-- What a tick that reports asks, and what it leaves in the slot, by the clock and the battery. -/
theorem Controller.alert_of_reporting (htick : Path (Controller.tick.run before) trace (control, after))
    (hstate : before.runState = .reporting) (hclock : ⟨.readClock, moment⟩ ∈ trace)
    (hbattery : ⟨.readBattery, reading⟩ ∈ trace) :
    ∃ report taken online,
      notable trace = [⟨.readClock, moment⟩, ⟨.readBattery, reading⟩, ⟨.enqueue report, taken⟩,
        ⟨.isConnected, online⟩] ∧
      after.status.value.alert = before.alertAfterReport moment reading taken := by
  obtain ⟨clock, battery, report, taken, online, htrace, halert⟩ := Controller.tick_reporting htick hstate
  have hclock := mem_notable hclock rfl
  have hbattery := mem_notable hbattery rfl
  rw [htrace] at hclock hbattery
  have hmoment : moment = clock := by simpa using hclock
  have hreading : reading = battery := by simpa using hbattery
  rw [← hmoment, ← hreading] at htrace halert
  exact ⟨report, taken, online, htrace, halert⟩

end

/-! ## Sessions that stay up -/

/-- Where the devices answer from a table, so do those that a report asks. -/
theorem Controller.answers_of_reporting {before : Controller} (hstate : before.runState = .reporting)
    (devices : Devices) (store : Store) :
    let trace := (Controller.tick.run before).trace (Store.environment devices) store
    ⟨.readClock, devices .readClock⟩ ∈ trace ∧ ⟨.readBattery, devices .readBattery⟩ ∈ trace ∧
      (∃ report, ⟨.enqueue report, devices (.enqueue report)⟩ ∈ trace) ∧
      ⟨.isConnected, devices .isConnected⟩ ∈ trace := by
  intro trace
  have hpath := (Controller.tick.run before).path_run (Store.environment devices) store
  obtain ⟨moment, reading, report, taken, online, htrace, _⟩ := Controller.tick_reporting hpath hstate
  have hmem : ∀ exchange ∈ notable trace, exchange ∈ trace := fun exchange h => (List.mem_filter.mp h).1
  have hclock : ⟨.readClock, moment⟩ ∈ trace := hmem _ (by simp [trace, htrace])
  have hbattery : ⟨.readBattery, reading⟩ ∈ trace := hmem _ (by simp [trace, htrace])
  have hqueue : ⟨.enqueue report, taken⟩ ∈ trace := hmem _ (by simp [trace, htrace])
  have hradio : ⟨.isConnected, online⟩ ∈ trace := hmem _ (by simp [trace, htrace])
  rw [← show moment = devices .readClock from Store.answer_of_mem hclock rfl,
    ← show reading = devices .readBattery from Store.answer_of_mem hbattery rfl,
    ← show online = devices .isConnected from Store.answer_of_mem hradio rfl]
  have htaken : taken = devices (.enqueue report) := Store.answer_of_mem hqueue rfl
  exact ⟨hclock, hbattery, ⟨report, htaken ▸ hqueue⟩, hradio⟩

/-- Devices of which nothing is amiss, so many seconds after noon on one day, with the radio up or
down and the last webhook answer that the queue knows of. -/
def devicesAt (secs : Nat) (online : Bool) (answered : Option UInt32) : Devices
  | .lastHookResponse => answered
  | call =>
    let now := 1699963200 + UInt32.ofNat secs
    let uptimeMs := UInt64.ofNat (secs * 1000)
    Devices.ordinary { now, uptimeMs, valid := true, utcOffset := 0 } online call

/-- A first boot, a report, a connection, and a session that stays up until the next report is due. -/
def sessionUntil (secs : Nat) (first latest : Option UInt32) : List Scene :=
  [.boot (devicesAt 0 false none), .tick (devicesAt 1 false none), .tick (devicesAt 2 false none),
    .tick (devicesAt 3 false none), .tick (devicesAt 4 true first), .tick (devicesAt secs true latest)]

/-- An alert is dealt with: the radio is switched off, and the device reset. -/
def dealtWith (secs : Nat) (latest : Option UInt32) : List Scene :=
  [.tick (devicesAt secs true latest), .tick (devicesAt (secs + 1) true latest),
    .tick (devicesAt (secs + 2) false latest), .tick (devicesAt (secs + 3) false latest),
    .tick (devicesAt (secs + 4) false latest), .tick (devicesAt (secs + 20) false latest)]

section
variable {before after : Controller} {trace : List Exchange} {control : Control} {moment : Moment}
  {reading : BatteryReading}

/-! ## Offline for too long -/

/-- A tick that reports shows the device as offline for too long exactly where that was on show with
the same time already, or the clock is valid, the last connection was made too long ago and the slot
accepts it, and in both cases the battery reports no fault. The radio is asked, and its answer makes
no difference: where it is up, this is when a device that is online is declared offline. -/
theorem prolongedOffline_iff (htick : Path (Controller.tick.run before) trace (control, after))
    (hstate : before.runState = .reporting) (hclock : ⟨.readClock, moment⟩ ∈ trace)
    (hbattery : ⟨.readBattery, reading⟩ ∈ trace) :
    (∃ online, ⟨.isConnected, online⟩ ∈ trace) ∧
      (after.status.value.alert = ⟨Alert.prolongedOffline.code, moment.now⟩ ↔
        reading.fault = none ∧
          (before.status.value.alert = ⟨Alert.prolongedOffline.code, moment.now⟩ ∨
            (moment.valid = true ∧ (before.measured reading moment.now).offlineTooLong moment.now = true) ∧
              before.status.value.alert.accepts .prolongedOffline = true)) := by
  obtain ⟨report, taken, online, htrace, halert⟩ := Controller.alert_of_reporting htick hstate hclock hbattery
  constructor
  · have hradio : ⟨.isConnected, online⟩ ∈ notable trace := by simp [htrace]
    exact ⟨online, (List.mem_filter.mp hradio).1⟩
  · have hlesser : Alert.prolongedOffline.severity < 10 := by decide
    have hstale : Alert.webhookStale.severity < Alert.prolongedOffline.severity := by decide
    have hdata : Alert.dataPublishFailed.severity < Alert.prolongedOffline.severity := by decide
    rw [halert, Controller.alertAfterReport, AlertSlot.raiseIf_eq_other _ _ _ _ _ (by decide),
      AlertSlot.raiseIf_eq_self, AlertSlot.raiseIf_eq_other _ _ _ _ _ (by decide), AlertSlot.accepts_raiseIf,
      Controller.alert_measured, AlertSlot.afterReading_eq_iff _ _ _ _ hlesser,
      AlertSlot.accepts_afterReading _ _ _ _ hlesser]
    simp only [hstale, Nat.le_of_lt hdata, hdata, implies_true, and_true, Bool.and_eq_true]
    rw [← and_assoc, ← or_and_right]
    exact and_comm

/-- Seven hours into a session that stays up, a report shows the device as offline for too long. -/
theorem prolongedOffline_iff_longSession :
    ∃ before trace control after moment reading, Path (Controller.tick.run before) trace (control, after) ∧
      before.runState = .reporting ∧ ⟨.readClock, moment⟩ ∈ trace ∧ ⟨.readBattery, reading⟩ ∈ trace ∧
      ⟨.isConnected, true⟩ ∈ trace ∧ before.status.value.alert = .empty ∧
      after.status.value.alert = ⟨Alert.prolongedOffline.code, moment.now⟩ := by
  have hsome : (play (sessionUntil 25300 none none) .blank).2.controller.isSome = true := by decide +kernel
  obtain ⟨before, hbefore⟩ := Option.isSome_iff_exists.mp hsome
  let devices := devicesAt 25301 true none
  let moment := devices .readClock
  have hfacts : ∀ c ∈ (play (sessionUntil 25300 none none) .blank).2.controller, c.runState = .reporting ∧
      c.status.value.alert = .empty ∧
      (c.measured (devices .readBattery) moment.now).offlineTooLong moment.now = true := by decide +kernel
  obtain ⟨hstate, hempty, hlong⟩ := hfacts before hbefore
  have hpath := (Controller.tick.run before).path_run (Store.environment devices)
    (play (sessionUntil 25300 none none) .blank).2.store
  obtain ⟨hclock, hbattery, _, hradio⟩ := Controller.answers_of_reporting hstate devices
    (play (sessionUntil 25300 none none) .blank).2.store
  have haccepts : before.status.value.alert.accepts .prolongedOffline = true := by rw [hempty]; rfl
  have hshown := (prolongedOffline_iff hpath hstate hclock hbattery).2.mpr ⟨rfl, .inr ⟨⟨rfl, hlong⟩, haccepts⟩⟩
  exact ⟨before, _, _, _, moment, _, hpath, hstate, hclock, hbattery, hradio, hempty, hshown⟩

/-- A device that came online, and stayed so, is declared offline and reset for it. -/
theorem online_declared_offline :
    ∃ history last store, Run none history last ∧ Stage.blank.store.Serves (callsOf history) store ∧
      resetsIn (callsOf history) = 1 ∧
      ∃ before trace control after, Event.tick before trace control after ∈ history ∧
        before.runState = .reporting ∧ before.status.value.alert = .empty ∧ ⟨.isConnected, true⟩ ∈ trace ∧
        after.status.value.alert.current = some .prolongedOffline := by
  let earlier := sessionUntil 25300 none none
  let devices := devicesAt 25301 true none
  have hsome : (play earlier .blank).2.controller.isSome = true := by decide +kernel
  obtain ⟨before, hbefore⟩ := Option.isSome_iff_exists.mp hsome
  let store := (play earlier .blank).2.store
  have hfacts : ∀ c ∈ (play earlier .blank).2.controller, c.runState = .reporting ∧
      c.status.value.alert = .empty ∧
      ((Controller.tick.run c).run (Store.environment devices) store).1.2.status.value.alert.current =
        some .prolongedOffline := by decide +kernel
  obtain ⟨hstate, hempty, hshown⟩ := hfacts before hbefore
  obtain ⟨_, _, _, hradio⟩ := Controller.answers_of_reporting hstate devices store
  obtain ⟨hrun, hserves⟩ := run_play (earlier ++ .tick devices :: dealtWith 25302 none) .blank
  have hresets : resetsIn (callsOf (play (earlier ++ .tick devices :: dealtWith 25302 none) .blank).1) = 1 := by
    decide +kernel
  exact ⟨_, _, _, hrun, hserves, hresets, before, _, _, _, tickEvent_mem_play hbefore devices, hstate, hempty,
    hradio, hshown⟩

/-! ## A silent webhook -/

/-- Where the answer in the settings is too old, the newest known one is fresh only if the queue's is. -/
theorem newestHook_fresh_iff {stored answered now : UInt32} (hold : webhookStaleSecs < secsBetween stored now) :
    secsBetween (max stored answered) now ≤ webhookStaleSecs ↔ secsBetween answered now ≤ webhookStaleSecs := by
  have hmax : max stored answered = if stored ≤ answered then answered else stored := rfl
  unfold secsBetween at hold ⊢
  rw [hmax]
  split
  · exact Iff.rfl
  · rename_i hless
    have hearlier : answered.toNat < stored.toNat := Nat.lt_of_not_le hless
    omega

/-- A tick that reports shows the webhook as silent exactly where that was on show with the same time
already, or the clock is valid, the answer in the settings is too old and the slot accepts it; and in
both cases the battery reports no fault, the queue takes the report, and the device is not found
offline for too long. The queue is not asked for its last answer, and where that is fresh, the newest
answer known to the device is fresh although the webhook is shown as silent. -/
theorem webhookStale_iff {report : DataSnapshot} {taken : Bool}
    (htick : Path (Controller.tick.run before) trace (control, after))
    (hstate : before.runState = .reporting) (hclock : ⟨.readClock, moment⟩ ∈ trace)
    (hbattery : ⟨.readBattery, reading⟩ ∈ trace) (hqueue : ⟨.enqueue report, taken⟩ ∈ trace) :
    (∀ exchange ∈ trace, exchange.call ≠ .lastHookResponse) ∧
      (after.status.value.alert = ⟨Alert.webhookStale.code, moment.now⟩ ↔
        (reading.fault = none ∧ taken = true ∧
          ¬(moment.valid = true ∧ (before.measured reading moment.now).offlineTooLong moment.now = true)) ∧
          (before.status.value.alert = ⟨Alert.webhookStale.code, moment.now⟩ ∨
            (moment.valid = true ∧ before.hookSilent moment.now = true) ∧
              before.status.value.alert.accepts .webhookStale = true)) ∧
      ∀ answered, before.hookSilent moment.now = true →
        (secsBetween (max before.config.value.lastHookResponse answered) moment.now ≤ webhookStaleSecs ↔
          secsBetween answered moment.now ≤ webhookStaleSecs) := by
  obtain ⟨sent, accepted, online, htrace, halert⟩ := Controller.alert_of_reporting htick hstate hclock hbattery
  have haccepted : accepted = taken := by
    have hmem := mem_notable hqueue rfl
    rw [htrace] at hmem
    simp at hmem
    exact (eq_of_heq (by simpa using hmem.2)).symm
  refine ⟨?_, ?_, ?_⟩
  · intro exchange hmem hcall
    have hnotable : exchange ∈ notable trace := mem_notable hmem (by rw [hcall]; rfl)
    rw [htrace] at hnotable
    simp only [List.mem_cons, List.not_mem_nil, or_false] at hnotable
    rcases hnotable with rfl | rfl | rfl | rfl <;> cases hcall
  · have hlesser : Alert.webhookStale.severity < 10 := by decide
    have hoffline : ¬Alert.prolongedOffline.severity ≤ Alert.webhookStale.severity := by decide
    have hdata : ¬Alert.dataPublishFailed.severity ≤ Alert.webhookStale.severity := by decide
    have hnotoffline : ¬Alert.prolongedOffline.severity < Alert.webhookStale.severity := by decide
    have hnotdata : ¬Alert.dataPublishFailed.severity < Alert.webhookStale.severity := by decide
    rw [halert, Controller.alertAfterReport, AlertSlot.raiseIf_eq_self,
      AlertSlot.raiseIf_eq_other _ _ _ _ _ (by decide), AlertSlot.raiseIf_eq_other _ _ _ _ _ (by decide),
      AlertSlot.accepts_raiseIf, AlertSlot.accepts_raiseIf, Controller.alert_measured,
      AlertSlot.afterReading_eq_iff _ _ _ _ hlesser, AlertSlot.accepts_afterReading _ _ _ _ hlesser, haccepted]
    have htaken : ¬(!taken) = true ↔ taken = true := by simp
    have hsilent : (before.measured reading moment.now).hookSilent moment.now = before.hookSilent moment.now :=
      rfl
    simp only [hoffline, hdata, hnotoffline, hnotdata, imp_false, Bool.and_eq_true, htaken, hsilent]
    constructor
    · intro h
      rcases h with ⟨⟨⟨hshown, hfault⟩, hqueued⟩, hjudged⟩ | ⟨hdue, ⟨⟨haccepts, hfault⟩, hqueued⟩, hjudged⟩
      · exact ⟨⟨hfault, hqueued, hjudged⟩, .inl hshown⟩
      · exact ⟨⟨hfault, hqueued, hjudged⟩, .inr ⟨hdue, haccepts⟩⟩
    · intro h
      obtain ⟨⟨hfault, hqueued, hjudged⟩, hshown | ⟨hdue, haccepts⟩⟩ := h
      · exact .inl ⟨⟨⟨hshown, hfault⟩, hqueued⟩, hjudged⟩
      · exact .inr ⟨hdue, ⟨⟨haccepts, hfault⟩, hqueued⟩, hjudged⟩
  · intro answered hsilent
    have hold : webhookStaleSecs < secsBetween before.config.value.lastHookResponse moment.now := by
      simp only [Controller.hookSilent, Bool.and_eq_true, decide_eq_true_eq] at hsilent
      exact hsilent.2
    exact newestHook_fresh_iff hold

end

/-- Four hours into a session that stays up, a report shows the webhook as silent, although the queue
knows of an answer less than two minutes old. -/
theorem webhookStale_iff_longSession :
    ∃ before trace control after moment reading report,
      Path (Controller.tick.run before) trace (control, after) ∧
      before.runState = .reporting ∧ ⟨.readClock, moment⟩ ∈ trace ∧ ⟨.readBattery, reading⟩ ∈ trace ∧
      ⟨.enqueue report, true⟩ ∈ trace ∧ before.status.value.alert = .empty ∧
      after.status.value.alert = ⟨Alert.webhookStale.code, moment.now⟩ ∧
      secsBetween (max before.config.value.lastHookResponse 1699977500) moment.now ≤ webhookStaleSecs := by
  let earlier := sessionUntil 14400 (some 1699963100) (some 1699977500)
  let devices := devicesAt 14401 true (some 1699977500)
  let moment := devices .readClock
  have hsome : (play earlier .blank).2.controller.isSome = true := by decide +kernel
  obtain ⟨before, hbefore⟩ := Option.isSome_iff_exists.mp hsome
  let store := (play earlier .blank).2.store
  have hfacts : ∀ c ∈ (play earlier .blank).2.controller, c.runState = .reporting ∧
      c.status.value.alert = .empty ∧ c.hookSilent moment.now = true ∧
      (c.measured (devices .readBattery) moment.now).offlineTooLong moment.now = false := by decide +kernel
  obtain ⟨hstate, hempty, hsilent, honline⟩ := hfacts before hbefore
  have hpath := (Controller.tick.run before).path_run (Store.environment devices) store
  obtain ⟨hclock, hbattery, ⟨report, hqueue⟩, _⟩ := Controller.answers_of_reporting hstate devices store
  have haccepts : before.status.value.alert.accepts .webhookStale = true := by rw [hempty]; rfl
  obtain ⟨_, hiff, hfresh⟩ := webhookStale_iff hpath hstate hclock hbattery hqueue
  have hnotoffline : ¬(moment.valid = true ∧
      (before.measured (devices .readBattery) moment.now).offlineTooLong moment.now = true) := by
    rw [honline]
    exact fun h => Bool.false_ne_true h.2
  have hshown := hiff.mpr ⟨⟨rfl, rfl, hnotoffline⟩, .inr ⟨⟨rfl, hsilent⟩, haccepts⟩⟩
  have hanswered := (hfresh 1699977500 hsilent).mpr (by decide +kernel)
  exact ⟨before, _, _, _, moment, _, report, hpath, hstate, hclock, hbattery, hqueue, hempty, hshown, hanswered⟩

/-- A device whose webhook goes on answering is reset because the webhook is silent: the queue knows of
an answer less than two minutes old, and is not asked. -/
theorem answering_webhook_shown_silent :
    ∃ history last store, Run none history last ∧ Stage.blank.store.Serves (callsOf history) store ∧
      resetsIn (callsOf history) = 1 ∧
      ∃ (devices : Devices) (before : Controller) (held : Store) (answered : UInt32),
        tickEvent devices before held ∈ history ∧ before.runState = .reporting ∧
        before.status.value.alert = .empty ∧ devices .lastHookResponse = some answered ∧
        secsBetween (max before.config.value.lastHookResponse answered) (devices .readClock).now ≤
          webhookStaleSecs ∧
        ((Controller.tick.run before).run (Store.environment devices) held).1.2.status.value.alert.current =
          some .webhookStale := by
  let earlier := sessionUntil 14400 (some 1699963100) (some 1699977500)
  let devices := devicesAt 14401 true (some 1699977500)
  have hsome : (play earlier .blank).2.controller.isSome = true := by decide +kernel
  obtain ⟨before, hbefore⟩ := Option.isSome_iff_exists.mp hsome
  let held := (play earlier .blank).2.store
  have hfacts : ∀ c ∈ (play earlier .blank).2.controller, c.runState = .reporting ∧
      c.status.value.alert = .empty ∧
      secsBetween (max c.config.value.lastHookResponse 1699977500) (devices .readClock).now ≤ webhookStaleSecs ∧
      ((Controller.tick.run c).run (Store.environment devices) held).1.2.status.value.alert.current =
        some .webhookStale := by decide +kernel
  obtain ⟨hstate, hempty, hfresh, hshown⟩ := hfacts before hbefore
  let later := dealtWith 14402 (some 1699977500)
  obtain ⟨hrun, hserves⟩ := run_play (earlier ++ .tick devices :: later) .blank
  have hresets : resetsIn (callsOf (play (earlier ++ .tick devices :: later) .blank).1) = 1 := by decide +kernel
  exact ⟨_, _, _, hrun, hserves, hresets, devices, before, held, 1699977500, tickEvent_mem_play hbefore devices,
    hstate, hempty, rfl, hfresh, hshown⟩

end FieldCounter
