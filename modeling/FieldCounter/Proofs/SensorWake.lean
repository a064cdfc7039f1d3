import FieldCounter.Proofs.FallingAsleep
import FieldCounter.Proofs.SensorSupply

/-!
# Wakes by the sensor

A detection that ends a timed sleep shows on the pins, and may leave its mark as well. Where the sensor
alone shows there, waking counts the detection and takes the mark, so that the next tick does not count it
again. Where the button shows there too, the wake passes for a press and counts nothing: the detection
counts in the next tick if it left its mark, and is lost otherwise.
-/

namespace FieldCounter

open Program (Path)

/-! ## What is counted -/

/-- Both counters went on by so much, as far as they reach. -/
structure RuntimeStatus.CountedOn (before : RuntimeStatus) (n : Nat) (after : RuntimeStatus) : Prop where
  hourly : after.hourlyCount.toNat = min (before.hourlyCount.toNat + n) wordMax
  daily : after.dailyCount.toNat = min (before.dailyCount.toNat + n) wordMax

/-- The counters, and whether a session is open, which counts once it is closed. -/
def RuntimeStatus.tally (status : RuntimeStatus) : UInt32 × UInt32 × Bool :=
  (status.hourlyCount, status.dailyCount, status.occupied)

namespace RuntimeStatus

variable {before between after : RuntimeStatus} {n more : Nat}

/-- Where the tally is left alone, nothing is counted on. -/
theorem countedOn_zero (h : after.tally = before.tally) : before.CountedOn 0 after := by
  simp only [tally, Prod.mk.injEq] at h
  obtain ⟨hhourly, hdaily, _⟩ := h
  have hhour := toNat_le_wordMax before.hourlyCount
  have hday := toNat_le_wordMax before.dailyCount
  exact ⟨by rw [hhourly]; omega, by rw [hdaily]; omega⟩

/-- The same tally tells the same of whether a session is open. -/
theorem occupied_of_tally (h : after.tally = before.tally) : after.occupied = before.occupied :=
  congrArg (·.2.2) h

/-- What is counted on in two parts adds up. -/
theorem CountedOn.trans (h : before.CountedOn n between) (hrest : between.CountedOn more after) :
    before.CountedOn (n + more) after where
  hourly := by
    rw [hrest.hourly, h.hourly]
    omega
  daily := by
    rw [hrest.daily, h.daily]
    omega

/-- A count counts on by one. -/
theorem countedOn_countOne (status : RuntimeStatus) (now : UInt32) : status.CountedOn 1 (status.countOne now) :=
  ⟨toNat_addSat .., toNat_addSat ..⟩

/-- Crediting the open session counts nothing. -/
@[simp] theorem tally_creditOpenOccupancy (status : RuntimeStatus) (now : UInt32) :
    (status.creditOpenOccupancy now).2.tally = status.tally := by
  unfold creditOpenOccupancy
  split
  · rfl
  · rfl

/-- A reading of the gauge counts nothing. -/
@[simp] theorem tally_updateBattery (status : RuntimeStatus) (reading : BatteryReading) (now : UInt32) :
    (status.updateBattery reading now).value.tally = status.tally := by
  unfold updateBattery
  simp only [Logged.value_bind, value_updateTier]
  cases reading.fault with
  | none => rfl
  | some fault => rfl

end RuntimeStatus

namespace CountingEngine

variable (engine : CountingEngine) (status : RuntimeStatus)

/-- An open session counts as one when it is closed before a sleep. -/
theorem countedOn_closeOccupancy (now : UInt32) :
    status.CountedOn status.occupied.toNat (engine.closeOccupancy status now).value.2.2 := by
  unfold closeOccupancy
  cases status.occupied with
  | false => exact RuntimeStatus.countedOn_zero rfl
  | true => exact ⟨toNat_addSat .., toNat_addSat ..⟩

/-- In counting mode a tick counts a detection as one. -/
theorem countedOn_service (detected : Bool) (debounceMs : UInt32) (moment : Moment) :
    status.CountedOn detected.toNat (engine.service detected .counting debounceMs status moment).value.2.2 := by
  cases detected with
  | false => exact RuntimeStatus.countedOn_zero rfl
  | true => exact status.countedOn_countOne moment.now

end CountingEngine

/-- The effect neither counts nor opens or ends a session. -/
def Effect.keepsTally : Effect → Bool
  | .service | .detection | .closeSession | .newDay | .newPeriod | .actOnline | .reload => false
  | _ => true

/-- An effect that keeps the tally counts nothing. -/
theorem Effect.Does.tally_eq {effect : Effect} {before after : Controller} {trace : List Exchange}
    (h : effect.Does before trace after) (hkeeps : effect.keepsTally = true) :
    after.status.value.tally = before.status.value.tally := by
  cases h with
  | service | detection | closeSession | newDay | newPeriod | actOnline | reload => cases hkeeps
  | battery c reading now => exact before.status.value.tally_updateBattery reading now
  | credit c now => exact before.status.value.tally_creditOpenOccupancy now
  | writeStatus hpath => exact congrArg (·.tally) (Persisted.value_of_flush hpath)
  | enter uptime => exact congrArg (·.value.tally) (before.status_prepare uptime)
  | _ => rfl

/-- Neither does a row of them. -/
theorem Effects.tally_eq {allowed : Effect → Bool} {before after : Controller} {trace : List Exchange}
    (h : Effects allowed before trace after)
    (hkeeps : ∀ effect, allowed effect = true → effect.keepsTally = true) :
    after.status.value.tally = before.status.value.tally := by
  induction h with
  | none c => rfl
  | cons hallowed hdoes _ ih => exact ih.trans (hdoes.tally_eq (hkeeps _ hallowed))

namespace Effect

variable {effect : Effect}

/-- Getting ready for a sleep counts nothing. -/
theorem keepsTally_of_readies (h : effect.readies = true) : effect.keepsTally = true := by
  cases effect <;> first | rfl | cases h

/-- Getting ready for a sleep leaves the settings alone. -/
theorem changesConfig_of_readies (h : effect.readies = true) : effect.changesConfig = false := by
  cases effect <;> first | rfl | cases h

end Effect

/-! ## What tells of detections -/

/-- What the exchange says of the mark that a detection leaves. -/
def Exchange.mark : Exchange → Option Bool
  | ⟨.takeSensorFlag, marked⟩ => some marked
  | _ => none

/-- The marks that were looked for among the calls, and whether they were found. -/
def marks (calls : List Exchange) : List Bool := calls.filterMap Exchange.mark

/-- The exchange tells of a detection: the mark was found, or the sensor was asked and had one. -/
def Exchange.detects : Exchange → Bool
  | ⟨.takeSensorFlag, true⟩ | ⟨.pollSensor, true⟩ => true
  | _ => false

/-- The marks are listed part by part. -/
theorem marks_append (first rest : List Exchange) : marks (first ++ rest) = marks first ++ marks rest :=
  List.filterMap_append

/-- Calls of a kind that does not take the mark find none. -/
theorem marks_eq_nil {calls : List Exchange} (kind : Call → Bool) (hkind : kind .takeSensorFlag = false)
    (h : ∀ exchange ∈ calls, kind exchange.call = true) : marks calls = [] := by
  refine List.filterMap_eq_nil_iff.mpr fun exchange hmem => ?_
  have hcall := h exchange hmem
  unfold Exchange.mark
  split
  · rw [hkind] at hcall
    cases hcall
  · rfl

/-- A poll finds no detection that the sensor does not tell of. -/
theorem SensorManager.eq_false_of_poll {manager : SensorManager} {trace : List Exchange} {found : Bool}
    (h : Path manager.poll trace found) (hnone : (⟨.pollSensor, true⟩ : Exchange) ∉ trace) : found = false := by
  cases manager.ensures_polls h with
  | down | interrupts => rfl
  | polls =>
    refine Bool.eq_false_iff.mpr ?_
    rintro rfl
    exact hnone (by simp)

namespace Controller

open Step

variable {c asleep after : Controller} {trace first rest : List Exchange} {secs : Nat} {wake : WakeSources}
  {pins : WakePins} {moment : Moment}

/-! ## Falling asleep -/

/-- On the way to a timed sleep, nothing counts but an open session that is closed for a deep sleep. -/
theorem FallsAsleep.countedOn (h : c.FallsAsleep trace asleep) :
    c.status.value.CountedOn (if CameBack trace then c.status.value.occupied.toNat else 0) asleep.status.value ∧
      asleep.config.value = c.config.value := by
  have hready : ∀ {before trace after}, Effects Effect.readies before trace after →
      after.status.value.tally = before.status.value.tally ∧ after.config.value = before.config.value := by
    intro before trace after heffects
    exact ⟨heffects.tally_eq fun _ => Effect.keepsTally_of_readies,
      heffects.config_eq fun _ => Effect.changesConfig_of_readies⟩
  cases h with
  | directly hfirst =>
    obtain ⟨htally, hconfig⟩ := hready hfirst
    rw [if_neg hfirst.prompt_of_readies.not_cameBack]
    exact ⟨RuntimeStatus.countedOn_zero htally, hconfig⟩
  | @again _ _ _ ready between _ secs wake _ now hfirst hwriting hagain =>
    obtain ⟨htally, hconfig⟩ := hready hfirst
    obtain ⟨hwritten, hbetween⟩ := hready hwriting
    obtain ⟨hreplanned, hasleep⟩ := hready hagain
    have hback : ∀ {first rest : List Exchange},
        CameBack (first ++ ⟨.deepSleep secs wake, .resumed⟩ :: rest) := ⟨secs, wake, by simp⟩
    have hclosed := ready.counting.countedOn_closeOccupancy ready.status.value now
    have hslept := (RuntimeStatus.countedOn_zero htally).trans
      (hclosed.trans (RuntimeStatus.countedOn_zero (hreplanned.trans hwritten)))
    rw [if_pos hback, ← RuntimeStatus.occupied_of_tally htally]
    refine ⟨?_, hasleep.trans (hbetween.trans hconfig)⟩
    rwa [Nat.add_zero, Nat.zero_add] at hslept

/-! ## Waking -/

/-- A wake by the sensor alone takes the mark and counts; a wake by the button does neither. -/
theorem ensures_wakeUp_countedOn (hmode : c.config.value.countingMode = .counting) (hsensor : pins.sensor = true) :
    (wakeUp pins).Ensures c fun trace _ after =>
      after.config.value = c.config.value ∧
        if pins.manual then marks trace = [] ∧ c.status.value.CountedOn 0 after.status.value
        else ∃ latched, marks trace = [latched] ∧ c.status.value.CountedOn 1 after.status.value := by
  refine ensures_call_bind.mpr fun moment => ensures_get_bind.mpr (ensures_logged_bind.mpr ?_)
  extract_lets rest
  have hrest : ∀ between : Controller, between.config = c.config →
      between.status.value.tally = c.status.value.tally → ∀ lifting, marks lifting = [] →
      (rest ()).Ensures between fun trace _ after => after.config.value = c.config.value ∧
        if pins.manual then marks (lifting ++ trace) = [] ∧ c.status.value.CountedOn 0 after.status.value
        else ∃ latched, marks (lifting ++ trace) = [latched] ∧ c.status.value.CountedOn 1 after.status.value := by
    intro between hconfig htally lifting hlifting
    have hbetween := RuntimeStatus.countedOn_zero htally
    refine ensures_bind.mpr ?_
    unfold WakeCause.ofPins accountForWake
    cases pins.manual with
    | true =>
      refine ensures_discard.mpr (ensures_call.mpr fun pressed => ensures_get_bind.mpr (ensures_pure.mpr ?_))
      exact ⟨congrArg (·.value) hconfig, by rw [marks_append, hlifting]; rfl, hbetween⟩
    | false =>
      rw [hsensor]
      refine ensures_bind.mpr (ensures_discard.mpr (ensures_call.mpr fun latched => ?_))
      refine ensures_get_bind.mpr (ensures_discard.mpr (ensures_onCounting.mpr ?_))
      refine ensures_get_bind.mpr (ensures_pure.mpr ⟨congrArg (·.value) hconfig, latched, ?_, ?_⟩)
      · rw [marks_append, hlifting]
        rfl
      · rw [hconfig, hmode]
        have hcounted := hbetween.trans (between.status.value.countedOn_countOne moment.now)
        rwa [Nat.zero_add] at hcounted
  refine ensures_ite.mpr ⟨fun _ => ?_, fun _ => hrest c rfl rfl [⟨.readClock, moment⟩] rfl⟩
  refine ensures_modify_bind.mpr (ensures_bind.mpr (ensures_get_bind.mpr (ensures_bind.mpr ?_)))
  refine ensures_onSensors.mpr fun up result hup => ?_
  have hlifting : marks up = [] :=
    marks_eq_nil Call.isBringUp rfl (SensorManager.calls_powerUp _ _ hup)
  refine ensures_ite.mpr ⟨fun _ => ensures_pure.mpr ?_, fun _ => ensures_logged_bind.mpr (ensures_updateStatus.mpr ?_)⟩
  · exact (hrest _ (by rfl) (by rfl) (⟨.readClock, moment⟩ :: up) hlifting).mono fun trace _ after h => by simpa using h
  · exact (hrest _ (by rfl) (by rfl) (⟨.readClock, moment⟩ :: up) hlifting).mono fun trace _ after h => by simpa using h

/-! ## The two ticks -/

/-- In counting mode a tick opens by counting a detection as one. -/
theorem countedOn_serviced (hmode : c.config.value.countingMode = .counting) (detected : Bool) (moment : Moment) :
    c.status.value.CountedOn detected.toNat (c.serviced detected moment).status.value := by
  have hcounted := c.counting.countedOn_service c.status.value detected c.config.value.debounceMs moment
  rwa [← hmode] at hcounted

/-- Without a detection it counts nothing, and leaves the session alone. -/
theorem tally_opened (hmode : c.config.value.countingMode = .counting) (moment : Moment) :
    (c.opened false moment).status.value.tally = c.status.value.tally := by
  rw [status_opened, serviced, hmode]
  rfl

/-- Where nothing was detected before it, nothing counts up to a timed sleep but an open session that is
closed for a deep sleep that came back. -/
theorem asleep_of_timedSleep {control : Control}
    (h : Path (tick.run c) (first ++ ⟨.timedSleep secs wake, pins⟩ :: rest) (control, after))
    (hmode : c.config.value.countingMode = .counting) (hfirst : ∀ exchange ∈ first, exchange.detects = false) :
    ∃ asleep waking outcome woken closing,
      c.status.value.CountedOn (if CameBack first then c.status.value.occupied.toNat else 0) asleep.status.value ∧
      asleep.config.value = c.config.value ∧ Path ((wakeUp pins).run asleep) waking (outcome, woken) ∧
      Path (flush.run (woken.following outcome)) closing ((), after) ∧ rest = waking ++ closing := by
  obtain ⟨start, marked, polling, polled, falling, asleep, waking, outcome, woken, closing, hpolling, rfl, hfalls,
    hwaking, hflush, hrest⟩ := parts_of_timedSleep h
  obtain rfl : marked = false := by
    have hmark := hfirst ⟨.takeSensorFlag, marked⟩ (by simp)
    cases marked with
    | false => rfl
    | true => cases hmark
  obtain rfl : polled = false := SensorManager.eq_false_of_poll hpolling fun hasked =>
    absurd (hfirst ⟨.pollSensor, true⟩ (by simp [hasked])) (by decide)
  have hback : CameBack (⟨.readClock, start⟩ :: ⟨.takeSensorFlag, false⟩ :: polling ++ falling) ↔ CameBack falling := by
    rw [cameBack_append, or_iff_right]
    rintro ⟨secs, wake, hmem⟩
    exact (prompt_opening false hpolling).not_cameBack ⟨secs, wake, by simpa using hmem⟩
  have htally := tally_opened hmode start
  obtain ⟨hcounted, hkept⟩ := hfalls.countedOn
  rw [Bool.or_false, RuntimeStatus.occupied_of_tally htally] at hcounted
  have hasleep := (RuntimeStatus.countedOn_zero htally).trans hcounted
  rw [Nat.zero_add] at hasleep
  refine ⟨asleep, waking, outcome, woken, closing, ?_, ?_, hwaking, hflush, hrest⟩
  · rwa [if_congr hback rfl rfl]
  · rw [hkept, config_opened]

/-- Following the outcome and writing the records count nothing, and take no mark. -/
theorem tally_flush {outcome : Outcome} (h : Path (flush.run (c.following outcome)) trace ((), after)) :
    after.status.value.tally = c.status.value.tally ∧ after.config.value = c.config.value ∧ marks trace = [] := by
  have hwrites : Effects Effect.writes (c.following outcome) trace after := within_flush_writes h
  have htally := hwrites.tally_eq fun _ h => Effect.keepsTally_of_readies (Effect.readies_of_writes h)
  have hconfig := hwrites.config_eq fun _ h => Effect.changesConfig_of_rests (Effect.rests_of_writes h)
  have hmarks : marks trace = [] := by
    refine marks_eq_nil Call.isWrite rfl fun exchange hmem => ?_
    obtain ⟨effect, hallowed, hcall⟩ := hwrites.mayCall exchange hmem
    cases effect <;> first | exact hcall | cases hallowed
  cases outcome with
  | remain | moveTo | restart => exact ⟨htally, hconfig, hmarks⟩

end Controller

open Controller

/-- A detection that ends a timed sleep in counting mode and shows on the pins, no other one being there
until the next tick has counted: it counts as one, unless the button shows on the pins too and the detection
left no mark, and then it is not counted at all. The open session that was closed for a deep sleep that came
back counts besides. -/
theorem sensorWake_countedOn {before woke counted : Controller} {first rest service : List Exchange} {secs : Nat}
    {wake : WakeSources} {pins : WakePins} {control : Control} {moment : Moment} {latched : Bool} {later : List Bool}
    (hsleep : Path (tick.run before) (first ++ ⟨.timedSleep secs wake, pins⟩ :: rest) (control, woke))
    (hservice : Path ((serviceCounting moment).run woke) service ((), counted))
    (hmode : before.config.value.countingMode = .counting) (hsensor : pins.sensor = true)
    (hfirst : ∀ exchange ∈ first, exchange.detects = false) (hmarks : marks (rest ++ service) = latched :: later)
    (hlater : true ∉ later) (hpoll : (⟨.pollSensor, true⟩ : Exchange) ∉ service) :
    before.status.value.CountedOn ((if CameBack first then before.status.value.occupied.toNat else 0) +
      if pins.manual && !latched then 0 else 1) counted.status.value := by
  obtain ⟨asleep, waking, outcome, woken, closing, hasleep, hkept, hwaking, hflush, rfl⟩ :=
    asleep_of_timedSleep hsleep hmode hfirst
  obtain ⟨taken, looking, found, rfl, hlooking, rfl⟩ := ensures_serviceCounting moment hservice
  obtain rfl : found = false := SensorManager.eq_false_of_poll hlooking fun hasked =>
    hpoll (List.mem_cons_of_mem _ hasked)
  -- the counters go on in these steps: falling asleep, waking, and the service of the next tick
  obtain ⟨hawake, hwaked⟩ := ensures_wakeUp_countedOn (by rw [hkept, hmode]) hsensor hwaking
  obtain ⟨hwritten, hrecorded, hclosing⟩ := tally_flush hflush
  have hserviced := countedOn_serviced (c := woke) (by rw [hrecorded, hawake, hkept, hmode]) taken moment
  have hall : ∀ {n}, asleep.status.value.CountedOn n woken.status.value →
      before.status.value.CountedOn ((if CameBack first then before.status.value.occupied.toNat else 0) +
        (n + taken.toNat)) (woke.serviced taken moment).status.value := by
    intro n hcounted
    have hsteps := hasleep.trans (hcounted.trans ((RuntimeStatus.countedOn_zero hwritten).trans hserviced))
    rwa [Nat.zero_add] at hsteps
  have htaken : marks (⟨.takeSensorFlag, taken⟩ :: looking) = [taken] :=
    congrArg (List.cons taken) (marks_eq_nil Call.isLook rfl (SensorManager.calls_poll _ hlooking))
  rw [marks_append, marks_append, hclosing, htaken, List.append_nil] at hmarks
  rw [Bool.or_false]
  cases hmanual : pins.manual with
  | true =>
    rw [hmanual, if_pos rfl] at hwaked
    obtain ⟨hnone, hcounted⟩ := hwaked
    rw [hnone] at hmarks
    cases hmarks
    have hdone := hall hcounted
    cases latched <;> exact hdone
  | false =>
    rw [hmanual, if_neg Bool.false_ne_true] at hwaked
    obtain ⟨found, hfound, hcounted⟩ := hwaked
    rw [hfound] at hmarks
    cases hmarks
    obtain rfl : taken = false := by simpa using hlater
    exact hall hcounted

/-! ## A wake as the device opens -/

/-- The same devices, but the pins show this after a timed sleep. -/
def Devices.wokenBy (devices : Devices) (pins : WakePins) : Devices
  | .timedSleep _ _ => pins
  | call => devices call

/-- What the exchange says of the pins. -/
def Exchange.pins : Exchange → Option WakePins
  | ⟨.timedSleep _ _, pins⟩ => some pins
  | _ => none

/-- Calls with a timed sleep among them fall into those before it, itself and those after it. -/
theorem split_at_timedSleep {calls : List Exchange} {n : Nat} {pins : WakePins}
    (h : (calls.drop n).head?.bind Exchange.pins = some pins) :
    ∃ secs wake, calls = calls.take n ++ ⟨.timedSleep secs wake, pins⟩ :: calls.drop (n + 1) := by
  obtain ⟨exchange, hhead, hpins⟩ := Option.bind_eq_some_iff.mp h
  unfold Exchange.pins at hpins
  split at hpins
  next secs wake shown =>
    cases hpins
    obtain ⟨rest, hrest⟩ := List.head?_eq_some_iff.mp hhead
    refine ⟨secs, wake, ?_⟩
    rw [← List.tail_drop, hrest, List.tail_cons, ← hrest, List.take_append_drop]
  next => cases hpins

/-- A tick in which the device sleeps until its sensor detects something, as it opens after a deep sleep that
came back, with nothing detected before and no mark left; and the counting of the next tick. -/
theorem wake_closingSeen (manual : Bool) :
    ∃ earlier before first secs wake rest control woke last moment service counted,
      Run none (earlier ++ [.tick before (first ++ ⟨.timedSleep secs wake, ⟨manual, true⟩⟩ :: rest) control woke])
        last ∧
      Path ((serviceCounting moment).run woke) service ((), counted) ∧
      before.config.value.countingMode = .counting ∧ before.status.value.hourlyCount = 0 ∧
      (∀ exchange ∈ first ++ service, exchange.detects = false) ∧
      marks (rest ++ service) = false :: (if manual then [] else [false]) ∧
      counted.status.value.hourlyCount = if manual then 0 else 1 := by
  have hsome : (play closingSeen .blank).2.controller.isSome = true := by decide +kernel
  obtain ⟨before, hbefore⟩ := Option.isSome_iff_exists.mp hsome
  let devices := Devices.sinceSix 90000 true
  let env := fun manual : Bool => Devices.aroundDeepSleep (Devices.sinceSix 57602 false).comingBack
    ((Devices.sinceSix 86401 false).wokenBy ⟨manual, true⟩)
  let tick := fun (manual : Bool) (c : Controller) => (Controller.tick.run c).trace (env manual) false
  let woke := fun (manual : Bool) (c : Controller) => ((Controller.tick.run c).run (env manual) false).1.2
  let service := fun c : Controller => (serviceCounting (devices .readClock)).run c
  let next := Store.environment devices
  let store := Stage.blank.store
  have hfacts : ∀ c ∈ (play closingSeen .blank).2.controller, ∀ manual : Bool,
      c.config.value.countingMode = .counting ∧ c.status.value.hourlyCount = 0 ∧
      ((tick manual c).drop 12).head?.bind Exchange.pins = some ⟨manual, true⟩ ∧
      (∀ exchange ∈ (tick manual c).take 12 ++ (service (woke manual c)).trace next store,
        exchange.detects = false) ∧
      marks ((tick manual c).drop 13 ++ (service (woke manual c)).trace next store) =
        false :: (if manual then [] else [false]) ∧
      ((service (woke manual c)).run next store).1.2.status.value.hourlyCount = if manual then 0 else 1 := by
    decide +kernel
  obtain ⟨hmode, hcount, hpins, hnone, hmarks, hcounted⟩ := hfacts before hbefore manual
  obtain ⟨secs, wake, hsplit⟩ := split_at_timedSleep hpins
  have hpath : Path (Controller.tick.run before) (tick manual before) _ :=
    (Controller.tick.run before).path_run (env manual) false
  have hservice := (service (woke manual before)).path_run next store
  obtain ⟨hrun, _⟩ := run_play closingSeen .blank
  rw [hbefore] at hrun
  rw [hsplit] at hpath
  exact ⟨_, before, _, secs, wake, _, _, _, _, devices .readClock, _, _, Run.concat_iff.mpr ⟨_, hrun, .tick hpath⟩,
    hservice, hmode, hcount, hnone, hmarks, hcounted⟩

/-- Where the sensor alone shows on the pins, the detection counts as one. -/
theorem sensorWake_countedOn_closingSeen :
    ∃ before first secs wake rest control woke moment service counted,
      Path (tick.run before) (first ++ ⟨.timedSleep secs wake, ⟨false, true⟩⟩ :: rest) (control, woke) ∧
      Path ((serviceCounting moment).run woke) service ((), counted) ∧
      before.status.value.CountedOn ((if CameBack first then before.status.value.occupied.toNat else 0) + 1)
        counted.status.value := by
  obtain ⟨_, before, first, secs, wake, rest, control, woke, _, moment, service, counted, hrun, hservice, hmode, _,
    hnone, hmarks, _⟩ := wake_closingSeen false
  obtain ⟨_, _, hleads⟩ := Run.concat_iff.mp hrun
  cases hleads with
  | tick hsleep =>
    have hpoll : (⟨.pollSensor, true⟩ : Exchange) ∉ service := fun hmem =>
      absurd (hnone _ (List.mem_append_right _ hmem)) (by decide)
    have hcounted := sensorWake_countedOn hsleep hservice hmode rfl
      (fun exchange hmem => hnone exchange (List.mem_append_left _ hmem)) hmarks (by decide) hpoll
    exact ⟨before, first, secs, wake, rest, control, woke, moment, service, counted, hsleep, hservice, hcounted⟩

/-- Where the button shows there too, it is not counted by the waking tick, nor by the next one. -/
theorem sensorWake_lost :
    ∃ earlier before first secs wake pins rest control woke last moment service counted,
      Run none (earlier ++ [.tick before (first ++ ⟨.timedSleep secs wake, pins⟩ :: rest) control woke]) last ∧
      Path ((serviceCounting moment).run woke) service ((), counted) ∧
      before.config.value.countingMode = .counting ∧ pins.sensor = true ∧
      (∀ exchange ∈ first ++ service, exchange.detects = false) ∧ marks (rest ++ service) = [false] ∧
      before.status.value.hourlyCount = 0 ∧ counted.status.value.hourlyCount = 0 := by
  obtain ⟨earlier, before, first, secs, wake, rest, control, woke, last, moment, service, counted, hrun, hservice,
    hmode, hcount, hnone, hmarks, hcounted⟩ := wake_closingSeen true
  exact ⟨earlier, before, first, secs, wake, ⟨true, true⟩, rest, control, woke, last, moment, service, counted, hrun,
    hservice, hmode, rfl, hnone, hmarks, hcount, hcounted⟩

end FieldCounter
