import FieldCounter.Proofs.Sleeping
import FieldCounter.Proofs.Transparency

/-!
# Sessions that outlive their mode

Only one counting mode has occupancy sessions, and only counting in that mode ends them, or a deep
sleep. The mode is changed by the actions after a connection and by a fetch of the settings, which do
not look at the session. So a session that is open at the change stays open, through reports, timed
sleeps and reboots, until the device sleeps deeply or the mode comes back.
-/

namespace FieldCounter

open Program (Path)

/-- One of the calls was a deep sleep. -/
def sleepsDeeply (trace : List Exchange) : Bool := trace.any (·.call.isDeepSleep)

/-- The device sleeps deeply in one of the parts. -/
theorem sleepsDeeply_append (trace rest : List Exchange) :
    sleepsDeeply (trace ++ rest) = (sleepsDeeply trace || sleepsDeeply rest) :=
  List.any_append

/-- It does not where no call is a deep sleep. -/
theorem sleepsDeeply_eq_false {trace : List Exchange}
    (h : ∀ exchange ∈ trace, exchange.call.isDeepSleep = false) : sleepsDeeply trace = false := by
  rw [sleepsDeeply, List.any_eq_false]
  intro exchange hmem
  rw [h exchange hmem]
  exact Bool.false_ne_true

/-! ## Effects -/

/-- The session is open afterwards exactly where it was open before and the device did not sleep
deeply. -/
def SessionKept (before : Controller) (trace : List Exchange) (after : Controller) : Prop :=
  after.status.value.occupied = (before.status.value.occupied && !sleepsDeeply trace)

/-- A session that is kept over two parts is kept over both. -/
theorem SessionKept.trans {before between after : Controller} {trace rest : List Exchange}
    (h : SessionKept before trace between) (hrest : SessionKept between rest after) :
    SessionKept before (trace ++ rest) after := by
  unfold SessionKept at *
  rw [hrest, h, sleepsDeeply_append, Bool.not_or, Bool.and_assoc]

/-- None is opened. -/
theorem SessionKept.closed {before after : Controller} {trace : List Exchange} (h : SessionKept before trace after)
    (hclosed : before.status.value.occupied = false) : after.status.value.occupied = false := by
  unfold SessionKept at h
  rw [h, hclosed, Bool.false_and]

/-- The effect neither counts, nor closes the session, nor is a deep sleep. -/
def Effect.leavesSession : Effect → Bool
  | .ask call => !call.isDeepSleep
  | .service | .detection | .closeSession => false
  | _ => true

/-- The counting mode is left alone as well, and counting is allowed, which opens and ends sessions in
one mode only. -/
def Effect.passesSession : Effect → Bool
  | .actOnline | .reload => false
  | .service | .detection => true
  | effect => effect.leavesSession

/-- An effect that leaves the session alone keeps it open, or closed. -/
theorem Effect.Does.session_of_leaves {effect : Effect} {before after : Controller} {trace : List Exchange}
    (h : effect.Does before trace after) (hleaves : effect.leavesSession = true) :
    SessionKept before trace after := by
  have hawake : sleepsDeeply trace = false := by
    refine sleepsDeeply_eq_false fun exchange hmem => Bool.eq_false_iff.mpr fun hdeep => ?_
    rw [Effect.eq_ask_of_mayCall (h.mayCall exchange hmem) (.inr hdeep)] at hleaves
    simp [Effect.leavesSession, hdeep] at hleaves
  unfold SessionKept
  rw [hawake, Bool.not_false, Bool.and_true]
  cases h with
  | service => cases hleaves
  | detection => cases hleaves
  | closeSession => cases hleaves
  | battery c reading now => exact before.status.value.occupied_updateBattery reading now
  | credit c now => exact before.status.value.occupied_creditOpenOccupancy now
  | actOnline hpath =>
    have hkept := Records.kept_occupied before.status.value.occupied
    obtain ⟨_, settled, hsettled, hrecords⟩ := hkept.actOnline rfl _ _ _ hpath
    have hstatus := congrArg (·.status.occupied) hrecords
    exact hstatus.trans ((congrArg (·.occupied) settled.status_settleResetCount).trans hsettled)
  | reload hpath => exact (Records.kept_occupied before.status.value.occupied).reloadRemote rfl _ hpath
  | writeStatus hpath => exact congrArg (·.occupied) (Persisted.value_of_flush hpath)
  | enter uptime => exact congrArg (·.value.occupied) (before.status_prepare uptime)
  | _ => rfl

/-- The counting mode is changed only by the remote settings. -/
theorem Effect.Does.countingMode_eq {effect : Effect} {before after : Controller} {trace : List Exchange}
    (h : effect.Does before trace after) (honline : effect ≠ .actOnline) (hreload : effect ≠ .reload) :
    after.config.value.countingMode = before.config.value.countingMode := by
  cases h with
  | actOnline => exact absurd rfl honline
  | reload => exact absurd rfl hreload
  | writeConfig hpath => exact congrArg (·.countingMode) (Persisted.value_of_flush hpath)
  | enter uptime => exact congrArg (·.value.countingMode) (before.config_prepare uptime)
  | _ => rfl

/-- Counting keeps the session where the mode has none. -/
theorem Effect.Does.session_of_passes {effect : Effect} {before after : Controller} {trace : List Exchange}
    (h : effect.Does before trace after) (hpasses : effect.passesSession = true)
    (hmode : before.config.value.countingMode ≠ .occupancy) :
    SessionKept before trace after ∧ after.config.value.countingMode = before.config.value.countingMode := by
  have hconfig : after.config.value.countingMode = before.config.value.countingMode := by
    refine h.countingMode_eq ?_ ?_
    all_goals
      rintro rfl
      cases hpasses
  refine ⟨?_, hconfig⟩
  by_cases hservice : effect = .service
  · subst hservice
    cases h with
    | service c edge moment =>
      have hsame := before.counting.occupied_service before.status.value moment hmode edge
        before.config.value.debounceMs
      exact hsame.trans (Bool.and_true _).symm
  · by_cases hdetection : effect = .detection
    · subst hdetection
      cases h with
      | detection c moment =>
        have hsame := before.counting.occupied_recordEvent before.status.value moment hmode
        exact hsame.trans (Bool.and_true _).symm
    · refine h.session_of_leaves ?_
      cases effect with
      | service => exact absurd rfl hservice
      | detection => exact absurd rfl hdetection
      | actOnline => rfl
      | reload => rfl
      | _ => exact hpasses

namespace Effects

variable {allowed : Effect → Bool} {before after : Controller} {trace : List Exchange}

/-- Effects that leave the session alone keep it. -/
theorem session_of_leaves (h : Effects allowed before trace after)
    (hleaves : ∀ effect, allowed effect = true → effect.leavesSession = true) :
    SessionKept before trace after := by
  refine h.fold (R := SessionKept) (fun c => (Bool.and_true _).symm) ?_
  intro effect before trace between rest after hallowed hdoes hrest
  exact (hdoes.session_of_leaves (hleaves effect hallowed)).trans hrest

/-- In a mode without sessions, effects that only count keep it, too, and leave the mode alone. -/
theorem session_of_passes (h : Effects allowed before trace after)
    (hpasses : ∀ effect, allowed effect = true → effect.passesSession = true)
    (hmode : before.config.value.countingMode ≠ .occupancy) :
    SessionKept before trace after ∧ after.config.value.countingMode = before.config.value.countingMode := by
  induction h with
  | none c => exact ⟨(Bool.and_true _).symm, rfl⟩
  | cons hallowed hdoes _ ih =>
    obtain ⟨hkept, hsame⟩ := hdoes.session_of_passes (hpasses _ hallowed) hmode
    rw [← hsame] at hmode
    obtain ⟨hrest, hlast⟩ := ih hmode
    exact ⟨hkept.trans hrest, hlast.trans hsame⟩

end Effects

/-! ## Sleeping -/

/-- What belongs to a sleep that is not deep passes the session on. -/
theorem Effect.passesSession_of_rests {effect : Effect} (h : effect.rests = true) :
    effect.passesSession = true := by
  cases effect with
  | ask call => cases call <;> first | rfl | cases h
  | _ => first | rfl | cases h

/-- In a mode without sessions, going to rest keeps it. -/
theorem Effects.session_of_rests {allowed : Effect → Bool} {before after : Controller} {trace : List Exchange}
    (h : Effects allowed before trace after) (hrests : ∀ effect, allowed effect = true → effect.rests = true)
    (hmode : before.config.value.countingMode ≠ .occupancy) :
    SessionKept before trace after ∧ after.config.value.countingMode ≠ .occupancy := by
  obtain ⟨hkept, hsame⟩ :=
    h.session_of_passes (fun effect heffect => Effect.passesSession_of_rests (hrests effect heffect)) hmode
  rw [← hsame] at hmode
  exact ⟨hkept, hmode⟩

namespace Controller

variable {c after : Controller} {trace : List Exchange} {outcome : Outcome}

/-- A sleep that is not deep passes the session on. -/
theorem Naps.sessionKept {plan : SleepPlan} (h : Naps c plan trace outcome after)
    (hmode : c.config.value.countingMode ≠ .occupancy) : SessionKept c trace after :=
  (h.effects.session_of_rests (fun _ => id) hmode).1

/-- No session is open once the device slept deeply, whether or not it came back. -/
theorem SleepsDeeply.sessionKept {plan : SleepPlan} {now : UInt32} (h : SleepsDeeply c plan now trace outcome after)
    (hmode : c.config.value.countingMode ≠ .occupancy) : SessionKept c trace after := by
  have hwrites : ∀ {sensors writing ready}, Effects Effect.writes ({ c with sensors }.setCounting
        (c.counting.closeOccupancy c.status.value now).value) writing ready →
      ready.status.value.occupied = false ∧ ready.config.value.countingMode ≠ .occupancy := by
    intro sensors writing ready hwritten
    obtain ⟨hkept, hready⟩ := hwritten.session_of_rests (fun _ => Effect.rests_of_writes) hmode
    exact ⟨hkept.closed (c.counting.occupied_closeOccupancy c.status.value now), hready⟩
  have hdeep : ∀ (first last : List Exchange) answer,
      sleepsDeeply (first ++ ⟨.deepSleep plan.seconds plan.wake, answer⟩ :: last) = true := by
    intro first last answer
    rw [sleepsDeeply, List.any_eq_true]
    exact ⟨_, List.mem_append_right first List.mem_cons_self, rfl⟩
  unfold SessionKept
  cases h with
  | restarting hdown hwritten => rw [hdeep, (hwrites hwritten).1, Bool.not_true, Bool.and_false]
  | resumed hdown hwritten hplans hnaps =>
    obtain ⟨hclosed, hready⟩ := hwrites hwritten
    obtain ⟨hkept, hbetween⟩ := hplans.session_of_rests (fun _ => Effect.rests_of_replans) hready
    rw [hdeep, (hnaps.sessionKept hbetween).closed (hkept.closed hclosed), Bool.not_true, Bool.and_false]

/-- A tick that sleeps keeps the session open, or closed, unless the device sleeps deeply in it. -/
theorem SleepTick.sessionKept {moment : Moment} (h : SleepTick c moment trace outcome after)
    (hmode : c.config.value.countingMode ≠ .occupancy) : SessionKept c trace after := by
  cases h with
  | awake hwinds => exact (hwinds.session_of_rests (fun _ => Effect.rests_of_windsDown) hmode).1
  | stuck _ hwinds => exact (hwinds.session_of_rests (fun _ => Effect.rests_of_windsDown) hmode).1
  | asleep _ hwinds hsleeps =>
    obtain ⟨hwound, hready⟩ := hwinds.session_of_rests (fun _ => Effect.rests_of_windsDown) hmode
    cases hsleeps with
    | timed hplans hnaps =>
      obtain ⟨hplanned, hplanner⟩ := hplans.session_of_rests (fun _ => Effect.rests_of_plans) hready
      exact hwound.trans (hplanned.trans (hnaps.sessionKept hplanner))
    | deep hplans hdeep =>
      obtain ⟨hplanned, hplanner⟩ := hplans.session_of_rests (fun _ => Effect.rests_of_plans) hready
      exact hwound.trans (hplanned.trans (hdeep.sessionKept hplanner))

end Controller

/-! ## Ticks -/

/-- The opening of a tick only counts. -/
theorem Effect.passesSession_of_opens {effect : Effect} (h : effect.opens = true) :
    effect.passesSession = true := by
  unfold opens at h
  split at h <;> first | rfl | cases h

/-- No state but sleeping has anything to do with the session. -/
theorem RunState.leavesSession_of_has {state : RunState} {effect : Effect} (hsleeping : state ≠ .sleeping)
    (h : state.has effect = true) : effect.leavesSession = true := by
  cases state with
  | sleeping => exact absurd rfl hsleeping
  | _ =>
    dsimp only [has] at h
    split at h <;> first | rfl | cases h

/-- The counting mode is changed only while coming online or waiting for an update. -/
theorem RunState.keepsMode_of_ticks {state : RunState} {effect : Effect} (hconnecting : state ≠ .connecting)
    (hupdate : state ≠ .firmwareUpdate) (h : state.ticks effect = true) :
    effect ≠ .actOnline ∧ effect ≠ .reload := by
  constructor
  all_goals
    rintro rfl
    cases state with
    | connecting => exact absurd rfl hconnecting
    | firmwareUpdate => exact absurd rfl hupdate
    | _ => cases h

namespace Controller

open Step

variable {c after : Controller} {trace : List Exchange} {control : Control}

/-- A tick that begins in a mode without sessions opens none, and ends one only by a deep sleep. -/
theorem session_of_tick (h : Path (tick.run c) trace (control, after))
    (hmode : c.config.value.countingMode ≠ .occupancy) : SessionKept c trace after := by
  obtain ⟨moment, opening, entered, middle, outcome, carried, closing, hopen, hcarry, hflush, _, rfl⟩ :=
    tick_cases h
  have hread : SessionKept c [⟨.readClock, moment⟩] c := Effect.Does.session_of_leaves (.ask c .readClock moment) rfl
  obtain ⟨hopened, hsame⟩ := hopen.session_of_passes (fun _ => Effect.passesSession_of_opens) hmode
  rw [← hsame] at hmode
  have hmiddle : SessionKept entered middle carried := by
    by_cases hsleeping : entered.runState = .sleeping
    · exact (sleepTick_of_carryOut hcarry hsleeping).sessionKept hmode
    · have heffects : Effects entered.runState.has entered middle carried := within_carryOut moment hcarry
      exact heffects.session_of_leaves fun _ => RunState.leavesSession_of_has hsleeping
  have hfollow : Effects (· == .move) carried [] (carried.following outcome) :=
    effects_following rfl carried outcome
  have hmoved : SessionKept carried [] (carried.following outcome) :=
    hfollow.session_of_leaves fun _ heffect => by rw [eq_of_beq heffect]; rfl
  have hwrites : Effects Effect.writes (carried.following outcome) closing after := within_flush_writes hflush
  have hclosed : SessionKept (carried.following outcome) closing after :=
    hwrites.session_of_leaves fun effect heffect => by
      unfold Effect.writes at heffect
      split at heffect <;> first | rfl | cases heffect
  exact ((hread.trans hopened).trans hmiddle).trans (hmoved.trans hclosed)

/-- A tick that changes the counting mode is one of coming online or waiting for an update. -/
theorem runState_of_countingMode_ne (h : Path (tick.run c) trace (control, after))
    (hmode : after.config.value.countingMode ≠ c.config.value.countingMode) :
    c.runState = .connecting ∨ c.runState = .firmwareUpdate := by
  refine Decidable.byContradiction fun hstate => ?_
  rw [not_or] at hstate
  obtain ⟨before, closing, ready, heffects, hflush, rfl⟩ := effects_tick h
  have hall : Effects c.runState.ticks c (before ++ closing) after := heffects.append (within_flush rfl rfl hflush)
  refine hmode (hall.fold (R := fun before _ after =>
    after.config.value.countingMode = before.config.value.countingMode) (fun _ => rfl) ?_)
  intro effect before trace between rest after hallowed hdoes hrest
  obtain ⟨honline, hreload⟩ := RunState.keepsMode_of_ticks hstate.1 hstate.2 hallowed
  rw [hrest]
  exact hdoes.countingMode_eq honline hreload

end Controller

/-! ## Runs -/

/-- The tick changes the mode away from the one with sessions, and leaves a session open. -/
def Event.Abandons : Event → Prop
  | .tick before _ _ after => before.config.value.countingMode = .occupancy ∧
    after.config.value.countingMode ≠ .occupancy ∧ after.status.value.occupied = true
  | .boot _ _ | .raise _ _ => False

/-- The event passes an abandoned session on: a boot, an alert, or a tick in another mode, and without
a deep sleep. -/
def Event.PassesOn : Event → Prop
  | .tick before calls _ after => before.config.value.countingMode ≠ .occupancy ∧
    after.config.value.countingMode ≠ .occupancy ∧ sleepsDeeply calls = false
  | .boot _ _ | .raise _ _ => True

/-- A session is open although the mode has none. -/
def Controller.HasAbandoned (c : Controller) : Prop :=
  c.status.value.occupied = true ∧ c.config.value.countingMode ≠ .occupancy

/-- The boot finds an abandoned session in storage. -/
def Event.FindsAbandoned : Event → Prop
  | .boot _ c => c.HasAbandoned
  | .tick _ _ _ _ | .raise _ _ => False

/-- The event is a boot. -/
def Event.IsBoot : Event → Prop
  | .boot _ _ => True
  | .tick _ _ _ _ | .raise _ _ => False

/-- After a tick a session is abandoned if it was just then, or was before and is passed on. -/
theorem Controller.hasAbandoned_of_tick {before after : Controller} {trace : List Exchange} {control : Control}
    (h : Path (Controller.tick.run before) trace (control, after)) :
    after.HasAbandoned ↔ (Event.tick before trace control after).Abandons ∨
      (Event.tick before trace control after).PassesOn ∧ before.HasAbandoned := by
  unfold HasAbandoned Event.Abandons Event.PassesOn
  by_cases hmode : before.config.value.countingMode = .occupancy
  · simp [hmode, and_comm]
  · have hkept := Controller.session_of_tick h hmode
    unfold SessionKept at hkept
    rw [hkept]
    simp only [hmode, Bool.and_eq_true, Bool.not_eq_true', false_and, false_or, ne_eq, not_false_eq_true,
      true_and, and_true]
    exact ⟨fun ⟨⟨hopen, hawake⟩, hother⟩ => ⟨⟨hother, hawake⟩, hopen⟩,
      fun ⟨⟨hother, hawake⟩, hopen⟩ => ⟨⟨hopen, hawake⟩, hother⟩⟩

/-- A session was abandoned, or found so by the boot, and nothing has ended it in this boot. -/
def AbandonedInBoot : List Event → Prop :=
  Since (fun event => event.Abandons ∨ event.FindsAbandoned) fun event => ¬event.IsBoot ∧ event.PassesOn

/-- Whatever the devices answer, this is when the controller has an abandoned session. -/
theorem Run.hasAbandoned_iff {history : List Event} {last : Option Controller} (hrun : Run none history last) :
    ∀ c ∈ last, (c.HasAbandoned ↔ AbandonedInBoot history) := by
  refine hrun.invariant_of_controller (I := fun history c => c.HasAbandoned ↔ AbandonedInBoot history) ?_ ?_ ?_
  · intro earlier trace c hpath
    rw [AbandonedInBoot, since_concat_iff]
    simp [Event.Abandons, Event.FindsAbandoned, Event.IsBoot]
  · intro earlier before trace after hpath h
    rw [AbandonedInBoot, since_concat_iff, Controller.hasAbandoned_of_tick hpath, h]
    simp [Event.FindsAbandoned, Event.IsBoot, AbandonedInBoot]
  · intro earlier c alert now h
    have hraised : (c.setStatus (c.status.value.raiseAlert alert now).value).HasAbandoned ↔ c.HasAbandoned := Iff.rfl
    rw [AbandonedInBoot, since_concat_iff, hraised, h]
    simp [Event.Abandons, Event.FindsAbandoned, Event.IsBoot, Event.PassesOn, AbandonedInBoot]

/-- An abandoned session is in storage. -/
def Store.HasAbandoned (store : Store) : Prop :=
  (store.found : RuntimeStatus).occupied = true ∧ (store.found : DeviceConfig).countingMode ≠ .occupancy

/-- The session and the mode are those in storage. -/
structure Controller.Recorded (c : Controller) (store : Store) : Prop where
  sound : c.Sound store
  occupied : c.status.value.occupied = (store.found : RuntimeStatus).occupied
  mode : c.config.value.countingMode = (store.found : DeviceConfig).countingMode

/-- An abandoned session is in storage just where one is in memory. -/
theorem Controller.Recorded.hasAbandoned_iff {c : Controller} {store : Store} (h : c.Recorded store) :
    store.HasAbandoned ↔ c.HasAbandoned := by
  unfold Store.HasAbandoned Controller.HasAbandoned
  rw [h.occupied, h.mode]

/-- A controller that is in storage as it is has its session there. -/
theorem Controller.Sound.recorded {c : Controller} {store : Store} (h : c.Sound store) (hsaved : c.Saved) :
    c.Recorded store where
  sound := h
  occupied := congrArg (·.occupied) (Persisted.found_of_stored h.statusStored hsaved.status).symm
  mode := congrArg (·.countingMode) (Persisted.found_of_stored h.configStored hsaved.config).symm

/-- A boot finds the session that is in storage, and leaves it there. -/
theorem recorded_of_boot {c : Controller} {store later : Store} {trace : List Exchange}
    (hpath : Path Controller.boot trace c) (hserves : store.Serves trace later) :
    c.Recorded later ∧ (later.HasAbandoned ↔ store.HasAbandoned) := by
  obtain ⟨hsound, hsaved⟩ := sound_of_boot hpath hserves
  obtain ⟨hconfig, hstatus⟩ := found_of_boot hpath hserves
  have hrecorded := hsound.recorded hsaved
  refine ⟨hrecorded, ?_⟩
  rw [hrecorded.hasAbandoned_iff, Controller.HasAbandoned, hconfig, hstatus]
  rfl

/-- Over a store that keeps what is written and has no session at first, a session is abandoned if it
has been since some tick of the whole run, across its boots. -/
theorem Run.abandoned_iff {history : List Event} {last : Option Controller} {initial store : Store}
    (hrun : Run none history last) (hserves : initial.Serves (callsOf history) store)
    (hempty : initial.bytes .status = none) :
    (∀ c ∈ last, c.Recorded store) ∧ (store.HasAbandoned ↔ Since Event.Abandons Event.PassesOn history) := by
  have hfound : (initial.found : RuntimeStatus).occupied = false := by
    have hkey : initial.bytes (Record.key RuntimeStatus) = none := hempty
    rw [Store.found, hkey]
    rfl
  have hstart : (∀ c ∈ (none : Option Controller), c.Recorded initial) ∧
      (initial.HasAbandoned ↔ Since Event.Abandons Event.PassesOn []) := by
    refine ⟨fun c hc => (by cases hc), fun h => ?_, fun h => absurd h not_since_nil⟩
    rw [Store.HasAbandoned, hfound] at h
    exact absurd h.1 Bool.false_ne_true
  refine hrun.invariant_of_serves (I := fun history store last => (∀ c ∈ last, c.Recorded store) ∧
    (store.HasAbandoned ↔ Since Event.Abandons Event.PassesOn history)) hserves hstart ?_
  intro earlier state event next before after hleads hcalls hearlier
  obtain ⟨hstate, hbefore⟩ := hearlier
  rw [since_concat_iff]
  cases hleads with
  | boot hpath =>
    obtain ⟨hrecorded, hkept⟩ := recorded_of_boot hpath hcalls
    refine ⟨fun c hc => ?_, ?_⟩
    · obtain rfl := Option.some.inj hc
      exact hrecorded
    · rw [hkept, hbefore]
      simp [Event.Abandons, Event.PassesOn]
  | @tick c ended trace control hpath =>
    have hrecorded := hstate c rfl
    obtain ⟨hsound, hsaved⟩ := hrecorded.sound.tick hpath hcalls
    have hended := hsound.recorded hsaved
    refine ⟨fun left hleft => ?_, ?_⟩
    · cases control with
      | proceed =>
        obtain rfl := Option.some.inj hleft
        exact hended
      | restart => cases hleft
    · rw [hended.hasAbandoned_iff, Controller.hasAbandoned_of_tick hpath, ← hrecorded.hasAbandoned_iff, hbefore]
  | raise c alert now =>
    have hsame : after = before := Store.serves_nil_iff.mp hcalls
    have hrecorded := hstate c rfl
    rw [hsame, hbefore]
    refine ⟨fun raised hraised => ?_, by simp [Event.Abandons, Event.PassesOn]⟩
    obtain rfl := Option.some.inj hraised
    have hsane := RuntimeStatus.isSane_raiseAlert hrecorded.sound.status alert now
    exact ⟨hrecorded.sound.setStatus hsane, hrecorded.occupied, hrecorded.mode⟩

/-- In every run, whatever the devices answer: at the end of a tick that began in a mode without
sessions, a session is open exactly where the device did not sleep deeply in the tick and a session
was abandoned before, that is left open by a tick that changed the mode and passed on since, or found
so by the boot. Over a store that keeps what is written and held no status at first, every such session
was abandoned by a tick, and only the actions after a connection and a fetch of the settings abandon
one. -/
theorem occupied_iff_abandoned {earlier : List Event} {before after : Controller} {calls : List Exchange}
    {control : Control} {last : Option Controller}
    (hrun : Run none (earlier ++ [.tick before calls control after]) last)
    (hmode : before.config.value.countingMode ≠ .occupancy) :
    (after.status.value.occupied = true ↔ sleepsDeeply calls = false ∧ AbandonedInBoot earlier) ∧
      (∀ initial store : Store, initial.Serves (callsOf (earlier ++ [.tick before calls control after])) store →
        initial.bytes .status = none →
        (after.status.value.occupied = true ↔
          sleepsDeeply calls = false ∧ Since Event.Abandons Event.PassesOn earlier)) ∧
      ∀ c trace ended left, Event.tick c trace ended left ∈ earlier →
        (Event.tick c trace ended left).Abandons → c.runState = .connecting ∨ c.runState = .firmwareUpdate := by
  obtain ⟨between, hearlier, hleads⟩ := Run.concat_iff.mp hrun
  cases hleads with
  | tick hpath =>
    have hkept : SessionKept before calls after := Controller.session_of_tick hpath hmode
    have hafter : after.status.value.occupied = true ↔ sleepsDeeply calls = false ∧ before.HasAbandoned := by
      unfold SessionKept at hkept
      rw [hkept, Controller.HasAbandoned]
      simp [hmode, and_comm]
    refine ⟨?_, ?_, ?_⟩
    · rw [hafter, hearlier.hasAbandoned_iff before rfl]
    · intro initial store hserves hempty
      rw [callsOf_append] at hserves
      obtain ⟨middle, hfirst, _⟩ := Store.serves_append_iff.mp hserves
      obtain ⟨hrecorded, hiff⟩ := hearlier.abandoned_iff hfirst hempty
      rw [hafter, ← (hrecorded before rfl).hasAbandoned_iff, hiff]
    · intro c trace ended left hmem habandons
      obtain ⟨state, next, hleads⟩ := hearlier.leads_of_mem hmem
      cases hleads with
      | tick hended =>
        refine Controller.runState_of_countingMode_ne hended fun hsame => ?_
        exact habandons.2.1 (hsame.trans habandons.1)

/-- A device that comes online to learn its modes, detects something while the button is pressed, and
comes online again to learn another counting mode. -/
def modeChange : List Scene :=
  let online (secs : Nat) (remote : RemoteConfig) : Devices
    | .loadRemote => some remote
    | call => Devices.afterNoon secs true call
  let detection : Devices
    | .takeSensorFlag | .takeButtonFlag => true
    | call => Devices.afterNoon 5 true call
  [.boot (.afterNoon 0 false), .tick (.afterNoon 1 false), .tick (.afterNoon 2 false), .tick (.afterNoon 3 false),
    .tick (online 4 { modes := { countingMode := some 1, operatingMode := some 1 } }), .tick detection,
    .tick (online 6 { modes := { countingMode := some 0 } })]

/-- The session is open after the next tick, which began in the new mode. -/
theorem occupied_iff_abandoned_modeChange :
    ∃ earlier before calls control after last, Run none (earlier ++ [.tick before calls control after]) last ∧
      before.config.value.countingMode ≠ .occupancy ∧ after.status.value.occupied = true ∧
      sleepsDeeply calls = false ∧ Since Event.Abandons Event.PassesOn earlier := by
  have hsome : (play modeChange .blank).2.controller.isSome = true := by decide +kernel
  obtain ⟨before, hbefore⟩ := Option.isSome_iff_exists.mp hsome
  let devices := Devices.afterNoon 100 true
  have hfacts : ∀ c ∈ (play modeChange .blank).2.controller, c.config.value.countingMode ≠ .occupancy ∧
      ((Controller.tick.run c).run (Store.environment devices)
        (play modeChange .blank).2.store).1.2.status.value.occupied = true := by decide +kernel
  obtain ⟨hmode, hopen⟩ := hfacts before hbefore
  obtain ⟨hrun, hserves⟩ := run_play (modeChange ++ [.tick devices]) .blank
  rw [play_concat_tick hbefore devices] at hrun hserves
  obtain ⟨_, habandoned, _⟩ := occupied_iff_abandoned hrun hmode
  obtain ⟨hawake, hsince⟩ := (habandoned _ _ hserves rfl).mp hopen
  exact ⟨_, before, _, _, _, _, hrun, hmode, hopen, hawake, hsince⟩

/-- A session that was open when the mode changed is open after a tick that began in the other mode. The
next timed sleep is cut short to a second for it, and the next report credits more than an hour to it. -/
theorem session_outlives_mode :
    ∃ history last store, Run none history last ∧ Stage.blank.store.Serves (callsOf history) store ∧
      (∃ before calls control after, Event.tick before calls control after ∈ history ∧
        before.config.value.countingMode ≠ .occupancy ∧ after.status.value.occupied = true) ∧
      (∃ before calls control after, Event.tick before calls control after ∈ history ∧
        before.config.value.countingMode ≠ .occupancy ∧
        Call.timedSleep 1 ⟨true, true, true⟩ ∈ calls.map Exchange.call) ∧
      ∃ before calls control after, Event.tick before calls control after ∈ history ∧
        before.config.value.countingMode ≠ .occupancy ∧ before.runState = .reporting ∧
        before.status.value.dailyOccupancy = 0 ∧ after.status.value.dailyOccupancy = 3996 := by
  let script := modeChange ++ [.tick (.afterNoon 100 true), .tick (.afterNoon 400 false), .tick (.afterNoon 4000 false),
    .tick (.afterNoon 4001 false)]
  obtain ⟨hrun, hserves⟩ := run_play script .blank
  have hopen : (play script .blank).1.any (Event.isTick fun before _ after =>
      before.config.value.countingMode ≠ .occupancy ∧ after.status.value.occupied = true) = true := by
    decide +kernel
  have hshort : (play script .blank).1.any (Event.isTick fun before calls _ =>
      before.config.value.countingMode ≠ .occupancy ∧
        Call.timedSleep 1 ⟨true, true, true⟩ ∈ calls.map Exchange.call) = true := by decide +kernel
  have hcredit : (play script .blank).1.any (Event.isTick fun before _ after =>
      before.config.value.countingMode ≠ .occupancy ∧ before.runState = .reporting ∧
        before.status.value.dailyOccupancy = 0 ∧ after.status.value.dailyOccupancy = 3996) = true := by
    decide +kernel
  refine ⟨_, _, _, hrun, hserves, ?_, ?_, ?_⟩
  · simpa only [decide_eq_true_eq] using exists_tick_of_any hopen
  · simpa only [decide_eq_true_eq] using exists_tick_of_any hshort
  · simpa only [decide_eq_true_eq] using exists_tick_of_any hcredit

end FieldCounter
