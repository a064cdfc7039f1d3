import FieldCounter.Proofs.Script
import FieldCounter.Proofs.Transparency
import FieldCounter.Proofs.Updating

/-!
# Stays in the update state

An update that does not come keeps the device from its work no longer than twenty minutes, and only once in a boot. The
stay is left for good when they have passed or the button is pressed; the mark that an update waits is left in storage,
so that the next boot comes online for it. It is taken back only where the radio is asked online and offers none.
-/

namespace FieldCounter

open Program (Path)

/-! ## One stay -/

/-- The uptime of one more event comes last. -/
theorem uptimes_concat (history : List Event) (event : Event) :
    uptimes (history ++ [event]) = uptimes history ++ (event.moment.map (·.uptimeMs)).toList := by
  cases hmoment : event.moment <;> simp [uptimes, hmoment]

namespace Controller

open Step

variable {c after : Controller} {visit : List Event} {calls : List Exchange} {control : Control}

/-- What the controller remembers of the stay. -/
structure Visiting (c : Controller) (visit : List Event) : Prop where
  began : (uptimes visit).head? = if c.previous = some .firmwareUpdate then some c.update.enteredAt else none
  asked : connectRequests (callsOf visit) =
    (if c.previous = some .firmwareUpdate then c.connect else {}).requestedAt.toList.length
  fetched : fetches (callsOf visit) = (if c.previous = some .firmwareUpdate then c.update.reloaded else false).toNat

/-- So it is when the state is entered. -/
theorem visiting_nil (h : c.previous ≠ some .firmwareUpdate) : c.Visiting [] where
  began := (if_neg h).symm
  asked := by rw [if_neg h]; rfl
  fetched := by rw [if_neg h]; rfl

/-- An alert from outside does not change what is remembered of the stay. -/
theorem Visiting.raise (h : c.Visiting visit) (alert : Alert) (now : UInt32) (status : RuntimeStatus) :
    (c.setStatus status).Visiting (visit ++ [.raise alert now]) := by
  have hcalls : callsOf (visit ++ [.raise alert now]) = callsOf visit := by
    rw [callsOf_append, callsOf_singleton]
    exact List.append_nil _
  have huptimes : uptimes (visit ++ [.raise alert now]) = uptimes visit := by
    rw [uptimes_concat]
    exact List.append_nil _
  refine ⟨?_, ?_, ?_⟩
  · rw [huptimes]
    exact h.began
  · rw [hcalls]
    exact h.asked
  · rw [hcalls]
    exact h.fetched

/-- In a stay a connection is asked for and the settings are fetched once at most. -/
theorem Visiting.once (h : c.Visiting visit) : connectRequests (callsOf visit) ≤ 1 ∧ fetches (callsOf visit) ≤ 1 := by
  refine ⟨?_, ?_⟩
  · rw [h.asked]
    generalize (if c.previous = some .firmwareUpdate then c.connect else {}).requestedAt = requested
    cases requested <;> simp
  · rw [h.fetched]
    exact Bool.toNat_le _

/-- A tick of the stay counts from its first one. -/
theorem Visiting.head?_uptimes (h : c.Visiting visit) (hstate : c.runState = .firmwareUpdate) (detected : Bool)
    (moment : Moment) :
    (uptimes visit ++ [moment.uptimeMs]).head? = some (c.opened detected moment).update.enteredAt := by
  rw [List.head?_append, h.began, (c.update_opened detected moment hstate).2]
  split <;> rfl

/-- The tick goes on from what the stay has come to. -/
theorem Visiting.tick (h : c.Visiting visit) (hpath : Path (tick.run c) calls (control, after))
    (hstate : c.runState = .firmwareUpdate) : after.Visiting (visit ++ [.tick c calls control after]) := by
  have hprevious : after.previous = some .firmwareUpdate := (previous_of_tick hpath).trans (congrArg some hstate)
  obtain ⟨moment, marked, polling, polled, middle, outcome, carried, closing, hpoll, hupdates, hflush, _, hcalls⟩ :=
    updates_of_tick hpath hstate
  obtain ⟨hconnect, hupdate⟩ := c.update_opened (marked || polled) moment hstate
  obtain ⟨hbegan, hasked, hfetched⟩ := hupdates.goesOn
  have hopening := apart_opening moment marked hpoll
  have hclosing := apart_flush hflush
  have hrequests : connectRequests calls = connectRequests middle := by
    rw [hcalls, connectRequests_between hopening hclosing]
  have hfetches : fetches calls = fetches middle := by
    rw [hcalls, fetches_append, fetches_append, hopening.fetches_eq, hclosing.fetches_eq, Nat.zero_add, Nat.add_zero]
  have hmoment : (Event.tick c calls control after).moment = some moment := by
    rw [hcalls]
    rfl
  obtain ⟨_, _, config, _, _, status, _, _, _, hafter⟩ := flush_cases hflush
  have hconnects : after.connect = carried.connect := by
    rw [hafter]
    cases outcome <;> rfl
  have hvisits : after.update = carried.update := by
    rw [hafter]
    cases outcome <;> rfl
  refine ⟨?_, ?_, ?_⟩
  · rw [uptimes_concat, hmoment, if_pos hprevious, hvisits, hbegan]
    exact h.head?_uptimes hstate (marked || polled) moment
  · rw [callsOf_append, callsOf_singleton, connectRequests_append, Event.calls, hrequests, h.asked, if_pos hprevious,
      hconnects, ← hasked, hconnect]
  · rw [callsOf_append, callsOf_singleton, fetches_append, Event.calls, hfetches, h.fetched, if_pos hprevious,
      hvisits, ← hfetched, hupdate]
    split <;> rfl

end Controller

/-- As long as the device stays in the update state, the controller remembers the stay. -/
theorem Run.visiting {earlier visit : List Event} {last : Option Controller} (hrun : Run none (earlier ++ visit) last)
    (hvisits : Visits .firmwareUpdate earlier visit) :
    (∀ c ∈ last, c.Visiting visit) ∧ connectRequests (callsOf visit) ≤ 1 ∧ fetches (callsOf visit) ≤ 1 := by
  refine hrun.invariant_of_visit (I := fun visit last => (∀ c ∈ last, c.Visiting visit) ∧
    connectRequests (callsOf visit) ≤ 1 ∧ fetches (callsOf visit) ≤ 1) hvisits (fun left hleft => ?_) ?_ ?_
  · exact ⟨fun c hc => Controller.visiting_nil ((hleft c hc).trans_ne hvisits.entered), by decide, by decide⟩
  · intro visit before calls control after hpath hstate hknown
    have hnext := (hknown.1 before rfl).tick hpath hstate
    refine ⟨fun c hc => ?_, hnext.once⟩
    cases control with
    | restart => cases hc
    | proceed =>
      obtain rfl := Option.some.inj hc
      exact hnext
  · intro visit before alert now hknown
    have hnext := (hknown.1 before rfl).raise alert now (before.status.value.raiseAlert alert now).value
    refine ⟨fun c hc => ?_, hnext.once⟩
    obtain rfl := Option.some.inj hc
    exact hnext

/-! ## Giving the update up -/

/-- In the last tick of the stay the button is pressed, or the ceiling has been passed since the first one. -/
def GivesUpUpdate (stay : List Event) (calls : List Exchange) : Prop :=
  ⟨.takeButtonFlag, true⟩ ∈ calls ∨ ∃ entered ∈ (uptimes stay).head?, ∃ now ∈ (uptimes stay).getLast?,
    Controller.updateCeilingMs < msBetween entered now

/-- Online, the radio offers no update any more. In between the settings may be fetched. -/
def FindsNoUpdate (calls : List Exchange) : Prop :=
  ∃ first loading rest, calls = first ++ ⟨.isConnected, true⟩ :: loading ++ ⟨.updateOffered, false⟩ :: rest ∧
    ∀ exchange ∈ loading, exchange.call = .loadRemote

namespace Controller

open Step

variable {c after : Controller} {visit : List Event} {trace calls : List Exchange} {control : Control}
  {moment : Moment} {outcome : Outcome}

/-- The state is left for either of these. -/
theorem Updates.givesUp (h : c.Updates moment trace outcome after)
    (hgives : ⟨.takeButtonFlag, true⟩ ∈ trace ∨ updateCeilingMs < msBetween c.update.enteredAt moment.uptimeMs) :
    outcome = .moveTo .idle ∧ after = { c with updateDeferred := true } := by
  have hfree : ∀ {looking rest : List Exchange} {connect : ConnectSession} {progress : ConnectProgress}
      {budget : UInt32}, Path (c.connect.step budget moment.uptimeMs) looking (progress, connect) →
      ⟨.takeButtonFlag, true⟩ ∉ rest → ⟨.takeButtonFlag, true⟩ ∉ ⟨.takeButtonFlag, false⟩ :: looking ++ rest := by
    intro looking rest connect progress budget hlook hrest hmem
    rcases List.mem_append.mp hmem with hmem | hmem
    · rcases List.mem_cons.mp hmem with heq | hmem
      · cases heq
      · cases ConnectSession.calls_step _ _ _ hlook _ hmem
    · exact hrest hmem
  have honline : ∀ {c fetched : Controller} {loading : List Exchange} (offered : Bool), c.Fetches loading fetched →
      ⟨.takeButtonFlag, true⟩ ∉ (⟨.isConnected, true⟩ :: loading ++ [⟨.updateOffered, offered⟩] : List Exchange) := by
    intro c fetched loading offered hfetches hmem
    have hloads : (⟨.takeButtonFlag, true⟩ : Exchange) ∈ loading := by simpa using hmem
    cases hfetches.calls _ hloads
  cases h with
  | pressed => exact ⟨rfl, rfl⟩
  | overdue => exact ⟨rfl, rfl⟩
  | waits hlasts hlook hagain =>
    refine absurd hgives (not_or.mpr ⟨hfree hlook ?_, Nat.not_lt.mpr hlasts⟩)
    rcases hagain with rfl | rfl <;> simp
  | offered hlasts hlook hfetches =>
    refine absurd hgives (not_or.mpr ⟨?_, Nat.not_lt.mpr hlasts⟩)
    rw [List.append_assoc]
    exact hfree hlook (honline true hfetches)
  | finished hlasts hlook hfetches =>
    refine absurd hgives (not_or.mpr ⟨?_, Nat.not_lt.mpr hlasts⟩)
    rw [List.append_assoc]
    exact hfree hlook (honline false hfetches)

/-- A tick of the stay that gives the update up leaves it waiting. -/
theorem Visiting.givesUp (h : c.Visiting visit) (hpath : Path (Controller.tick.run c) calls (control, after))
    (hstate : c.runState = .firmwareUpdate) (hpending : c.status.value.updatePending = true)
    (hgives : GivesUpUpdate (visit ++ [.tick c calls control after]) calls) :
    control = .proceed ∧ after.runState = .idle ∧ after.GaveUpdateUp := by
  obtain ⟨moment, marked, polling, polled, middle, outcome, carried, closing, hpoll, hupdates, hflush, rfl, hcalls⟩ :=
    updates_of_tick hpath hstate
  have hopened : ⟨.takeButtonFlag, true⟩ ∈ middle ∨
      updateCeilingMs < msBetween (c.opened (marked || polled) moment).update.enteredAt moment.uptimeMs := by
    refine hgives.imp (fun hpressed => ?_) fun hover => ?_
    · rw [hcalls, List.cons_append, List.cons_append] at hpressed
      exact mem_of_not_frames hpoll hflush ((List.mem_cons.mp hpressed).resolve_left nofun) rfl
    · obtain ⟨entered, hentered, now, hnow, hover⟩ := hover
      have hmoment : (Event.tick c calls outcome.control after).moment = some moment := by
        rw [hcalls]
        rfl
      rw [uptimes_concat, hmoment] at hentered hnow
      have hfirst := h.head?_uptimes hstate (marked || polled) moment
      obtain rfl := Option.some.inj (hfirst.symm.trans hentered)
      obtain rfl : moment.uptimeMs = now := by simpa using hnow
      exact hover
  obtain ⟨rfl, rfl⟩ := hupdates.givesUp hopened
  obtain ⟨_, _, config, _, _, status, _, hstatus, _, rfl⟩ := flush_cases hflush
  refine ⟨rfl, rfl, rfl, ?_, nofun⟩
  have hvalue := congrArg (·.updatePending) (Persisted.value_of_flush hstatus)
  exact hvalue.trans ((c.updatePending_opened _ _).trans hpending)

/-! ## Taking the mark back -/

/-- Only that takes the mark back. -/
theorem Updates.clears (h : c.Updates moment trace outcome after) (hbefore : c.status.value.updatePending = true)
    (hafter : after.status.value.updatePending = false) : ∃ first loading,
      trace = first ++ ⟨.isConnected, true⟩ :: loading ++ [⟨.updateOffered, false⟩] ∧
        ∀ exchange ∈ loading, exchange.call = .loadRemote := by
  cases h with
  | pressed | overdue | waits => cases hbefore.symm.trans hafter
  | offered _ _ hfetches =>
    cases hfetches with
    | already => cases hbefore.symm.trans hafter
    | now _ hkept => cases hbefore.symm.trans (hkept.symm.trans hafter)
  | finished _ _ hfetches => exact ⟨_, _, rfl, hfetches.calls⟩

/-- A tick takes the mark back only where the radio offers no update in the update state. -/
theorem cleared_of_tick (hpath : Path (Controller.tick.run c) calls (control, after))
    (hbefore : c.status.value.updatePending = true) (hafter : after.status.value.updatePending = false) :
    c.runState = .firmwareUpdate ∧ FindsNoUpdate calls := by
  have hstate : c.runState = .firmwareUpdate := by
    by_contra hother
    cases ((updateDeferred_of_tick hpath hother).2 hbefore).symm.trans hafter
  obtain ⟨moment, marked, polling, polled, middle, outcome, carried, closing, hpoll, hupdates, hflush, _, rfl⟩ :=
    updates_of_tick hpath hstate
  have hfollowed : (carried.following outcome).status = carried.status := by cases outcome <;> rfl
  rw [(updateWaiting_of_flush hflush).2, hfollowed] at hafter
  obtain ⟨first, loading, rfl, hloads⟩ := hupdates.clears ((c.updatePending_opened _ _).trans hbefore) hafter
  refine ⟨hstate, ⟨.readClock, moment⟩ :: ⟨.takeSensorFlag, marked⟩ :: polling ++ first, loading, closing, ?_, hloads⟩
  simp

end Controller

/-- The event takes the mark of a waiting update back. -/
def Event.ClearsUpdate : Event → Prop
  | .tick before calls _ _ => before.runState = .firmwareUpdate ∧ FindsNoUpdate calls
  | .boot _ _ | .raise _ _ => False

/-! ## What is in storage -/

/-- An update is marked as waiting in storage. -/
def Store.updatePending (store : Store) : Bool := (store.found : RuntimeStatus).updatePending

/-- The mark in memory is the one in storage. -/
structure Controller.MarkedIn (c : Controller) (store : Store) : Prop where
  sound : c.Sound store
  mark : c.status.value.updatePending = store.updatePending

/-- Where the records in memory are the stored ones, so is the mark. -/
theorem Controller.Sound.markedIn {c : Controller} {store : Store} (h : c.Sound store) (hsaved : c.Saved) :
    c.MarkedIn store where
  sound := h
  mark := congrArg (·.updatePending) (Persisted.found_of_stored h.statusStored hsaved.status).symm

/-- Every event keeps it so. -/
theorem Event.Leads.markedIn {event : Event} {state next : Option Controller} {store later : Store}
    (h : event.Leads state next) (hmarked : ∀ c ∈ state, c.MarkedIn store)
    (hserves : store.Serves event.calls later) : ∀ c ∈ next, c.MarkedIn later := by
  intro c hc
  cases h with
  | boot hpath =>
    obtain rfl := Option.some.inj hc
    obtain ⟨hsound, hsaved⟩ := sound_of_boot hpath hserves
    exact hsound.markedIn hsaved
  | @tick before after trace control hpath =>
    cases control with
    | restart => cases hc
    | proceed =>
      obtain rfl := Option.some.inj hc
      obtain ⟨hsound, hsaved⟩ := (hmarked before rfl).sound.tick hpath hserves
      exact hsound.markedIn hsaved
  | raise before alert now =>
    obtain rfl := Option.some.inj hc
    obtain ⟨hsound, hmark⟩ := hmarked before rfl
    rw [Store.serves_nil_iff.mp hserves]
    exact ⟨hsound.setStatus (RuntimeStatus.isSane_raiseAlert hsound.status alert now), hmark⟩

/-- So does a run. -/
theorem Run.markedIn {state last : Option Controller} {history : List Event} {store later : Store}
    (hrun : Run state history last) (hmarked : ∀ c ∈ state, c.MarkedIn store)
    (hserves : store.Serves (callsOf history) later) : ∀ c ∈ last, c.MarkedIn later := by
  induction hrun generalizing store with
  | nil => rwa [Store.serves_nil_iff.mp hserves]
  | cons hleads _ ih =>
    obtain ⟨between, hfirst, hrest⟩ := Store.serves_append_iff.mp hserves
    exact ih (hleads.markedIn hmarked hfirst) hrest

/-- In storage, too, the mark is taken back only where the radio offers no update in the update state. -/
theorem Event.Leads.clearsUpdate {event : Event} {state next : Option Controller} {store later : Store}
    (h : event.Leads state next) (hmarked : ∀ c ∈ state, c.MarkedIn store)
    (hserves : store.Serves event.calls later) (hbefore : store.updatePending = true)
    (hafter : later.updatePending = false) : event.ClearsUpdate := by
  cases h with
  | boot hpath =>
    obtain ⟨hsound, hsaved⟩ := sound_of_boot hpath hserves
    have hloaded := congrArg (·.updatePending) (found_of_boot hpath hserves).2
    cases hbefore.symm.trans (hloaded.symm.trans ((hsound.markedIn hsaved).mark.trans hafter))
  | @tick before after trace control hpath =>
    obtain ⟨hsound, hmark⟩ := hmarked before rfl
    obtain ⟨hsound, hsaved⟩ := hsound.tick hpath hserves
    exact Controller.cleared_of_tick hpath (hmark.trans hbefore) ((hsound.markedIn hsaved).mark.trans hafter)
  | raise =>
    rw [Store.serves_nil_iff.mp hserves] at hafter
    cases hbefore.symm.trans hafter

/-- As long as no event takes the mark back, it stays in storage. -/
theorem Run.updatePending_stored {state last : Option Controller} {history : List Event} {store later : Store}
    (hrun : Run state history last) (hmarked : ∀ c ∈ state, c.MarkedIn store)
    (hserves : store.Serves (callsOf history) later) (hkeeps : ∀ event ∈ history, ¬event.ClearsUpdate)
    (hpending : store.updatePending = true) : later.updatePending = true := by
  induction hrun generalizing store with
  | nil => rwa [Store.serves_nil_iff.mp hserves]
  | cons hleads _ ih =>
    obtain ⟨between, hfirst, hrest⟩ := Store.serves_append_iff.mp hserves
    obtain ⟨hevent, hlater⟩ := List.forall_mem_cons.mp hkeeps
    refine ih (hleads.markedIn hmarked hfirst) hrest hlater ?_
    rw [← Bool.not_eq_false]
    exact fun hcleared => hevent (hleads.clearsUpdate hmarked hfirst hpending hcleared)

/-! ## Runs -/

/-- In every run, the device is in the update state only while an update waits that was not given up. -/
theorem Run.updateWaiting {history : List Event} {last : Option Controller} (hrun : Run none history last) :
    ∀ c ∈ last, c.runState = .firmwareUpdate → c.updateWaiting = true := by
  refine hrun.invariant_of_controller (I := fun _ c => c.runState = .firmwareUpdate → c.updateWaiting = true) ?_
    (fun hpath h => Controller.updateWaiting_of_tick hpath h) fun _ _ h => h
  intro earlier trace c hpath hstate
  obtain ⟨_, _, _, _, _, _, _, _, _, rfl⟩ := boot_cases hpath
  cases hstate

/-- Until the next boot an update that was given up stays so. -/
theorem Run.gaveUpdateUp {history : List Event} {last : Option Controller} {c : Controller}
    (hrun : Run (some c) history last) (hboots : ∀ event ∈ history, event.isBoot = false) (h : c.GaveUpdateUp) :
    ∀ before calls control after, .tick before calls control after ∈ history →
      before.GaveUpdateUp ∧ after.GaveUpdateUp := by
  intro before calls control after hmem
  obtain ⟨_, hbefore, hafter⟩ := hrun.within_boot (I := fun c _ => c.GaveUpdateUp) hboots h
    (fun _ _ _ _ _ _ hpath h => h.tick hpath) (fun _ _ _ _ h => ⟨h.deferred, h.pending, h.left⟩)
    before calls control after hmem
  exact ⟨hbefore, hafter⟩

/-- A device that starts while an update waits comes online. -/
theorem Controller.connecting_of_startUp {c after : Controller} {calls : List Exchange} {control : Control}
    (hpath : Path (Controller.tick.run c) calls (control, after)) (hstate : c.runState = .initialization)
    (hpending : c.status.value.updatePending = true) : after.runState = .connecting := by
  obtain ⟨moment, marked, polling, polled, middle, outcome, carried, closing, _, hcarry, hflush, _, _⟩ :=
    tick_parts hpath
  have hstarts : Starts true moment middle outcome := by
    rw [← hpending, ← c.updatePending_opened _ moment]
    exact ensures_startUp moment (work_of_opened hcarry hstate)
  obtain ⟨_, _, _, _, rfl⟩ := hstarts
  rw [runState_of_tick hcarry hflush, Bool.not_true, Bool.and_false]
  rfl

/-- Alerts from outside leave the state and the mark as they are. -/
theorem Run.of_raised {raised : List Event} {c : Controller} {last : Option Controller}
    (hrun : Run (some c) raised last) (hraised : ∀ event ∈ raised, ∃ alert now, event = .raise alert now) :
    ∃ left, last = some left ∧ left.runState = c.runState ∧
      left.status.value.updatePending = c.status.value.updatePending := by
  generalize hstate : some c = state at hrun
  induction hrun generalizing c with
  | nil => exact ⟨c, hstate.symm, rfl, rfl⟩
  | cons hleads _ ih =>
    obtain ⟨⟨alert, now, rfl⟩, hlater⟩ := List.forall_mem_cons.mp hraised
    cases hleads with
    | raise _ _ _ =>
      obtain rfl := Option.some.inj hstate
      obtain ⟨left, hlast, hruns, hmarks⟩ := ih hlater rfl
      exact ⟨left, hlast, hruns, hmarks⟩

/-- What holds of an update that was given up in the last tick of the history, up to the next boot and of its start. -/
structure UpdateGivenUp (history : List Event) (after : Controller) (later rest : List Event) : Prop where
  idle : after.runState = .idle
  /-- The update state is not entered again in the boot. -/
  away : ∀ before calls control after, .tick before calls control after ∈ later →
    before.runState ≠ .firmwareUpdate ∧ after.runState ≠ .firmwareUpdate
  waiting : after.status.value.updatePending = true ∧ ∀ before calls control after,
    .tick before calls control after ∈ later → after.status.value.updatePending = true
  stored : ∀ initial store : Store, initial.Serves (callsOf (history ++ later)) store → store.updatePending = true
  /-- The next boot comes online first. -/
  starts : ∀ (initial store : Store) booting booted raised before calls control after more,
    initial.Serves (callsOf (history ++ later ++ [.boot booting booted])) store →
    rest = .boot booting booted :: raised ++ .tick before calls control after :: more →
    (∀ event ∈ raised, ∃ alert now, event = .raise alert now) → after.runState = .connecting

/-- Firmware updates keep the device only so long. -/
structure UpdatesBounded (history : List Event) : Prop where
  /-- In a stay a connection is asked for once at most, and the remote settings are fetched once at most. -/
  once : ∀ earlier visit later, history = earlier ++ visit ++ later → Visits .firmwareUpdate earlier visit →
    connectRequests (callsOf visit) ≤ 1 ∧ fetches (callsOf visit) ≤ 1
  /-- A tick in which the button is pressed or the ceiling is passed ends the stay for the boot. -/
  givenUp : ∀ earlier visit before calls control after later rest,
    history = earlier ++ (visit ++ [.tick before calls control after]) ++ later ++ rest →
    Visits .firmwareUpdate earlier (visit ++ [.tick before calls control after]) →
    GivesUpUpdate (visit ++ [.tick before calls control after]) calls → (∀ event ∈ later, event.isBoot = false) →
    UpdateGivenUp (earlier ++ (visit ++ [.tick before calls control after])) after later rest
  cleared : ∀ before calls control after, .tick before calls control after ∈ history →
    before.status.value.updatePending = true → after.status.value.updatePending = false →
    (Event.tick before calls control after).ClearsUpdate
  clearedInStore : ∀ earlier event later (initial store next : Store), history = earlier ++ event :: later →
    initial.Serves (callsOf earlier) store → store.Serves event.calls next → store.updatePending = true →
    next.updatePending = false → event.ClearsUpdate

section

variable {earlier visit later rest : List Event} {before after : Controller} {calls : List Exchange}
  {control : Control} {last : Option Controller}

/-- What is known of an update that was given up holds over the rest of the run. -/
theorem Run.updateGivenUp
    (hrun : Run none (earlier ++ (visit ++ [.tick before calls control after]) ++ later ++ rest) last)
    (hvisits : Visits .firmwareUpdate earlier (visit ++ [.tick before calls control after]))
    (hgives : GivesUpUpdate (visit ++ [.tick before calls control after]) calls)
    (hboots : ∀ event ∈ later, event.isBoot = false) :
    UpdateGivenUp (earlier ++ (visit ++ [.tick before calls control after])) after later rest := by
  obtain ⟨between, hboth, hrest⟩ := Run.append_iff.mp hrun
  obtain ⟨left, hfirst, hlater⟩ := Run.append_iff.mp hboth
  obtain ⟨hentered, hstays⟩ := hvisits
  obtain ⟨hbefore, hlast⟩ := List.forall_mem_append.mp hstays
  have hstate : before.runState = .firmwareUpdate := hlast _ (List.mem_singleton_self _)
  have hsplit := hfirst
  rw [← List.append_assoc] at hsplit
  obtain ⟨found, hearlier, hleads⟩ := Run.concat_iff.mp hsplit
  cases hleads with
  | tick hpath =>
    have hpending := (Bool.and_eq_true_iff.mp (hearlier.updateWaiting before rfl hstate)).1
    have hremembers := (hearlier.visiting ⟨hentered, hbefore⟩).1 before rfl
    obtain ⟨rfl, hidle, hgaveUp⟩ := hremembers.givesUp hpath hstate hpending hgives
    have hticks := hlater.gaveUpdateUp hboots hgaveUp
    have hkeeps : ∀ event ∈ later, ¬event.ClearsUpdate := by
      intro event hmem hclears
      cases event with
      | boot => exact hclears
      | raise => exact hclears
      | tick => exact (hticks _ _ _ _ hmem).1.left hclears.1
    have hstored : ∀ initial store : Store, initial.Serves (callsOf (earlier ++ (visit ++
        [.tick before calls .proceed after]) ++ later)) store → store.updatePending = true := by
      intro initial store hserves
      rw [callsOf_append] at hserves
      obtain ⟨middle, hgiven, hserves⟩ := Store.serves_append_iff.mp hserves
      have hmarked := hfirst.markedIn (fun _ hc => by cases hc) hgiven
      exact hlater.updatePending_stored hmarked hserves hkeeps ((hmarked after rfl).mark.symm.trans hgaveUp.pending)
    refine ⟨hidle, fun _ _ _ _ hmem => ?_, ⟨hgaveUp.pending, fun _ _ _ _ hmem => ?_⟩, hstored, ?_⟩
    · exact ⟨(hticks _ _ _ _ hmem).1.left, (hticks _ _ _ _ hmem).2.left⟩
    · exact (hticks _ _ _ _ hmem).2.pending
    · rintro initial store booting booted raised started told ended begun more hserves rfl hraised
      rw [callsOf_append, callsOf_singleton] at hserves
      obtain ⟨middle, hgiven, hboot⟩ := Store.serves_append_iff.mp hserves
      obtain ⟨_, hbooted, hticked⟩ := Run.append_iff.mp hrest
      cases hbooted with
      | cons hleads hraises =>
        cases hleads with
        | boot hloads =>
          obtain ⟨left, rfl, hruns, hmarks⟩ := Run.of_raised hraises hraised
          cases hticked with
          | cons hleads _ =>
            cases hleads with
            | tick hstarts =>
              obtain ⟨_, _, _, _, _, _, _, _, _, rfl⟩ := boot_cases hloads
              have hfound := congrArg (·.updatePending) (found_of_boot hloads hboot).2
              refine Controller.connecting_of_startUp hstarts hruns (hmarks.trans (hfound.trans ?_))
              exact hstored initial middle hgiven

end

/-- In every run, whatever the radio answers. -/
theorem updates_bounded {history : List Event} {last : Option Controller} (hrun : Run none history last) :
    UpdatesBounded history where
  once earlier visit later hhistory hvisits := by
    rw [hhistory] at hrun
    obtain ⟨_, hvisit, _⟩ := Run.append_iff.mp hrun
    exact (hvisit.visiting hvisits).2
  givenUp earlier visit before calls control after later rest hhistory hvisits hgives hboots := by
    rw [hhistory] at hrun
    exact hrun.updateGivenUp hvisits hgives hboots
  cleared before calls control after hmem hbefore hafter := by
    obtain ⟨_, _, hleads⟩ := hrun.leads_of_mem hmem
    cases hleads with
    | tick hpath => exact Controller.cleared_of_tick hpath hbefore hafter
  clearedInStore earlier event later initial store next hhistory hserves hevent hbefore hafter := by
    rw [hhistory] at hrun
    obtain ⟨_, _, hearlier, hleads, _⟩ := hrun.reach
    have hmarked := hearlier.markedIn (fun _ hc => by cases hc) hserves
    exact hleads.clearsUpdate hmarked hevent hbefore hafter

/-- The devices some seconds after noon, online, with a firmware update that never comes. -/
def Devices.offering (secs : Nat) : Devices
  | .updateOffered => true
  | call => Devices.afterNoon secs true call

/-- A device finds that an update is offered. -/
def findsUpdate : List Scene := [.boot (.offering 0), .tick (.offering 1), .tick (.offering 2)]

/-- It waits for it. -/
def waitsForUpdate : List Scene := [.tick (.offering 3), .tick (.offering 600)]

/-- More than twenty minutes later it goes on with its work, and after the next boot it comes online for the update. -/
theorem updates_bounded_ceiling :
    ∃ earlier visit before calls control after later booting booted started told ended begun last,
      Run none (earlier ++ (visit ++ [.tick before calls control after]) ++ later ++
        .boot booting booted :: [.tick started told ended begun]) last ∧
      UpdateGivenUp (earlier ++ (visit ++ [.tick before calls control after])) after later
        (.boot booting booted :: [.tick started told ended begun]) ∧
      later.length = 2 ∧ begun.runState = .connecting := by
  obtain ⟨earlier, hearlier⟩ : ∃ stage, stage = play findsUpdate .blank := ⟨_, rfl⟩
  obtain ⟨visit, hvisit⟩ : ∃ stage, stage = play (waitsForUpdate ++ [.tick (.offering 1204)]) earlier.2 := ⟨_, rfl⟩
  obtain ⟨later, hlater⟩ : ∃ stage, stage = play [.tick (.offering 1205), .tick (.offering 1206)] visit.2 := ⟨_, rfl⟩
  have hfacts : (lastState earlier.1 ≠ some .firmwareUpdate ∧ ∀ event ∈ visit.1, event.CarriesOut .firmwareUpdate) ∧
      (uptimes visit.1).head? = some 3000 ∧ (uptimes visit.1).getLast? = some 1204000 ∧
      (∀ event ∈ later.1, event.isBoot = false) ∧ later.1.length = 2 ∧
      (play waitsForUpdate earlier.2).2.controller.isSome = true := by
    subst hlater hvisit hearlier
    decide +kernel
  obtain ⟨⟨hentered, hstays⟩, hentry, hlast, hboots, hlength, hsome⟩ := hfacts
  obtain ⟨hfirst, hgiven⟩ := run_play findsUpdate .blank
  obtain ⟨hsecond, hkept⟩ := run_play (waitsForUpdate ++ [.tick (.offering 1204)]) earlier.2
  obtain ⟨hthird, hleft⟩ := run_play [.tick (.offering 1205), .tick (.offering 1206)] visit.2
  rw [← hearlier] at hfirst hgiven
  rw [← hvisit] at hsecond hkept
  rw [← hlater] at hthird hleft
  obtain ⟨before, hbefore⟩ := Option.isSome_iff_exists.mp hsome
  obtain ⟨calls, control, after, hticks⟩ : ∃ calls control after,
      visit.1 = (play waitsForUpdate earlier.2).1 ++ [.tick before calls control after] := by
    rw [hvisit, play_concat_tick hbefore]
    exact ⟨_, _, _, rfl⟩
  have hgives : GivesUpUpdate visit.1 calls := .inr ⟨3000, hentry, 1204000, hlast, by decide⟩
  rw [hticks] at hstays hgives hsecond hkept
  obtain ⟨booting, booted, store, hboot, hfound⟩ : ∃ booting booted store, Path Controller.boot booting booted ∧
      later.2.store.Serves booting store :=
    ⟨_, _, _, Controller.boot.path_run (Store.environment (.offering 1300)) later.2.store, Store.serves_run _ _ _⟩
  obtain ⟨told, ended, begun, hstart⟩ : ∃ told ended begun, Path (Controller.tick.run booted) told (ended, begun) :=
    ⟨_, _, _, (Controller.tick.run booted).path_run (Store.environment (.offering 1301)) store⟩
  have hrun := Run.append_iff.mpr ⟨_, Run.append_iff.mpr ⟨_, Run.append_iff.mpr ⟨_, hfirst, hsecond⟩, hthird⟩,
    .cons (.boot hboot) (.cons (.tick hstart) (.nil _))⟩
  have hgivenUp := (updates_bounded hrun).givenUp _ _ _ _ _ _ _ _ rfl ⟨hentered, hstays⟩ hgives hboots
  have hserves : Stage.blank.store.Serves (callsOf (earlier.1 ++ ((play waitsForUpdate earlier.2).1 ++
      [.tick before calls control after]) ++ later.1 ++ [.boot booting booted])) store := by
    rw [callsOf_append, callsOf_append, callsOf_append, callsOf_singleton]
    exact Store.serves_append_iff.mpr ⟨_, Store.serves_append_iff.mpr ⟨_, Store.serves_append_iff.mpr
      ⟨_, hgiven, hkept⟩, hleft⟩, hfound⟩
  exact ⟨_, _, _, _, _, _, _, _, _, _, _, _, _, _, hrun, hgivenUp, hlength,
    hgivenUp.starts _ _ _ _ [] _ _ _ _ [] hserves rfl (List.forall_mem_nil _)⟩

end FieldCounter
