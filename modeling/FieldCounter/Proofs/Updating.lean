import FieldCounter.Proofs.WaysOnline

/-!
# What waiting for an update comes to

In every tick that it waits for a firmware update, the device looks at the button and at the clock first, and either
of them may end the stay. Otherwise it takes a look at the radio on behalf of the connect session of the stay, and
online it fetches the settings, once, and asks whether the update is still offered. That a tick comes to the state at
all means that an update waits.
-/

namespace FieldCounter

open Program (Path)

/-- So many of the calls fetch the remote settings. -/
def fetches (calls : List Exchange) : Nat := calls.countP (·.call == .loadRemote)

/-- Fetches are counted part by part. -/
theorem fetches_append {first rest : List Exchange} : fetches (first ++ rest) = fetches first + fetches rest :=
  List.countP_append

/-- Calls apart from the radio fetch nothing. -/
theorem Apart.fetches_eq {calls : List Exchange} (h : Apart calls) : fetches calls = 0 := by
  refine List.countP_eq_zero.mpr fun exchange hmem hfetch => ?_
  have honline := (h exchange hmem).2
  rw [eq_of_beq hfetch] at honline
  cases honline

/-- A look at the radio on behalf of a connect session asks for a connection where none was asked for yet. -/
theorem ConnectSession.ensures_step_requests (session : ConnectSession) (budget : UInt32) (uptimeMs : UInt64) :
    (session.step budget uptimeMs).Ensures fun trace result => fetches trace = 0 ∧
      session.requestedAt.toList.length + connectRequests trace = result.2.requestedAt.toList.length := by
  cases hover : session.timedOut with
  | true =>
    exact Program.ensures_ite.mpr
      ⟨fun _ => Program.ensures_pure.mpr ⟨rfl, rfl⟩, fun hwaiting => absurd hover hwaiting⟩
  | false =>
    refine (ensures_step hover).mono fun trace result hlooks => ?_
    generalize result.1 = progress, result.2 = after at hlooks
    cases hlooks with
    | found => exact ⟨rfl, rfl⟩
    | asks hnone => exact ⟨rfl, by rw [hnone]; rfl⟩
    | waits hsome | givesUp hsome => exact ⟨rfl, by rw [hsome]; rfl⟩

namespace Controller

open Step

variable {c after : Controller} {moment : Moment} {trace : List Exchange} {outcome : Outcome} {control : Control}

/-- The remote settings are fetched once in a stay. -/
inductive Fetches (c : Controller) : List Exchange → Controller → Prop where
  | already : c.update.reloaded = true → Fetches c [] c
  | now {answer : Option RemoteConfig} {records : Records} : c.update.reloaded = false →
      records.status.updatePending = c.status.value.updatePending →
      Fetches c [⟨.loadRemote, answer⟩] ({ c with update := { c.update with reloaded := true } }.setRecords records)

/-- To fetch the remote settings is the only call that is made for them. -/
theorem Fetches.calls (h : c.Fetches trace after) : ∀ exchange ∈ trace, exchange.call = .loadRemote := by
  cases h <;> simp

/-- Reloading fetches the remote settings, unless it was done in the stay. -/
theorem ensures_reloadOnce (now : UInt32) :
    (reloadOnce now).Ensures c fun trace _ after => c.Fetches trace after := by
  refine ensures_get_bind.mpr (ensures_ite.mpr ⟨fun hdone => ensures_pure.mpr (.already hdone), fun hfresh => ?_⟩)
  refine ensures_modify_bind.mpr (ensures_discard.mpr (ensures_onRecords.mpr fun trace result hpath => ?_))
  obtain ⟨answer, rfl, _⟩ := Records.ensures_reloadRemote now hpath
  exact .now (Bool.eq_false_iff.mpr hfresh)
    ((Records.kept_updatePending c.status.value.updatePending).reloadRemote rfl now hpath)

/-- What carrying out the update state comes to. -/
inductive Updates (c : Controller) (moment : Moment) : List Exchange → Outcome → Controller → Prop where
  | pressed : Updates c moment [⟨.takeButtonFlag, true⟩] (.moveTo .idle) { c with updateDeferred := true }
  | overdue : updateCeilingMs < msBetween c.update.enteredAt moment.uptimeMs →
      Updates c moment [⟨.takeButtonFlag, false⟩] (.moveTo .idle) { c with updateDeferred := true }
  /-- There is no connection, by the first look or by another one. -/
  | waits {looking again : List Exchange} {connect : ConnectSession} {progress : ConnectProgress} {budget : UInt32} :
      msBetween c.update.enteredAt moment.uptimeMs ≤ updateCeilingMs →
      Path (c.connect.step budget moment.uptimeMs) looking (progress, connect) →
      again = [] ∨ again = [⟨.isConnected, false⟩] →
      Updates c moment (⟨.takeButtonFlag, false⟩ :: looking ++ again) .remain { c with connect }
  | offered {looking loading : List Exchange} {connect : ConnectSession} {progress : ConnectProgress} {budget : UInt32}
      {after : Controller} : msBetween c.update.enteredAt moment.uptimeMs ≤ updateCeilingMs →
      Path (c.connect.step budget moment.uptimeMs) looking (progress, connect) →
      Fetches { c with connect } loading after →
      Updates c moment
        (⟨.takeButtonFlag, false⟩ :: looking ++ ⟨.isConnected, true⟩ :: loading ++ [⟨.updateOffered, true⟩])
        .remain after
  | finished {looking loading : List Exchange} {connect : ConnectSession} {progress : ConnectProgress}
      {budget : UInt32} {after : Controller} : msBetween c.update.enteredAt moment.uptimeMs ≤ updateCeilingMs →
      Path (c.connect.step budget moment.uptimeMs) looking (progress, connect) →
      Fetches { c with connect } loading after →
      Updates c moment
        (⟨.takeButtonFlag, false⟩ :: looking ++ ⟨.isConnected, true⟩ :: loading ++ [⟨.updateOffered, false⟩])
        (.moveTo .idle) (after.setStatus { after.status.value with updatePending := false })

/-- Whatever the devices answer, carrying out the update state goes one of these ways. -/
theorem ensures_updates (moment : Moment) :
    (updating moment).Ensures c fun trace outcome after => Updates c moment trace outcome after := by
  refine ensures_call_bind.mpr fun pressed => ensures_ite.mpr ⟨?_, fun hfree => ensures_get_bind.mpr ?_⟩
  · rintro rfl
    exact ensures_logged_bind.mpr (ensures_modify_bind.mpr (ensures_pure.mpr .pressed))
  obtain rfl : pressed = false := Bool.eq_false_iff.mpr hfree
  refine ensures_ite.mpr ⟨fun hover => ?_, fun hlasts => ?_⟩
  · exact ensures_logged_bind.mpr (ensures_modify_bind.mpr (ensures_pure.mpr (.overdue hover)))
  have hlasts := Nat.not_lt.mp hlasts
  refine ensures_bind.mpr (ensures_get_bind.mpr (ensures_bind.mpr (ensures_lift.mpr fun looking result hlook => ?_)))
  obtain ⟨progress, connect⟩ := result
  refine ensures_modify_bind.mpr (ensures_pure.mpr (ensures_ite.mpr ⟨fun _ => ensures_pure.mpr ?_, fun _ => ?_⟩))
  · have hwaits : Updates c moment (⟨.takeButtonFlag, false⟩ :: looking ++ []) .remain { c with connect } :=
      .waits hlasts hlook (.inl rfl)
    simpa using hwaits
  refine ensures_call_bind.mpr fun online => ensures_ite.mpr ⟨fun hoffline => ensures_pure.mpr ?_, fun honline => ?_⟩
  · obtain rfl : online = false := by simpa using hoffline
    have hwaits : Updates c moment (⟨.takeButtonFlag, false⟩ :: looking ++ [⟨.isConnected, false⟩]) .remain
        { c with connect } := .waits hlasts hlook (.inr rfl)
    simpa using hwaits
  obtain rfl : online = true := by simpa using honline
  refine ensures_bind.mpr ((ensures_reloadOnce moment.now).mono fun loading _ fetched hfetches => ?_)
  refine ensures_call_bind.mpr fun offered => ensures_ite.mpr ⟨?_, fun hnone => ?_⟩
  · rintro rfl
    refine ensures_pure.mpr ?_
    have hoffered := Updates.offered hlasts hlook hfetches
    simpa using hoffered
  · obtain rfl : offered = false := Bool.eq_false_iff.mpr hnone
    refine ensures_logged_bind.mpr (ensures_bind.mpr (ensures_modifyStatus.mpr (ensures_pure.mpr ?_)))
    have hfinished := Updates.finished hlasts hlook hfetches
    simpa [setStatus] using hfinished

/-! ## Sessions of the stay -/

/-- A new stay in the update state begins with a new connect session and at a new uptime. -/
theorem update_entering (hstate : c.runState = .firmwareUpdate) (uptimeMs : UInt64) :
    (c.entering uptimeMs).connect = (if c.previous = some .firmwareUpdate then c.connect else {}) ∧
      (c.entering uptimeMs).update =
        if c.previous = some .firmwareUpdate then c.update else { enteredAt := uptimeMs } := by
  unfold entering prepare
  rw [hstate]
  split
  · exact ⟨rfl, rfl⟩
  · exact ⟨rfl, rfl⟩

/-- The opening of a tick sets a new stay up and leaves one that goes on. -/
theorem update_opened (detected : Bool) (moment : Moment) (hstate : c.runState = .firmwareUpdate) :
    (c.opened detected moment).connect = (if c.previous = some .firmwareUpdate then c.connect else {}) ∧
      (c.opened detected moment).update =
        if c.previous = some .firmwareUpdate then c.update else { enteredAt := moment.uptimeMs } :=
  update_entering (c := c.serviced detected moment) hstate moment.uptimeMs

/-- What the stay has come to after the tick, by what it had come to before. -/
structure UpdateGoesOn (c : Controller) (trace : List Exchange) (after : Controller) : Prop where
  began : after.update.enteredAt = c.update.enteredAt
  asked : c.connect.requestedAt.toList.length + connectRequests trace = after.connect.requestedAt.toList.length
  fetched : c.update.reloaded.toNat + fetches trace = after.update.reloaded.toNat

/-- Fetching the settings is a step on in the stay. -/
theorem Fetches.goesOn (h : c.Fetches trace after) : c.UpdateGoesOn trace after := by
  cases h with
  | already => exact ⟨rfl, rfl, rfl⟩
  | now hfresh => exact ⟨rfl, rfl, by rw [hfresh]; rfl⟩

/-- One look after another. -/
theorem UpdateGoesOn.append {between : Controller} {rest : List Exchange} (h : c.UpdateGoesOn trace between)
    (hrest : between.UpdateGoesOn rest after) : c.UpdateGoesOn (trace ++ rest) after where
  began := hrest.began.trans h.began
  asked := by rw [connectRequests_append, ← Nat.add_assoc, h.asked, hrest.asked]
  fetched := by rw [fetches_append, ← Nat.add_assoc, h.fetched, hrest.fetched]

/-- Other calls make no difference. -/
theorem updateGoesOn_of_quiet (hasked : connectRequests trace = 0) (hfetched : fetches trace = 0) :
    c.UpdateGoesOn trace c := ⟨rfl, by rw [hasked, Nat.add_zero], by rw [hfetched, Nat.add_zero]⟩

/-- So is a look at the radio. -/
theorem updateGoesOn_of_look {connect : ConnectSession} {progress : ConnectProgress} {budget : UInt32}
    (h : Path (c.connect.step budget moment.uptimeMs) trace (progress, connect)) :
    c.UpdateGoesOn trace { c with connect } := by
  obtain ⟨hfetched, hasked⟩ := ConnectSession.ensures_step_requests _ _ _ h
  exact ⟨rfl, hasked, by rw [hfetched, Nat.add_zero]⟩

/-- So is all that the update state does. -/
theorem Updates.goesOn (h : c.Updates moment trace outcome after) : c.UpdateGoesOn trace after := by
  have hquiet : ∀ {c : Controller} (exchange : Exchange), connectRequests [exchange] = 0 → fetches [exchange] = 0 →
      c.UpdateGoesOn [exchange] c := fun _ => updateGoesOn_of_quiet
  have honline : ∀ {c : Controller} {looking loading : List Exchange} {connect : ConnectSession}
      {progress : ConnectProgress} {budget : UInt32} {after : Controller} (offered : Bool),
      Path (c.connect.step budget moment.uptimeMs) looking (progress, connect) →
      Fetches { c with connect } loading after →
      c.UpdateGoesOn (⟨.takeButtonFlag, false⟩ :: looking ++ ⟨.isConnected, true⟩ :: loading ++
        [⟨.updateOffered, offered⟩]) after := by
    intro c looking loading connect progress budget after offered hlook hfetches
    have hlooked := (hquiet ⟨.takeButtonFlag, false⟩ rfl rfl).append (updateGoesOn_of_look hlook)
    have hseen := hlooked.append (hquiet ⟨.isConnected, true⟩ rfl rfl)
    have hall := (hseen.append hfetches.goesOn).append (hquiet ⟨.updateOffered, offered⟩ rfl rfl)
    simpa using hall
  cases h with
  | pressed => exact ⟨rfl, rfl, rfl⟩
  | overdue => exact ⟨rfl, rfl, rfl⟩
  | waits _ hlook hagain =>
    have hlooked := (hquiet ⟨.takeButtonFlag, false⟩ rfl rfl).append (updateGoesOn_of_look hlook)
    refine hlooked.append ?_
    rcases hagain with rfl | rfl
    · exact updateGoesOn_of_quiet rfl rfl
    · exact hquiet _ rfl rfl
  | offered _ hlook hfetches => exact honline true hlook hfetches
  | finished _ hlook hfetches =>
    obtain ⟨hbegan, hasked, hfetched⟩ := honline false hlook hfetches
    exact ⟨hbegan, hasked, hfetched⟩

/-! ## The tick -/

/-- What a tick that begins in the update state comes to. -/
theorem updates_of_tick {calls : List Exchange} (h : Path (tick.run c) calls (control, after))
    (hstate : c.runState = .firmwareUpdate) :
    ∃ moment marked polling polled middle outcome carried closing,
      Path c.sensors.poll polling polled ∧
      Updates (c.opened (marked || polled) moment) moment middle outcome carried ∧
      Path (flush.run (carried.following outcome)) closing ((), after) ∧ control = outcome.control ∧
      calls = ⟨.readClock, moment⟩ :: ⟨.takeSensorFlag, marked⟩ :: polling ++ middle ++ closing := by
  obtain ⟨moment, marked, polling, polled, middle, outcome, carried, closing, hpoll, hcarry, hflush, hcontrol,
    hcalls⟩ := tick_parts h
  have hupdates := ensures_updates moment (work_of_opened hcarry hstate)
  exact ⟨moment, marked, polling, polled, middle, outcome, carried, closing, hpoll, hupdates, hflush, hcontrol, hcalls⟩

/-! ## An update that waits -/

/-- Writing the records changes nothing about it. -/
theorem updateWaiting_of_flush {closing : List Exchange} (h : Path (flush.run c) closing ((), after)) :
    after.updateWaiting = c.updateWaiting ∧ after.status.value.updatePending = c.status.value.updatePending := by
  obtain ⟨_, _, _, _, _, _, _, hstatus, _, rfl⟩ := flush_cases h
  have hvalue := congrArg (·.updatePending) (Persisted.value_of_flush hstatus)
  exact ⟨congrArg (· && !c.updateDeferred) hvalue, hvalue⟩

/-- Online, the device turns to an update where one waits. -/
theorem ensures_online_waiting (moment : Moment) :
    (online moment).Ensures c fun _ outcome after =>
      outcome = .moveTo .firmwareUpdate → after.updateWaiting = true := by
  refine ensures_bind.mpr fun _ _ _ => ensures_call_bind.mpr fun offered => ?_
  extract_lets rest
  have hrest : ∀ c, (rest ()).Ensures c fun _ outcome after =>
      outcome = .moveTo .firmwareUpdate → after.updateWaiting = true := by
    refine fun c => ensures_get_bind.mpr (ensures_pure.mpr fun hmoves => ?_)
    split at hmoves
    next hwaiting => exact hwaiting
    next => cases hmoves
  exact ensures_ite.mpr ⟨fun _ => ensures_bind.mpr fun _ _ _ => hrest _, fun _ => hrest _⟩

/-- Connecting leads to the update state only where an update waits. -/
theorem ensures_connecting_waiting (moment : Moment) :
    (connecting moment).Ensures c fun _ outcome after =>
      outcome = .moveTo .firmwareUpdate → after.updateWaiting = true := by
  refine (ensures_comesOnline moment).mono fun _ _ _ h => ?_
  cases h with
  | waits => exact nofun
  | givesUp => exact nofun
  | online _ _ honline => exact ensures_online_waiting moment honline

/-- A stay in the update state goes on only with what it began with. -/
theorem Updates.waiting (h : c.Updates moment trace outcome after) (hwaiting : c.updateWaiting = true)
    (hstays : outcome = .remain) : after.updateWaiting = true := by
  cases h with
  | pressed => cases hstays
  | overdue => cases hstays
  | finished => cases hstays
  | waits => exact hwaiting
  | offered _ _ hfetches =>
    cases hfetches with
    | already => exact hwaiting
    | now _ hpending => exact (congrArg (· && !c.updateDeferred) hpending).trans hwaiting

/-- The device is in the update state only while an update waits that was not given up. -/
theorem ensures_carryOut_waiting (moment : Moment) (hwaiting : c.runState = .firmwareUpdate → c.updateWaiting = true) :
    (carryOut moment).Ensures c fun _ outcome after =>
      outcome.next c.runState = .firmwareUpdate → after.updateWaiting = true := by
  by_cases hoffline : c.runState.usesConnection = false
  · refine (ensures_turnsTo moment hoffline).mono fun _ _ _ hturns hnext => ?_
    cases hturns with
    | settled hsettled =>
      rw [hnext] at hsettled
      cases hsettled
    | connecting => cases hnext
    | updating _ hafter => exact hafter
  rw [carryOut, ensures_get_bind]
  cases hrun : c.runState with
  | connecting =>
    refine (ensures_connecting_waiting moment).mono fun _ outcome _ hmoves hnext => hmoves ?_
    cases outcome with
    | moveTo next => exact congrArg Outcome.moveTo hnext
    | remain | restart => cases hnext
  | firmwareUpdate =>
    refine (ensures_updates moment).mono fun _ outcome _ hupdates hnext => hupdates.waiting (hwaiting hrun) ?_
    cases hupdates with
    | waits | offered => rfl
    | pressed | overdue | finished => cases hnext
  | initialization | error | idle | sleeping | reporting =>
    rw [hrun] at hoffline
    exact absurd rfl hoffline

/-- A tick that ends in the update state leaves an update waiting. -/
theorem updateWaiting_of_tick (h : Path (tick.run c) trace (control, after))
    (hwaiting : c.runState = .firmwareUpdate → c.updateWaiting = true) (hstate : after.runState = .firmwareUpdate) :
    after.updateWaiting = true := by
  obtain ⟨moment, marked, polling, polled, middle, outcome, carried, closing, _, hcarry, hflush, _, _⟩ := tick_parts h
  have hopened : (c.opened (marked || polled) moment).runState = .firmwareUpdate →
      (c.opened (marked || polled) moment).updateWaiting = true := by
    intro hentered
    rw [runState_opened] at hentered
    have hbefore := hwaiting hentered
    rw [updateWaiting] at hbefore ⊢
    rwa [updatePending_opened, updateDeferred_opened]
  have hfollowed : (carried.following outcome).updateWaiting = carried.updateWaiting := by cases outcome <;> rfl
  rw [(updateWaiting_of_flush hflush).1, hfollowed]
  exact ensures_carryOut_waiting moment hopened hcarry ((runState_of_tick hcarry hflush).symm.trans hstate)

/-! ## An update that was given up -/

/-- Outside the update state it stays given up, and goes on waiting for the next boot. -/
theorem updateDeferred_of_tick (h : Path (tick.run c) trace (control, after)) (hstate : c.runState ≠ .firmwareUpdate) :
    after.updateDeferred = c.updateDeferred ∧
      (c.status.value.updatePending = true → after.status.value.updatePending = true) := by
  obtain ⟨before, closing, ready, heffects, hflush, rfl⟩ := effects_tick h
  have hall : Effects c.runState.ticks c (before ++ closing) after := heffects.append (within_flush rfl rfl hflush)
  have hnever : c.runState.ticks .deferUpdate = false ∧ c.runState.ticks (.markUpdate false) = false := by
    cases hrun : c.runState <;> first | exact ⟨rfl, rfl⟩ | exact absurd hrun hstate
  exact ⟨hall.updateDeferred_eq hnever.1, hall.updatePending_of_true hnever.2⟩

/-- The device gave an update up that still waits, and does not come back to it. -/
structure GaveUpdateUp (c : Controller) : Prop where
  deferred : c.updateDeferred = true
  pending : c.status.value.updatePending = true
  left : c.runState ≠ .firmwareUpdate

/-- A tick does not take up an update that was given up. -/
theorem GaveUpdateUp.tick (h : c.GaveUpdateUp) (hpath : Path (tick.run c) trace (control, after)) :
    after.GaveUpdateUp := by
  obtain ⟨hdeferred, hpending⟩ := updateDeferred_of_tick hpath h.left
  refine ⟨hdeferred.trans h.deferred, hpending h.pending, fun hstate => ?_⟩
  have hwaiting := updateWaiting_of_tick hpath (fun hbefore => absurd hbefore h.left) hstate
  rw [updateWaiting, hdeferred, h.deferred, Bool.not_true, Bool.and_false] at hwaiting
  cases hwaiting

end Controller

end FieldCounter
