import FieldCounter.Proofs.ConnectingStay
import FieldCounter.Proofs.ErrorEntry
import FieldCounter.Proofs.InheritedAlert
import FieldCounter.Proofs.StoredBeforeStop

/-!
# From the error state to a reset

Every reset goes one way. The device comes to the error state and takes the radio down, with a new session of its own;
when this has ended, the ladder is consulted, once; and after the pause, in which nothing is asked of the radio any
more, the reset that the ladder had is counted and made.
-/

namespace FieldCounter

open Program (Path Reaches)

/-! ## The teardown -/

/-- The calls to the radio. -/
def radioCalls (calls : List Exchange) : List Exchange := calls.filter (·.call.isRadio)

/-- The calls to the radio are listed part by part. -/
theorem radioCalls_append (first rest : List Exchange) :
    radioCalls (first ++ rest) = radioCalls first ++ radioCalls rest :=
  List.filter_append ..

/-- A reset neither deals with the radio nor follows a connection. -/
theorem Call.apart_of_isReset {call : Call} (h : call.isReset = true) :
    call.isRadio = false ∧ call.isOnline = false := by
  cases call <;> first | exact ⟨rfl, rfl⟩ | cases h

/-- Calls apart from the radio are none to it. -/
theorem Apart.radioCalls_eq {calls : List Exchange} (h : Apart calls) : radioCalls calls = [] :=
  List.filter_eq_nil_iff.mpr fun exchange hmem => Bool.eq_false_iff.mp (h exchange hmem).1

/-- The tick takes one look at the radio for the session, which reports the progress. -/
inductive Event.Looks (session : DisconnectSession) (progress : DisconnectProgress) (next : DisconnectSession) :
    Event → Prop where
  | tick {before after : Controller} {moment : Moment} {calls : List Exchange} {control : Control} :
      (Event.tick before calls control after).moment = some moment →
      Path (session.step before.config.value.cloudDisconnectSecs before.config.value.modemOffSecs moment.uptimeMs)
        (radioCalls calls) (progress, next) →
      Looks session progress next (.tick before calls control after)

/-- The answers of the radio alone decide what is reported. -/
theorem Event.Looks.unique {event : Event} {session next other : DisconnectSession}
    {progress reported : DisconnectProgress} (h : event.Looks session progress next)
    (hother : event.Looks session reported other) : progress = reported ∧ next = other := by
  cases h with
  | tick hmoment hstep =>
    cases hother with
    | tick hsame hagain =>
      obtain rfl := Option.some.inj (hmoment.symm.trans hsame)
      obtain ⟨_, hsame, _⟩ := hstep.unique hagain (rfl : radioCalls _ ++ [] = radioCalls _ ++ [])
      exact Prod.mk.inj hsame

/-- The visit begins with a new disconnect session. Its ticks step it until it reports that it has ended. -/
inductive TearsDown : List Event → DisconnectProgress → DisconnectSession → Prop where
  | start : TearsDown [] .pending {}
  | look {visit : List Event} {event : Event} {session next : DisconnectSession} {progress : DisconnectProgress} :
      TearsDown visit .pending session → event.Looks session progress next → TearsDown (visit ++ [event]) progress next
  | raise {visit : List Event} {session : DisconnectSession} {progress : DisconnectProgress} (alert : Alert)
      (now : UInt32) : TearsDown visit progress session → TearsDown (visit ++ [.raise alert now]) progress session

/-! ## The decision -/

namespace Controller

/-- The disconnect session with which a tick of the error state begins. -/
def rescueSession (c : Controller) : DisconnectSession := if c.previous = some .error then c.disconnect else {}

/-- The decision that stands in a tick of the error state. -/
def standing (c : Controller) : Option (Resolution × UInt64) := if c.previous = some .error then c.decision else none

end Controller

/-- In the error state the tick consults the ladder, on the alert on show and after so many resets, and the resolution
is returned: no decision stands, and the look at the radio does not report that the session goes on. -/
inductive Event.Consults (resets : UInt8) (resolution : Resolution) : Event → Prop where
  | tick {before after : Controller} {moment : Moment} {calls : List Exchange} {control : Control}
      {progress : DisconnectProgress} {session : DisconnectSession} : before.runState = .error →
      before.standing = none → (Event.tick before calls control after).moment = some moment →
      (Event.tick before calls control after).Looks before.rescueSession progress session → progress ≠ .pending →
      (before.recoveryContext moment).resetCount = resets →
      (resolveAlert before.status.value.alert (before.recoveryContext moment)).value.1 = resolution →
      Consults resets resolution (.tick before calls control after)

/-- The ladder is not consulted in the event. -/
def Event.Abides (event : Event) : Prop := ∀ resets resolution, ¬event.Consults resets resolution

section

variable {before after : Controller} {calls : List Exchange} {control : Control}

/-- By then the session has ended. -/
theorem Event.Consults.ended {resets : UInt8} {resolution : Resolution}
    (h : (Event.tick before calls control after).Consults resets resolution) :
    before.standing = none ∧ ∃ progress session,
      (Event.tick before calls control after).Looks before.rescueSession progress session ∧ progress ≠ .pending := by
  cases h with
  | tick _ hnone _ hlook hends => exact ⟨hnone, _, _, hlook, hends⟩

/-- A look that reports that the session goes on is not followed by the ladder. -/
theorem Event.abides_of_looks {session : DisconnectSession}
    (h : (Event.tick before calls control after).Looks before.rescueSession .pending session) :
    (Event.tick before calls control after).Abides := by
  intro resets resolution hconsults
  obtain ⟨_, _, _, hlook, hends⟩ := hconsults.ended
  exact hends (h.unique hlook).1.symm

/-- Nor is it consulted where a decision stands. -/
theorem Event.abides_of_standing {decision : Resolution × UInt64} (h : before.standing = some decision) :
    (Event.tick before calls control after).Abides := by
  intro resets resolution hconsults
  cases h.symm.trans hconsults.ended.1

end

namespace Controller

open Step

variable {c after : Controller} {calls : List Exchange} {control : Control}

/-- What a tick of the error state does for the reset. -/
inductive RecoveryTick (c : Controller) (calls : List Exchange) (control : Control) (after : Controller) : Prop where
  | looks {session : DisconnectSession} : c.standing = none →
      (Event.tick c calls control after).Looks c.rescueSession .pending session → after.decision = none →
      after.disconnect = session → Unreset calls → RecoveryTick c calls control after
  | dismisses : (Event.tick c calls control after).Consults c.config.value.resetCount .noAction →
      after.runState = .idle → Unreset calls → RecoveryTick c calls control after
  | decides {moment : Moment} {resolution : Resolution} :
      (Event.tick c calls control after).Consults c.config.value.resetCount resolution → resolution ≠ .noAction →
      (Event.tick c calls control after).moment = some moment →
      after.decision = some (resolution, moment.uptimeMs) → after.config.value = c.config.value → Unreset calls →
      RecoveryTick c calls control after
  | waits {decision : Resolution × UInt64} : c.standing = some decision → radioCalls calls = [] →
      after.decision = some decision → after.config.value = c.config.value → Unreset calls →
      RecoveryTick c calls control after
  | recovers {moment : Moment} {resolution : Resolution} {decided : UInt64} :
      c.standing = some (resolution, decided) → (Event.tick c calls control after).moment = some moment →
      resetSettleMs ≤ msBetween decided moment.uptimeMs → radioCalls calls = [] →
      (∀ exchange ∈ calls, exchange.call.isReset = true → resolution.call = some exchange.call) →
      (resolution ≠ .noAction → control = .restart) → RecoveryTick c calls control after

/-- Recovering has nothing to do with the radio. -/
theorem Recovers.apart {resolution : Resolution} {trace : List Exchange} {outcome : Outcome}
    (h : c.Recovers resolution trace outcome after) : Apart trace := by
  cases h with
  | idles _ hflush => exact apart_flush hflush
  | resets _ _ hreset hflush =>
    refine List.forall_mem_append.mpr ⟨apart_flush hflush, List.forall_mem_singleton.mpr ?_⟩
    exact Call.apart_of_isReset hreset

section

variable {marked polled : Bool} {moment : Moment} {polling middle closing : List Exchange} {ready : Controller}

/-- Opening and closing a tick have nothing to do with the radio. -/
theorem radioCalls_parts (marked : Bool) (moment : Moment) (hpoll : Path c.sensors.poll polling polled)
    (hflush : Path (flush.run ready) closing ((), after)) :
    radioCalls (⟨.readClock, moment⟩ :: ⟨.takeSensorFlag, marked⟩ :: polling ++ middle ++ closing) =
      radioCalls middle := by
  rw [radioCalls_append, radioCalls_append, (apart_opening moment marked hpoll).radioCalls_eq,
    (apart_flush hflush).radioCalls_eq, List.nil_append, List.append_nil]

/-- Nor does a tick reset the device while it opens or closes. -/
theorem reset_mem_of_parts {exchange : Exchange} (hpoll : Path c.sensors.poll polling polled)
    (hflush : Path (flush.run ready) closing ((), after))
    (hmem : exchange ∈ ⟨.readClock, moment⟩ :: ⟨.takeSensorFlag, marked⟩ :: polling ++ middle ++ closing)
    (hreset : exchange.call.isReset = true) : exchange ∈ middle := by
  rw [List.cons_append, List.cons_append] at hmem
  rcases List.mem_cons.mp hmem with rfl | hmem
  · cases hreset
  · exact mem_of_not_frames hpoll hflush hmem (Call.frames_of_isReset hreset)

/-- In the error state a tick looks at the radio on behalf of the session of the visit. -/
theorem looks_of_teardown {detected : Bool} {progress : DisconnectProgress} {session : DisconnectSession}
    (hstate : c.runState = .error) (hmoment : (Event.tick c calls control after).moment = some moment)
    (hradio : radioCalls calls = radioCalls middle)
    (hstep : Path ((c.opened detected moment).teardown moment) middle (progress, session)) :
    (Event.tick c calls control after).Looks c.rescueSession progress session ∧ Unreset middle := by
  have hsession : _ = c.rescueSession := (c.rescue_opened detected moment hstate).1
  have hcalls : ∀ exchange ∈ middle, exchange.call.isRadio = true := fun exchange hmem =>
    Call.isRadio_of_isTeardown (DisconnectSession.calls_step _ _ _ _ hstep exchange hmem)
  rw [teardown, hsession, config_opened] at hstep
  refine ⟨.tick hmoment ?_, fun exchange hmem => ?_⟩
  · rwa [hradio, radioCalls, List.filter_eq_self.mpr hcalls]
  · exact (Call.not_isReset_of_isPlain (Call.isPlain_of_isRadio (hcalls exchange hmem))).1

/-- It consults the ladder where its look reports that the session has ended. -/
theorem consults_of_opened {detected : Bool} {progress : DisconnectProgress} {session : DisconnectSession}
    {resolution : Resolution} {alert : AlertSlot} (hstate : c.runState = .error)
    (hmoment : (Event.tick c calls control after).moment = some moment)
    (hnone : (c.opened detected moment).decision = none)
    (hlook : (Event.tick c calls control after).Looks c.rescueSession progress session) (hends : progress ≠ .pending)
    (hresolution : (resolveAlert (c.opened detected moment).status.value.alert
      ((c.opened detected moment).recoveryContext moment)).value = (resolution, alert)) :
    (Event.tick c calls control after).Consults c.config.value.resetCount resolution := by
  have hstanding : _ = c.standing := (c.rescue_opened detected moment hstate).2
  rw [alert_opened, recoveryContext, config_opened] at hresolution
  exact .tick hstate (hstanding.symm.trans hnone) hmoment hlook hends rfl (congrArg Prod.fst hresolution)

end

/-- A tick of the error state does one of these. -/
theorem recoveryTick_of_tick (h : Path (tick.run c) calls (control, after)) (hstate : c.runState = .error) :
    RecoveryTick c calls control after := by
  obtain ⟨moment, marked, polling, polled, middle, outcome, carried, closing, hpoll, hattends, hflush, hcontrol,
    hcalls⟩ := attends_of_tick h hstate
  have hstanding : _ = c.standing := (c.rescue_opened (marked || polled) moment hstate).2
  have hconfigs := congrArg (·.value) (c.config_opened (marked || polled) moment)
  have hmoment : (Event.tick c calls control after).moment = some moment := by
    rw [hcalls]
    rfl
  have hradio : radioCalls calls = radioCalls middle := by
    rw [hcalls]
    exact radioCalls_parts marked moment hpoll hflush
  have hresets : ∀ exchange ∈ calls, exchange.call.isReset = true → exchange ∈ middle := by
    rw [hcalls]
    exact fun exchange hmem hreset => reset_mem_of_parts hpoll hflush hmem hreset
  have hcalm : Unreset middle → Unreset calls := by
    refine fun hmiddle exchange hmem => Bool.eq_false_iff.mpr fun hreset => ?_
    cases (hmiddle exchange (hresets exchange hmem hreset)).symm.trans hreset
  -- writing the records changes neither the settings nor what is remembered of the visit
  obtain ⟨_, _, config, _, _, status, hconfig, _, _, rfl⟩ := flush_cases hflush
  have hvalue := Persisted.value_of_flush hconfig
  cases hattends with
  | looks hnone hstep =>
    obtain ⟨hlook, hmiddle⟩ := looks_of_teardown hstate hmoment hradio hstep
    exact .looks (hstanding.symm.trans hnone) hlook hnone rfl (hcalm hmiddle)
  | dismisses hnone hstep hends hresolution =>
    obtain ⟨hlook, hmiddle⟩ := looks_of_teardown hstate hmoment hradio hstep
    exact .dismisses (consults_of_opened hstate hmoment hnone hlook hends hresolution) rfl (hcalm hmiddle)
  | decides hnone hstep hends hresolution hreset =>
    obtain ⟨hlook, hmiddle⟩ := looks_of_teardown hstate hmoment hradio hstep
    exact .decides (consults_of_opened hstate hmoment hnone hlook hends hresolution) hreset hmoment rfl
      (hvalue.trans hconfigs) (hcalm hmiddle)
  | waits hdecision =>
    exact .waits (hstanding.symm.trans hdecision) hradio hdecision (hvalue.trans hconfigs)
      (hcalm fun _ hmem => absurd hmem List.not_mem_nil)
  | recovers hdecision hover hrecover =>
    obtain ⟨hcarries, hrestart⟩ := hrecover.resets_only
    refine .recovers (hstanding.symm.trans hdecision) hmoment hover (hradio.trans hrecover.apart.radioCalls_eq)
      (fun exchange hmem hreset => hcarries exchange (hresets exchange hmem hreset) hreset) fun hne => ?_
    obtain rfl : outcome = .restart := hrestart hne
    exact hcontrol

end Controller

/-- A visit to the error state that looks at the radio, decides and waits. -/
structure Pauses (looking : List Event) (deciding : Event) (waiting : List Event) (resets : UInt8)
    (resolution : Resolution) (decided : UInt64) : Prop where
  /-- At the decision the session of the visit has ended: the radio is down, or it was given up. -/
  ended : ∃ progress session, TearsDown (looking ++ [deciding]) progress session ∧ progress ≠ .pending
  consulted : deciding.Consults resets resolution
  reset : resolution ≠ .noAction
  once : ∀ event ∈ looking ++ waiting, event.Abides
  decidedAt : ∃ moment, deciding.moment = some moment ∧ moment.uptimeMs = decided
  /-- From then on nothing is asked of the radio. -/
  silent : radioCalls (callsOf waiting) = []

/-- One more event in which the radio is left alone and the ladder is not consulted belongs to the pause. -/
theorem Pauses.concat {looking waiting : List Event} {deciding event : Event} {resets : UInt8} {resolution : Resolution}
    {decided : UInt64} (h : Pauses looking deciding waiting resets resolution decided) (habides : event.Abides)
    (hsilent : radioCalls event.calls = []) :
    Pauses looking deciding (waiting ++ [event]) resets resolution decided := by
  refine { h with once := ?_, silent := ?_ }
  · rw [← List.append_assoc]
    exact List.forall_mem_append.mpr ⟨h.once, List.forall_mem_singleton.mpr habides⟩
  · rw [callsOf_append, callsOf_singleton, radioCalls_append, h.silent, hsilent, List.append_nil]

namespace Controller

open Step

variable {c after : Controller} {visit : List Event} {calls : List Exchange} {control : Control}

/-- What the controller remembers of the visit to the error state. -/
inductive Recovering (c : Controller) (visit : List Event) : Prop where
  | looks : c.standing = none → TearsDown visit .pending c.rescueSession → (∀ event ∈ visit, event.Abides) →
      Recovering c visit
  | pauses {looking waiting : List Event} {deciding : Event} {resolution : Resolution} {decided : UInt64} :
      c.standing = some (resolution, decided) → visit = looking ++ deciding :: waiting →
      Pauses looking deciding waiting c.config.value.resetCount resolution decided → Recovering c visit

/-- So it is when the state is entered. -/
theorem recovering_nil (h : c.previous ≠ some .error) : c.Recovering [] := by
  refine .looks (if_neg h) ?_ (List.forall_mem_nil _)
  rw [rescueSession, if_neg h]
  exact .start

/-- An alert from outside does not change what is remembered of the visit. -/
theorem Recovering.raise (h : c.Recovering visit) (alert : Alert) (now : UInt32) (status : RuntimeStatus) :
    (c.setStatus status).Recovering (visit ++ [.raise alert now]) := by
  have habides : (Event.raise alert now).Abides := fun _ _ hconsults => by cases hconsults
  cases h with
  | looks hundecided hteardown hnever =>
    refine .looks hundecided (hteardown.raise alert now) ?_
    exact List.forall_mem_append.mpr ⟨hnever, List.forall_mem_singleton.mpr habides⟩
  | pauses hdecided hvisit hpauses =>
    refine .pauses hdecided ?_ (hpauses.concat habides rfl)
    rw [hvisit, List.append_assoc, List.cons_append]

/-- A tick that does not leave the state carries this on. -/
theorem Recovering.tick (h : c.Recovering visit) (hpath : Path (Controller.tick.run c) calls (.proceed, after))
    (hstate : c.runState = .error) (hstays : after.runState = .error) :
    after.Recovering (visit ++ [.tick c calls .proceed after]) := by
  have hprevious : after.previous = some .error := (previous_of_tick hpath).trans (congrArg some hstate)
  have hstanding : after.standing = after.decision := if_pos hprevious
  have hsession : after.rescueSession = after.disconnect := if_pos hprevious
  have htick := recoveryTick_of_tick hpath hstate
  -- what stands at the tick tells which of the two the visit has come to
  cases htick with
  | @looks session hnone hlook hundecided hdisconnect =>
    cases h with
    | pauses hdecided => cases hnone.symm.trans hdecided
    | looks _ hteardown hnever =>
      refine .looks (hstanding.trans hundecided) ?_ ?_
      · rw [hsession, hdisconnect]
        exact .look hteardown hlook
      · exact List.forall_mem_append.mpr ⟨hnever, List.forall_mem_singleton.mpr (Event.abides_of_looks hlook)⟩
  | dismisses _ hidle => cases hidle.symm.trans hstays
  | @decides moment resolution hconsults hreset hmoment hdecision hconfig =>
    obtain ⟨hnone, _, _, hlook, hends⟩ := hconsults.ended
    cases h with
    | pauses hdecided => cases hnone.symm.trans hdecided
    | looks _ hteardown hnever =>
      have hpauses : Pauses visit (.tick c calls .proceed after) [] c.config.value.resetCount resolution
          moment.uptimeMs := by
        refine ⟨⟨_, _, .look hteardown hlook, hends⟩, hconsults, hreset, ?_, ⟨moment, hmoment, rfl⟩, rfl⟩
        rwa [List.append_nil]
      rw [← hconfig] at hpauses
      exact .pauses (hstanding.trans hdecision) rfl hpauses
  | @waits decision hdecided hsilent hkept hconfig =>
    cases h with
    | looks hnone => cases hnone.symm.trans hdecided
    | pauses hstands hvisit hpauses =>
      cases hdecided.symm.trans hstands
      have habides : (Event.tick c calls .proceed after).Abides := Event.abides_of_standing hdecided
      have hmore := hpauses.concat habides hsilent
      rw [← hconfig] at hmore
      refine .pauses (hstanding.trans hkept) ?_ hmore
      rw [hvisit, List.append_assoc, List.cons_append]
  | recovers hdecided _ _ _ _ hrestart =>
    cases h with
    | looks hnone => cases hnone.symm.trans hdecided
    | pauses hstands _ hpauses =>
      cases hdecided.symm.trans hstands
      cases hrestart hpauses.reset

end Controller

/-! ## Runs -/

/-- As long as the device stays in the error state, the controller remembers the visit. -/
theorem Run.recovering {earlier visit : List Event} {last : Option Controller} (hrun : Run none (earlier ++ visit) last)
    (hvisits : Visits .error earlier visit) : ∀ c ∈ last, c.runState = .error → c.Recovering visit := by
  refine hrun.invariant_of_visit (I := fun visit last => ∀ c ∈ last, c.runState = .error → c.Recovering visit) hvisits
    (fun left hleft c hc _ => Controller.recovering_nil ((hleft c hc).trans_ne hvisits.entered)) ?_ ?_
  · intro visit before calls control after hpath hbefore hremembers c hc hstate
    cases control with
    | restart => cases hc
    | proceed =>
      obtain rfl := Option.some.inj hc
      exact (hremembers before rfl hbefore).tick hpath hbefore hstate
  · intro visit before alert now hremembers c hc hstate
    obtain rfl := Option.some.inj hc
    exact (hremembers before rfl hstate).raise alert now _

/-- The tick makes the reset that was decided on. -/
structure MakesReset (before : Controller) (first : List Exchange) (reset : Exchange) (rest : List Exchange)
    (control : Control) (after : Controller) (resets : UInt8) (resolution : Resolution) (decided : UInt64) : Prop where
  resolved : resolution.call = some reset.call
  settled : ∃ moment, (Event.tick before (first ++ reset :: rest) control after).moment = some moment ∧
    resetSettleMs ≤ msBetween decided moment.uptimeMs
  /-- When it is made, one more reset is counted than at the decision. -/
  counted : ∃ c, Reaches (Controller.tick.run before) first reset.call
      (fun answer => (Controller.resume reset.call answer).run c) ∧
    c.config.value.resetCount.toNat = min (resets.toNat + 1) 255
  abides : (Event.tick before (first ++ reset :: rest) control after).Abides
  silent : radioCalls (first ++ reset :: rest) = []
  restarts : control = .restart

/-- In every run, whatever the devices answer, each reset ends a visit to the error state that took this way. -/
theorem resets_follow_protocol {earlier : List Event} {before after : Controller} {first rest : List Exchange}
    {reset : Exchange} {control : Control} {last : Option Controller}
    (hrun : Run none (earlier ++ [.tick before (first ++ reset :: rest) control after]) last)
    (hreset : reset.call.isReset = true) :
    ∃ prior looking deciding waiting resets resolution decided, earlier = prior ++ (looking ++ deciding :: waiting) ∧
      Visits .error prior (looking ++ deciding :: waiting ++ [.tick before (first ++ reset :: rest) control after]) ∧
      Pauses looking deciding waiting resets resolution decided ∧
      MakesReset before first reset rest control after resets resolution decided := by
  obtain ⟨between, hearlier, hleads⟩ := Run.concat_iff.mp hrun
  cases hleads with
  | tick hpath =>
    have hmem : reset ∈ first ++ reset :: rest := List.mem_append_right first List.mem_cons_self
    have hmade : ¬Unreset (first ++ reset :: rest) := fun hcalm => by cases (hcalm reset hmem).symm.trans hreset
    have hstate : before.runState = .error :=
      Decidable.byContradiction fun hother => hmade (Controller.unreset_of_tick hpath hother).1
    obtain ⟨prior, visit, rfl, hentered, hstays⟩ := exists_visits .error earlier
    have hremembers := hearlier.recovering ⟨hentered, hstays⟩ before rfl hstate
    have htick := Controller.recoveryTick_of_tick hpath hstate
    cases htick with
    | looks _ _ _ _ hcalm => exact absurd hcalm hmade
    | dismisses _ _ hcalm => exact absurd hcalm hmade
    | decides _ _ _ _ _ hcalm => exact absurd hcalm hmade
    | waits _ _ _ _ hcalm => exact absurd hcalm hmade
    | @recovers moment resolution decided hdecided hmoment hover hsilent hcarries hrestart =>
      cases hremembers with
      | looks hnone => cases hnone.symm.trans hdecided
      | @pauses looking waiting deciding _ _ hstands hvisit hpauses =>
        cases hdecided.symm.trans hstands
        subst hvisit
        obtain ⟨left, hreaches⟩ := hpath.reaches
        obtain ⟨c, rfl, hcomes⟩ := Controller.stops_tick hreaches (Call.stops_of_isReset hreset)
        refine ⟨prior, looking, deciding, waiting, _, resolution, decided, rfl, ⟨hentered, ?_⟩, hpauses, ?_⟩
        · exact List.forall_mem_append.mpr ⟨hstays, List.forall_mem_singleton.mpr hstate⟩
        refine ⟨hcarries reset hmem hreset, ⟨moment, hmoment, hover⟩, ⟨c, hreaches, ?_⟩,
          Event.abides_of_standing hdecided, hsilent, hrestart hpauses.reset⟩
        rw [hcomes.counted hreset]
        exact toNat_bumpByte _

/-- A device whose radio does not switch off is reset in this way. -/
theorem resets_follow_protocol_radioStuck :
    ∃ earlier before first reset rest control after last,
      Run none (earlier ++ [.tick before (first ++ reset :: rest) control after]) last ∧ reset.call = .hardPowerCycle ∧
      ∃ prior looking deciding waiting resets resolution decided, earlier = prior ++ (looking ++ deciding :: waiting) ∧
        Visits .error prior (looking ++ deciding :: waiting ++ [.tick before (first ++ reset :: rest) control after]) ∧
        Pauses looking deciding waiting resets resolution decided ∧
        MakesReset before first reset rest control after resets resolution decided := by
  obtain ⟨deciding, before, calls, control, after, last, hrun, hcycle, _⟩ := run_radioStuck
  obtain ⟨reset, hmem, hcall⟩ := List.mem_map.mp hcycle
  obtain ⟨first, rest, rfl⟩ := List.append_of_mem hmem
  have hreset : reset.call.isReset = true := by
    rw [hcall]
    rfl
  exact ⟨_, before, first, reset, rest, control, after, last, hrun, hcall, resets_follow_protocol hrun hreset⟩

end FieldCounter
