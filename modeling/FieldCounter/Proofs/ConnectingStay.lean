import FieldCounter.Proofs.Connecting
import FieldCounter.Proofs.Script
import FieldCounter.Proofs.Visits

/-!
# Stays in the connecting state

A stay begins with the first tick of the connecting state after one of another state, or after the boot, and lasts
until a tick leads on. What the stay has come to is not in one place: the connect session, the note that the actions
were done and the note of what the connection is for are all set up on entering and read in later ticks. Seen from
outside they amount to one request, one set of actions, and one way out.
-/

namespace FieldCounter

open Program (Path)

/-! ## What the calls say -/

/-- The call asks for a connection. -/
def Call.isConnectRequest : Call → Bool
  | .requestConnect => true
  | _ => false

/-- So many of the calls asked for a connection. -/
def connectRequests (calls : List Exchange) : Nat := calls.countP (·.call.isConnectRequest)

/-- What the exchange says of the connection. -/
def Exchange.connection : Exchange → Option Bool
  | ⟨.isConnected, connected⟩ => some connected
  | _ => none

/-- What the first look at the connection finds. -/
def firstLook (calls : List Exchange) : Option Bool := calls.findSome? Exchange.connection

/-- The calls on behalf of a new connection. -/
def onlineCalls (calls : List Exchange) : List Exchange := calls.filter (·.call.isOnline)

/-- None of the calls is to the radio or on behalf of a new connection. -/
def Apart (calls : List Exchange) : Prop :=
  ∀ exchange ∈ calls, exchange.call.isRadio = false ∧ exchange.call.isOnline = false

section

variable {calls first rest : List Exchange}

/-- Requests are counted part by part. -/
theorem connectRequests_append : connectRequests (first ++ rest) = connectRequests first + connectRequests rest :=
  List.countP_append

/-- The calls on behalf of a new connection are listed part by part. -/
theorem onlineCalls_append : onlineCalls (first ++ rest) = onlineCalls first ++ onlineCalls rest :=
  List.filter_append ..

/-- Calls apart from the radio ask for no connection. -/
theorem Apart.connectRequests_eq (h : Apart calls) : connectRequests calls = 0 := by
  refine List.countP_eq_zero.mpr fun exchange hmem => Bool.eq_false_iff.mp ?_
  have hradio := (h exchange hmem).1
  cases hcall : exchange.call <;> rw [hcall] at hradio <;> first | rfl | cases hradio

/-- Calls apart from a connection are not on its behalf. -/
theorem Apart.onlineCalls_eq (h : Apart calls) : onlineCalls calls = [] :=
  List.filter_eq_nil_iff.mpr fun exchange hmem => Bool.eq_false_iff.mp (h exchange hmem).2

/-- They leave the first look to the calls that follow. -/
theorem Apart.firstLook_append (h : Apart first) (rest : List Exchange) : firstLook (first ++ rest) = firstLook rest := by
  have hnone : first.findSome? Exchange.connection = none := by
    refine List.findSome?_eq_none_iff.mpr fun exchange hmem => ?_
    have hradio := (h exchange hmem).1
    unfold Exchange.connection
    split
    · cases hradio
    · rfl
  rw [firstLook, List.findSome?_append, hnone]
  rfl

/-- Looking at the sensor is apart from the radio. -/
theorem apart_of_isLook (h : ∀ exchange ∈ calls, exchange.call.isLook = true) : Apart calls := by
  intro exchange hmem
  have hlook := h exchange hmem
  cases hcall : exchange.call <;> rw [hcall] at hlook <;> first | exact ⟨rfl, rfl⟩ | cases hlook

end

/-- Writing the records is apart from all that. -/
theorem Controller.apart_flush {c after : Controller} {calls : List Exchange}
    (h : Path (flush.run c) calls ((), after)) : Apart calls := by
  intro exchange hmem
  have hwrite : exchange.call.isWrite = true := by
    obtain ⟨first, _, _, second, _, _, hconfig, hstatus, rfl, _⟩ := flush_cases h
    rcases List.mem_append.mp hmem with hfirst | hsecond
    · exact Persisted.calls_flush _ hconfig exchange hfirst
    · exact Persisted.calls_flush _ hstatus exchange hsecond
  cases hcall : exchange.call <;> rw [hcall] at hwrite <;> first | exact ⟨rfl, rfl⟩ | cases hwrite

/-- So is the opening of a tick. -/
theorem Controller.apart_opening {c : Controller} {polling : List Exchange} {polled : Bool} (moment : Moment)
    (marked : Bool) (h : Path c.sensors.poll polling polled) :
    Apart (⟨.readClock, moment⟩ :: ⟨.takeSensorFlag, marked⟩ :: polling) :=
  List.forall_mem_cons.mpr ⟨⟨rfl, rfl⟩, List.forall_mem_cons.mpr ⟨⟨rfl, rfl⟩,
    apart_of_isLook (SensorManager.calls_poll _ h)⟩⟩

/-- So a tick asks for a connection only as it carries out its state. -/
theorem connectRequests_between {opening closing : List Exchange} (hopening : Apart opening) (hclosing : Apart closing)
    (middle : List Exchange) : connectRequests (opening ++ middle ++ closing) = connectRequests middle := by
  rw [connectRequests_append, connectRequests_append, hopening.connectRequests_eq, hclosing.connectRequests_eq,
    Nat.zero_add, Nat.add_zero]

/-- Switching the radio off asks for no connection. -/
theorem connectRequests_switchOff (connected disconnected off : Bool) :
    connectRequests (switchOff connected disconnected off) = 0 := by
  cases connected <;> cases disconnected <;> cases off <;> rfl

/-- Switching the radio off is not on behalf of a connection. -/
theorem onlineCalls_switchOff (connected disconnected off : Bool) :
    onlineCalls (switchOff connected disconnected off) = [] := by
  cases connected <;> cases disconnected <;> cases off <;> rfl

/-- The actions after a connection ask for none. -/
theorem OnlineAnswers.connectRequests_calls (answers : OnlineAnswers) : connectRequests answers.calls = 0 := by
  obtain ⟨_, _, _, data, _, _, _, _⟩ := answers
  cases data <;> rfl

/-- The actions after a connection are all on its behalf. -/
theorem OnlineAnswers.onlineCalls_calls (answers : OnlineAnswers) : onlineCalls answers.calls = answers.calls := by
  obtain ⟨_, _, _, data, _, _, _, _⟩ := answers
  cases data <;> rfl

/-! ## Stays -/

/-- The uptime at which the event asks for a connection, if it does. -/
def Event.requested (event : Event) : Option UInt64 :=
  if connectRequests event.calls = 0 then none else event.moment.map (·.uptimeMs)

/-- The uptime at which a connection was asked for first. -/
def requestTime (events : List Event) : Option UInt64 := events.findSome? Event.requested

/-- A request in the last event counts if none was made before. -/
theorem requestTime_concat (events : List Event) (event : Event) :
    requestTime (events ++ [event]) = (requestTime events).or event.requested := by
  rw [requestTime, List.findSome?_append]
  simp [requestTime]

/-- What the controller has in memory while a stay goes on: the session of the stay waits since the request, and
nothing else was done in the stay. -/
structure Controller.Awaits (c : Controller) (origin : Option RunState) (stay : List Event) : Prop where
  session : (if c.previous = some .connecting then c.connect else {}) = { requestedAt := requestTime stay }
  fresh : (if c.previous = some .connecting then c.actedOnline else false) = false
  report : (if c.previous = some .connecting then c.connectForReport else decide (c.previous = some .reporting)) =
    decide (origin = some .reporting)
  asked : connectRequests (callsOf stay) = (requestTime stay).toList.length
  offline : onlineCalls (callsOf stay) = []

namespace Controller

variable {c after : Controller} {origin : Option RunState} {stay : List Event}

/-- So it is when the state is entered. -/
theorem awaits_nil (h : c.previous ≠ some .connecting) : c.Awaits c.previous [] where
  session := if_neg h
  fresh := if_neg h
  report := if_neg h
  asked := rfl
  offline := rfl

/-- An alert from outside does not change what a stay awaits. -/
theorem Awaits.raise (h : c.Awaits origin stay) (alert : Alert) (now : UInt32) (status : RuntimeStatus) :
    (c.setStatus status).Awaits origin (stay ++ [.raise alert now]) := by
  have htime : requestTime (stay ++ [.raise alert now]) = requestTime stay := by
    rw [requestTime_concat]
    exact Option.or_none
  have hcalls : callsOf (stay ++ [.raise alert now]) = callsOf stay := by
    rw [callsOf_append, callsOf_singleton]
    exact List.append_nil _
  obtain ⟨hsession, hfresh, hreport, hasked, hoffline⟩ := h
  refine ⟨?_, hfresh, hreport, ?_, ?_⟩
  · rw [htime]
    exact hsession
  · rw [htime, hcalls]
    exact hasked
  · rw [hcalls]
    exact hoffline

/-- So it is after a tick that leaves the session waiting, whether or not it is the one that asked. -/
theorem Awaits.goesOn {event : Event} {requested : UInt64} (h : c.Awaits origin stay)
    (hprevious : after.previous = some .connecting) (hconnect : after.connect = { requestedAt := some requested })
    (hfresh : after.actedOnline = false) (hreport : after.connectForReport = decide (origin = some .reporting))
    (htime : requestTime (stay ++ [event]) = some requested)
    (hasked : connectRequests event.calls = (if requestTime stay = none then 1 else 0))
    (hoffline : onlineCalls event.calls = []) : after.Awaits origin (stay ++ [event]) where
  session := by rw [if_pos hprevious, hconnect, htime]
  fresh := by rw [if_pos hprevious, hfresh]
  report := by rw [if_pos hprevious, hreport]
  asked := by
    rw [callsOf_append, callsOf_singleton, connectRequests_append, h.asked, hasked, htime]
    cases requestTime stay <;> rfl
  offline := by rw [callsOf_append, callsOf_singleton, onlineCalls_append, h.offline, hoffline, List.append_nil]

/-- What a tick of a stay comes to. -/
inductive StayTick (origin : Option RunState) (stay : List Event) (before : Controller) (calls : List Exchange)
    (control : Control) (after : Controller) (moment : Moment) : Prop where
  | goesOn {requested : UInt64} : firstLook calls = some false → after.runState = .connecting →
      requestTime (stay ++ [.tick before calls control after]) = some requested →
      uptimeSecs requested moment.uptimeMs ≤ before.config.value.connectSecs →
      after.Awaits origin (stay ++ [.tick before calls control after]) →
      StayTick origin stay before calls control after moment
  | givesUp {requested : UInt64} (connected disconnected off : Bool) :
      firstLook calls = some false → after.runState = .sleeping →
      requestTime (stay ++ [.tick before calls control after]) = some requested →
      before.config.value.connectSecs < uptimeSecs requested moment.uptimeMs →
      after.status.value.alert = (before.status.value.alert.raise .connectTimeout moment.now).value →
      switchOff connected disconnected off <:+: calls → connectRequests calls = 0 → onlineCalls calls = [] →
      StayTick origin stay before calls control after moment
  | online (answers : OnlineAnswers) :
      firstLook calls = some true → after.runState = .idle ∨ after.runState = .firmwareUpdate →
      connectRequests calls = 0 → onlineCalls calls = answers.calls →
      answers.data.isSome = !decide (origin = some .reporting) →
      StayTick origin stay before calls control after moment

/-- A tick of a stay goes on waiting, gives up or comes online. -/
theorem stayTick_of_tick {calls : List Exchange} {control : Control} (h : Path (tick.run c) calls (control, after))
    (hstate : c.runState = .connecting) (hawaits : c.Awaits origin stay) :
    ∃ moment, (Event.tick c calls control after).moment = some moment ∧
      StayTick origin stay c calls control after moment := by
  have hopened : ∀ detected moment, (c.opened detected moment).connect = { requestedAt := requestTime stay } ∧
      (c.opened detected moment).actedOnline = false ∧
      (c.opened detected moment).connectForReport = decide (origin = some .reporting) := by
    intro detected moment
    obtain ⟨hconnect, hacted, hreport⟩ := c.connect_opened detected moment hstate
    exact ⟨hconnect.trans hawaits.session, hacted.trans hawaits.fresh, hreport.trans hawaits.report⟩
  have hprevious := previous_of_tick h
  obtain ⟨moment, marked, polling, polled, middle, outcome, carried, closing, hpoll, hconnects, hflush, hcalls⟩ :=
    connects_of_tick h hstate (fun detected moment => by rw [(hopened detected moment).1])
      fun detected moment => (hopened detected moment).2.1
  obtain ⟨hsession, hfresh, hreport⟩ := hopened (marked || polled) moment
  have hopening := apart_opening moment marked hpoll
  have hclosing := apart_flush hflush
  have hrequests : connectRequests calls = connectRequests middle := by
    rw [hcalls, connectRequests_between hopening hclosing]
  have honline : onlineCalls calls = onlineCalls middle := by
    rw [hcalls, onlineCalls_append, onlineCalls_append, hopening.onlineCalls_eq, hclosing.onlineCalls_eq,
      List.nil_append, List.append_nil]
  have hlook : firstLook calls = firstLook (middle ++ closing) := by
    rw [hcalls, List.append_assoc, hopening.firstLook_append]
  have hmoment : (Event.tick c calls control after).moment = some moment := by
    rw [hcalls]
    rfl
  refine ⟨moment, hmoment, ?_⟩
  have hkept : ∀ {requested : UInt64}, requestTime stay = some requested →
      requestTime (stay ++ [.tick c calls control after]) = some requested := by
    intro requested hsome
    rw [requestTime_concat, hsome]
    rfl
  obtain ⟨_, _, config, _, _, status, _, hstatus, _, hafter⟩ := flush_cases hflush
  have halert : after.status.value.alert = (carried.following outcome).status.value.alert := by
    rw [hafter]
    exact congrArg (·.alert) (Persisted.value_of_flush hstatus)
  have hstill := c.runState_opened (marked || polled) moment
  have hasked : (c.opened (marked || polled) moment).connect.requestedAt = requestTime stay :=
    congrArg (·.requestedAt) hsession
  have hwaits : ∀ {requested : UInt64}, outcome = .remain →
      carried = { c.opened (marked || polled) moment with connect := { requestedAt := some requested } } →
      requestTime (stay ++ [.tick c calls control after]) = some requested →
      uptimeSecs requested moment.uptimeMs ≤ c.config.value.connectSecs → firstLook calls = some false →
      connectRequests calls = (if requestTime stay = none then 1 else 0) → onlineCalls calls = [] →
      StayTick origin stay c calls control after moment := by
    rintro requested rfl rfl htime hlasts hlook hrequests honline
    have hstays : after.runState = .connecting := (congrArg (·.runState) hafter).trans (hstill.trans hstate)
    have hacted : after.actedOnline = false := (congrArg (·.actedOnline) hafter).trans hfresh
    have htold := (congrArg (·.connectForReport) hafter).trans hreport
    exact .goesOn hlook hstays htime hlasts (hawaits.goesOn (hprevious.trans (congrArg some hstate))
      (congrArg (·.connect) hafter) hacted htold htime hrequests honline)
  cases hconnects with
  | asks hnone =>
    have hnone := hasked.symm.trans hnone
    have htime : requestTime (stay ++ [.tick c calls control after]) = some moment.uptimeMs := by
      rw [requestTime_concat, hnone, Event.requested, Event.calls, hrequests, hmoment]
      rfl
    have hnow : uptimeSecs moment.uptimeMs moment.uptimeMs ≤ c.config.value.connectSecs := by
      simp [uptimeSecs, msBetween]
    exact hwaits rfl rfl htime hnow hlook (hrequests.trans (if_pos hnone).symm) honline
  | waits hsome hlasts =>
    have hsome := hasked.symm.trans hsome
    have hasked : requestTime stay ≠ none := hsome ▸ Option.some_ne_none _
    rw [config_opened] at hlasts
    exact hwaits rfl rfl (hkept hsome) hlasts hlook (hrequests.trans (if_neg hasked).symm) honline
  | @givesUp _ connect connected disconnected off hsome hover =>
    have hsome := hasked.symm.trans hsome
    have htime := hkept hsome
    rw [config_opened] at hover
    refine .givesUp connected disconnected off hlook (congrArg (·.runState) hafter) htime hover ?_ ?_ ?_ ?_
    · refine halert.trans (congrArg (fun slot => (AlertSlot.raise slot .connectTimeout moment.now).value) ?_)
      exact c.alert_opened ..
    · rw [hcalls, List.append_cons]
      exact List.infix_append _ _ _
    · exact hrequests.trans (connectRequests_switchOff connected disconnected off)
    · exact honline.trans (onlineCalls_switchOff connected disconnected off)
  | @online looking _ offered answers next _ hlooking hdata hnext =>
    have happart : Apart looking := apart_of_isLook (SensorManager.calls_isHealthy _ hlooking)
    refine .online answers hlook ?_ ?_ ?_ ?_
    · rw [hafter]
      exact hnext
    · have hfirst : connectRequests (⟨.isConnected, true⟩ :: looking) = 0 := happart.connectRequests_eq
      rw [hrequests, connectRequests_append, connectRequests_append, hfirst, answers.connectRequests_calls]
      rfl
    · have hfirst : onlineCalls (⟨.isConnected, true⟩ :: looking) = [] := happart.onlineCalls_eq
      rw [honline, onlineCalls_append, onlineCalls_append, hfirst, answers.onlineCalls_calls, List.nil_append]
      exact List.append_nil _
    · rw [hdata, hreport]

end Controller

/-! ## Runs -/

/-- As long as the device goes on connecting, it awaits a connection. -/
theorem Run.awaits {earlier stay : List Event} {c : Controller} (hrun : Run none (earlier ++ stay) (some c))
    (hentered : lastState earlier ≠ some .connecting) (hstay : ∀ event ∈ stay, event.CarriesOut .connecting)
    (hstate : c.runState = .connecting) : c.Awaits (lastState earlier) stay := by
  have hvisits : Visits .connecting earlier stay := ⟨hentered, hstay⟩
  refine hrun.invariant_of_visit (I := fun stay last => ∀ c ∈ last, c.runState = .connecting →
    c.Awaits (lastState earlier) stay) hvisits ?_ ?_ ?_ c rfl hstate
  · intro left hleft c hc _
    rw [← hleft c hc] at hentered ⊢
    exact Controller.awaits_nil hentered
  · intro stay before calls control after hpath hbefore hawaits c hc hstate
    cases control with
    | restart => cases hc
    | proceed =>
      obtain rfl := Option.some.inj hc
      obtain ⟨_, _, htick⟩ := Controller.stayTick_of_tick hpath hbefore (hawaits before rfl hbefore)
      cases htick with
      | goesOn _ _ _ _ hnext => exact hnext
      | givesUp _ _ _ _ hsleeping =>
        rw [hstate] at hsleeping
        cases hsleeping
      | online _ _ hleft =>
        rw [hstate] at hleft
        rcases hleft with hleft | hleft <;> cases hleft
  · intro stay before alert now hawaits c hc hstate
    obtain rfl := Option.some.inj hc
    exact (hawaits before rfl hstate).raise alert now _

/-- The uptimes at which the ticks of the history begin. -/
def uptimes (history : List Event) : List UInt64 := history.filterMap fun event => event.moment.map (·.uptimeMs)

/-- A request is made at the uptime of one of the ticks. -/
theorem mem_uptimes_of_requestTime {history : List Event} {requested : UInt64}
    (h : requestTime history = some requested) : requested ∈ uptimes history := by
  obtain ⟨event, hmem, hevent⟩ := List.exists_of_findSome?_eq_some h
  unfold Event.requested at hevent
  split at hevent
  · cases hevent
  · exact List.mem_filterMap.mpr ⟨event, hmem, hevent⟩

/-- Of ticks that are not too far apart, the seconds since the request are told exactly. -/
theorem toNat_uptimeSecs_requested {stay : List Event} {event : Event} {moment : Moment} {requested : UInt64}
    (hshort : (uptimes (stay ++ [event])).Pairwise fun first later => msBetween first later / 1000 ≤ wordMax)
    (hmoment : event.moment = some moment) (htime : requestTime (stay ++ [event]) = some requested) :
    (uptimeSecs requested moment.uptimeMs).toNat = msBetween requested moment.uptimeMs / 1000 := by
  have hsplit : uptimes (stay ++ [event]) = uptimes stay ++ [moment.uptimeMs] := by
    simp [uptimes, hmoment]
  have hmem := mem_uptimes_of_requestTime htime
  rw [hsplit] at hshort hmem
  refine toNat_uptimeSecs ?_
  rcases List.mem_append.mp hmem with hearlier | hnow
  · exact (List.pairwise_append.mp hshort).2.2 requested hearlier moment.uptimeMs (List.mem_singleton_self _)
  · rw [List.mem_singleton.mp hnow]
    simp [msBetween]

/-- What holds of a stay in the connecting state up to and with one of its ticks, by the events since it was entered
from the origin. -/
structure ConnectingStay (origin : Option RunState) (events : List Event) (before : Controller)
    (calls : List Exchange) (after : Controller) (moment : Moment) : Prop where
  /-- A connection is asked for once at most. -/
  asked : connectRequests (callsOf events) ≤ 1
  /-- The stay goes on exactly where there is no connection and the budget has lasted since the request. -/
  goesOn : after.runState = .connecting ↔ firstLook calls = some false ∧ ∃ requested,
    requestTime events = some requested ∧
      msBetween requested moment.uptimeMs / 1000 ≤ before.config.value.connectSecs.toNat
  /-- It leads on exactly where there is a connection. -/
  online : after.runState = .idle ∨ after.runState = .firmwareUpdate ↔ firstLook calls = some true
  /-- By then the actions after a connection were done once, with the figures unless it is to deliver a report. -/
  acted : after.runState = .idle ∨ after.runState = .firmwareUpdate → ∃ answers : OnlineAnswers,
    onlineCalls (callsOf events) = answers.calls ∧ (answers.data.isSome = true ↔ origin ≠ some .reporting)
  /-- Otherwise it ends with the alert and the radio switched off, and none of them was done. -/
  gaveUp : after.runState ≠ .connecting → firstLook calls ≠ some true → after.runState = .sleeping ∧
    after.status.value.alert = (before.status.value.alert.raise .connectTimeout moment.now).value ∧
    (∃ connected disconnected off, switchOff connected disconnected off <:+: calls) ∧
    onlineCalls (callsOf events) = []

/-- Every stay in the connecting state makes one request at most and does one set of the actions after a connection at
most, whatever the radio answers, as long as its ticks are less than 2³² seconds apart. -/
theorem connectingStay {earlier stay : List Event} {before after : Controller} {calls : List Exchange}
    {control : Control} {last : Option Controller}
    (hrun : Run none (earlier ++ (stay ++ [.tick before calls control after])) last)
    (hentered : lastState earlier ≠ some .connecting)
    (hstay : ∀ event ∈ stay ++ [.tick before calls control after], event.CarriesOut .connecting)
    (hshort : (uptimes (stay ++ [.tick before calls control after])).Pairwise fun first later =>
      msBetween first later / 1000 ≤ wordMax) :
    ∃ moment, (Event.tick before calls control after).moment = some moment ∧
      ConnectingStay (lastState earlier) (stay ++ [.tick before calls control after]) before calls after moment := by
  rw [← List.append_assoc] at hrun
  obtain ⟨between, hearlier, hleads⟩ := Run.concat_iff.mp hrun
  obtain ⟨hbefore, htick⟩ := List.forall_mem_append.mp hstay
  have hstate : before.runState = .connecting := htick _ (List.mem_singleton_self _)
  cases hleads with
  | tick hpath =>
    have hawaits := hearlier.awaits hentered hbefore hstate
    obtain ⟨moment, hmoment, hcomes⟩ := Controller.stayTick_of_tick hpath hstate hawaits
    refine ⟨moment, hmoment, ?_⟩
    have hrequests : connectRequests calls = 0 →
        connectRequests (callsOf (stay ++ [.tick before calls control after])) ≤ 1 := by
      intro hnone
      rw [callsOf_append, callsOf_singleton, connectRequests_append, Event.calls, hnone, hawaits.asked]
      cases requestTime stay <;> simp
    have honline : onlineCalls (callsOf (stay ++ [.tick before calls control after])) = onlineCalls calls := by
      rw [callsOf_append, callsOf_singleton, onlineCalls_append, hawaits.offline, Event.calls, List.nil_append]
    cases hcomes with
    | goesOn hlook hgoes htime hlasts hnext =>
      have hsecs := toNat_uptimeSecs_requested hshort hmoment htime
      rw [UInt32.le_iff_toNat_le, hsecs] at hlasts
      refine ⟨?_, iff_of_true hgoes ⟨hlook, _, htime, hlasts⟩, ?_, ?_, fun hends => absurd hgoes hends⟩
      · rw [hnext.asked, htime]
        exact Nat.le_refl 1
      · simp [hgoes, hlook]
      · simp [hgoes]
    | @givesUp requested connected disconnected off hlook hsleeps htime hover halert hoff hnone hquiet =>
      have hsecs := toNat_uptimeSecs_requested hshort hmoment htime
      rw [UInt32.lt_iff_toNat_lt, hsecs] at hover
      refine ⟨hrequests hnone, ?_, ?_, ?_, fun _ _ => ?_⟩
      · refine iff_of_false (by simp [hsleeps]) ?_
        rintro ⟨_, other, hother, hlasts⟩
        obtain rfl := Option.some.inj (htime.symm.trans hother)
        exact absurd hover (Nat.not_lt.mpr hlasts)
      · simp [hsleeps, hlook]
      · simp [hsleeps]
      · exact ⟨hsleeps, halert, ⟨connected, disconnected, off, hoff⟩, honline.trans hquiet⟩
    | online answers hlook hleaves hnone hacted hdata =>
      refine ⟨hrequests hnone, ?_, iff_of_true hleaves hlook, fun _ => ?_, fun _ hoffline => absurd hlook hoffline⟩
      · rcases hleaves with hidle | hupdate
        · simp [hidle, hlook]
        · simp [hupdate, hlook]
      · exact ⟨answers, honline.trans hacted, by simp [hdata]⟩

/-- A device that boots offline, idles and reports. -/
def reportedOffline : List Scene :=
  [.boot (.afterNoon 0 false), .tick (.afterNoon 1 false), .tick (.afterNoon 2 false), .tick (.afterNoon 3 false)]

/-- It asks for a connection and waits for it four minutes. -/
def fourMinutes : List Scene := [.tick (.afterNoon 4 false), .tick (.afterNoon 244 false)]

/-- Then it is online, and delivers the report without the figures. -/
theorem connectingStay_fourMinutes :
    ∃ earlier stay before calls control after last moment,
      Run none (earlier ++ (stay ++ [.tick before calls control after])) last ∧ lastState earlier = some .reporting ∧
      (∀ event ∈ stay ++ [.tick before calls control after], event.CarriesOut .connecting) ∧
      ConnectingStay (some .reporting) (stay ++ [.tick before calls control after]) before calls after moment ∧
      connectRequests (callsOf (stay ++ [.tick before calls control after])) = 1 ∧
      (after.runState = .idle ∨ after.runState = .firmwareUpdate) := by
  have hfirst : lastState (live reportedOffline none).1 = some .reporting ∧
      (live fourMinutes (live reportedOffline none).2).2.isSome = true := by decide +kernel
  obtain ⟨hlast, hsome⟩ := hfirst
  obtain ⟨before, hbefore⟩ := Option.isSome_iff_exists.mp hsome
  let online : List Scene := fourMinutes ++ [.tick (.afterNoon 245 true)]
  have hfacts : (∀ event ∈ (live online (live reportedOffline none).2).1, event.CarriesOut .connecting) ∧
      (uptimes (live online (live reportedOffline none).2).1).Pairwise
        (fun first later => msBetween first later / 1000 ≤ wordMax) ∧
      connectRequests (callsOf (live online (live reportedOffline none).2).1) = 1 := by decide +kernel
  have hlook : ∀ c ∈ (live fourMinutes (live reportedOffline none).2).2,
      firstLook ((Controller.tick.run c).trace (Devices.afterNoon 245 true).environment ()) = some true := by
    decide +kernel
  have hrun := Run.append_iff.mpr ⟨_, run_live reportedOffline none, run_live online (live reportedOffline none).2⟩
  obtain ⟨control, after, hticks⟩ := live_concat_tick hbefore (.afterNoon 245 true)
  rw [hticks] at hfacts hrun
  obtain ⟨hstay, hshort, hasked⟩ := hfacts
  have hentered : lastState (live reportedOffline none).1 ≠ some .connecting := by
    rw [hlast]
    decide
  obtain ⟨moment, _, hholds⟩ := connectingStay hrun hentered hstay hshort
  rw [hlast] at hholds
  exact ⟨_, _, before, _, control, after, _, moment, hrun, hlast, hstay, hholds, hasked,
    hholds.online.mpr (hlook before hbefore)⟩

end FieldCounter
