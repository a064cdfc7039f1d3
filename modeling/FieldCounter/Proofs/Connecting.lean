import FieldCounter.Proofs.OnlineActions
import FieldCounter.Proofs.Opening

/-!
# What coming online comes to

In every tick that it waits for a connection, the device takes one look at the radio on behalf of the connect session
of its stay. The first look that finds no connection asks for one; the first that finds one leads to the actions that
follow it; and a look that finds none once the budget is used up leads to the radio being switched off.
-/

namespace FieldCounter

open Program (Path)

/-! ## One look -/

namespace ConnectSession

variable {session : ConnectSession} {budget : UInt32} {uptimeMs : UInt64}

/-- What a look at the radio comes to where the session has not given up. -/
inductive Looks (session : ConnectSession) (budget : UInt32) (uptimeMs : UInt64) :
    List Exchange → ConnectProgress → ConnectSession → Prop where
  | found {progress : ConnectProgress} : Controller.Finds progress →
      Looks session budget uptimeMs [⟨.isConnected, true⟩] progress { session with connected := true }
  | asks : session.requestedAt = none →
      Looks session budget uptimeMs [⟨.isConnected, false⟩, ⟨.requestConnect, ()⟩] .pending
        { requestedAt := some uptimeMs }
  | waits {requested : UInt64} : session.requestedAt = some requested → uptimeSecs requested uptimeMs ≤ budget →
      Looks session budget uptimeMs [⟨.isConnected, false⟩] .pending { requestedAt := some requested }
  | givesUp {requested : UInt64} : session.requestedAt = some requested → budget < uptimeSecs requested uptimeMs →
      Looks session budget uptimeMs [⟨.isConnected, false⟩] (.timedOut (uptimeSecs requested uptimeMs))
        { session with connected := false, timedOut := true }

/-- What any step comes to. -/
inductive Advances (session : ConnectSession) (budget : UInt32) (uptimeMs : UInt64) :
    List Exchange → ConnectProgress → ConnectSession → Prop where
  /-- A session that has given up does not look at the radio any more. -/
  | gaveUp : session.timedOut = true →
      Advances session budget uptimeMs [] (.timedOut (session.elapsed uptimeMs)) session
  | stays : session.timedOut = false → session.connected = true →
      Advances session budget uptimeMs [⟨.isConnected, true⟩] .connected session
  | comesUp : session.timedOut = false → session.connected = false →
      Advances session budget uptimeMs [⟨.isConnected, true⟩] (.justConnected (session.elapsed uptimeMs))
        { session with connected := true }
  | asks : session.timedOut = false → session.requestedAt = none →
      Advances session budget uptimeMs [⟨.isConnected, false⟩, ⟨.requestConnect, ()⟩] .pending
        { requestedAt := some uptimeMs }
  | waits {requested : UInt64} : session.timedOut = false → session.requestedAt = some requested →
      uptimeSecs requested uptimeMs ≤ budget →
      Advances session budget uptimeMs [⟨.isConnected, false⟩] .pending { requestedAt := some requested }
  | givesUp {requested : UInt64} : session.timedOut = false → session.requestedAt = some requested →
      budget < uptimeSecs requested uptimeMs →
      Advances session budget uptimeMs [⟨.isConnected, false⟩] (.timedOut (uptimeSecs requested uptimeMs))
        { requestedAt := some requested, timedOut := true }

/-- Whatever the radio answers, a step goes one of these ways. -/
theorem ensures_advances :
    (session.step budget uptimeMs).Ensures fun trace result =>
      Advances session budget uptimeMs trace result.1 result.2 := by
  obtain ⟨requestedAt, connected, timedOut⟩ := session
  refine Program.ensures_ite.mpr ⟨fun hgaveUp => Program.ensures_pure.mpr (.gaveUp hgaveUp), fun hwaiting => ?_⟩
  obtain rfl : timedOut = false := Bool.eq_false_iff.mpr hwaiting
  refine Program.ensures_bind.mpr (Program.ensures_call.mpr fun online => Program.ensures_ite.mpr ⟨?_, ?_⟩)
  · rintro rfl
    cases connected with
    | true => exact Program.ensures_pure.mpr (.stays rfl rfl)
    | false => exact Program.ensures_pure.mpr (.comesUp rfl rfl)
  · intro hoffline
    obtain rfl : online = false := Bool.eq_false_iff.mpr hoffline
    cases requestedAt with
    | none =>
      refine Program.ensures_logged_bind.mpr (Program.ensures_bind.mpr (Program.ensures_call.mpr fun _ => ?_))
      exact Program.ensures_pure.mpr (.asks rfl rfl)
    | some requested =>
      refine Program.ensures_ite.mpr ⟨nofun, fun _ => ?_⟩
      refine Program.ensures_ite.mpr ⟨fun hover => ?_, fun hlasts => Program.ensures_pure.mpr ?_⟩
      · exact Program.ensures_logged_bind.mpr (Program.ensures_pure.mpr (.givesUp rfl rfl hover))
      · exact .waits rfl rfl (UInt32.not_lt.mp hlasts)

/-- A session that was not given up looks at the radio in one of these ways. -/
theorem ensures_step (h : session.timedOut = false) :
    (session.step budget uptimeMs).Ensures fun trace result => Looks session budget uptimeMs trace result.1 result.2 := by
  refine ensures_advances.mono fun trace result hstep => ?_
  generalize result.1 = progress, result.2 = next at hstep
  obtain ⟨requestedAt, connected, timedOut⟩ := session
  obtain rfl : timedOut = false := h
  cases hstep with
  | gaveUp hgaveUp => cases hgaveUp
  | stays _ hconnected =>
    obtain rfl : connected = true := hconnected
    exact .found .connected
  | comesUp => exact .found (.justConnected _)
  | asks _ hnone => exact .asks hnone
  | waits _ hsome hlasts => exact .waits hsome hlasts
  | givesUp _ hsome hover =>
    obtain rfl : requestedAt = some _ := hsome
    exact .givesUp rfl hover

end ConnectSession

/-! ## Switching the radio off -/

/-- The calls that switch the radio off at once, by what it shows: a disconnect is asked for unless it is down, and the
modem is switched off unless it is. -/
def switchOff (connected disconnected off : Bool) : List Exchange :=
  ⟨.isConnected, connected⟩ :: (if connected then [] else [⟨.isDisconnected, disconnected⟩]) ++
    (if connected || !disconnected then [⟨.requestDisconnect, ()⟩] else []) ++
    ⟨.isModemOff, off⟩ :: (if off then [] else [⟨.requestModemOff, ()⟩])

/-- Forcing the radio off switches it off at once. -/
theorem ensures_forceRadioOff :
    forceRadioOff.Ensures fun trace _ => ∃ connected disconnected off, trace = switchOff connected disconnected off := by
  unfold forceRadioOff
  extract_lets rest
  have hrest : (rest ()).Ensures fun trace _ =>
      ∃ off, trace = ⟨.isModemOff, off⟩ :: if off then [] else [⟨.requestModemOff, ()⟩] := by
    refine Program.ensures_bind.mpr (Program.ensures_call.mpr fun off => ?_)
    cases off with
    | true => exact Program.ensures_pure.mpr ⟨true, rfl⟩
    | false => exact Program.ensures_call.mpr fun _ => ⟨false, rfl⟩
  have hup : (call .isConnected <||> (not <$> call .isDisconnected) : Program Bool).Ensures fun trace up =>
      ∃ connected disconnected, up = (connected || !disconnected) ∧
        trace = ⟨.isConnected, connected⟩ :: if connected then [] else [⟨.isDisconnected, disconnected⟩] := by
    refine Program.ensures_or.mpr (Program.ensures_call.mpr fun connected => ?_)
    cases connected with
    | true => exact ⟨true, true, rfl, rfl⟩
    | false => exact Program.ensures_map.mpr (Program.ensures_call.mpr fun disconnected => ⟨false, disconnected, rfl, rfl⟩)
  refine Program.ensures_bind.mpr (hup.mono ?_)
  rintro _ up ⟨connected, disconnected, rfl, rfl⟩
  refine Program.ensures_ite.mpr ⟨fun hup => ?_, fun hdown => ?_⟩
  · refine Program.ensures_bind.mpr (Program.ensures_call.mpr fun _ => hrest.mono ?_)
    rintro _ _ ⟨off, rfl⟩
    refine ⟨connected, disconnected, off, ?_⟩
    rw [switchOff, if_pos hup]
    simp
  · refine hrest.mono ?_
    rintro _ _ ⟨off, rfl⟩
    refine ⟨connected, disconnected, off, ?_⟩
    rw [switchOff, if_neg hdown]
    simp

/-! ## Connecting -/

namespace Controller

open Step

variable {c : Controller} {moment : Moment}

/-- What carrying out the connecting state comes to where the session of the stay has neither given up nor led to the
actions that follow a connection. -/
inductive Connects (c : Controller) (moment : Moment) : List Exchange → Outcome → Controller → Prop where
  | asks : c.connect.requestedAt = none →
      Connects c moment [⟨.isConnected, false⟩, ⟨.requestConnect, ()⟩] .remain
        { c with connect := { requestedAt := some moment.uptimeMs } }
  | waits {requested : UInt64} : c.connect.requestedAt = some requested →
      uptimeSecs requested moment.uptimeMs ≤ c.config.value.connectSecs →
      Connects c moment [⟨.isConnected, false⟩] .remain { c with connect := { requestedAt := some requested } }
  | givesUp {requested : UInt64} {connect : ConnectSession} (connected disconnected off : Bool) :
      c.connect.requestedAt = some requested → c.config.value.connectSecs < uptimeSecs requested moment.uptimeMs →
      Connects c moment (⟨.isConnected, false⟩ :: switchOff connected disconnected off) (.moveTo .sleeping)
        ({ c with connect }.setStatus (c.status.value.raiseAlert .connectTimeout moment.now).value)
  | online {looking : List Exchange} {healthy offered : Bool} {answers : OnlineAnswers} {next : RunState}
      {after : Controller} : Path c.sensors.isHealthy looking healthy →
      answers.data.isSome = !c.connectForReport → next = .idle ∨ next = .firmwareUpdate →
      Connects c moment (⟨.isConnected, true⟩ :: looking ++ answers.calls ++ [⟨.updateOffered, offered⟩])
        (.moveTo next) after

/-- The actions after a connection are carried out where they have not been yet. -/
theorem ensures_afterConnect (moment : Moment) (hfresh : c.actedOnline = false) :
    (afterConnect moment).Ensures c fun trace _ _ => ∃ looking healthy answers,
      Path c.sensors.isHealthy looking healthy ∧ trace = looking ++ OnlineAnswers.calls answers ∧
        answers.data.isSome = !c.connectForReport := by
  refine ensures_get_bind.mpr (ensures_ite.mpr ⟨fun hacted => ?_, fun _ => ?_⟩)
  · rw [hfresh] at hacted
    cases hacted
  refine ensures_bind.mpr (ensures_lift.mpr fun looking healthy hlook => ensures_bind.mpr ?_)
  refine ensures_onRecords.mpr ((ensures_actOnline _ _ _ _).mono ?_)
  rintro _ _ ⟨answers, rfl, hdata, _⟩
  refine ensures_modify_bind.mpr (ensures_get_bind.mpr (ensures_logged_bind.mpr ?_))
  refine ensures_ite.mpr ⟨fun _ => ensures_logged_bind.mpr (ensures_modify.mpr ?_), fun _ => ensures_pure.mpr ?_⟩
  all_goals
    refine ⟨looking, healthy, answers, hlook, ?_, hdata⟩
    rw [List.append_nil]

/-- Online, the actions after a connection are done once, and the device moves on to idling or to an update. -/
theorem ensures_online (moment : Moment) (hfresh : c.actedOnline = false) :
    (online moment).Ensures c fun trace outcome _ => ∃ looking healthy answers offered next,
      Path c.sensors.isHealthy looking healthy ∧
        trace = looking ++ OnlineAnswers.calls answers ++ [⟨.updateOffered, offered⟩] ∧
        answers.data.isSome = (!c.connectForReport) ∧ outcome = .moveTo next ∧ (next = .idle ∨ next = .firmwareUpdate) := by
  refine ensures_bind.mpr ((ensures_afterConnect moment hfresh).mono ?_)
  rintro _ _ between ⟨looking, healthy, answers, hlook, rfl, hdata⟩
  refine ensures_call_bind.mpr fun offered => ?_
  extract_lets rest
  have hrest : ∀ c, (rest ()).Ensures c fun trace outcome _ =>
      trace = [] ∧ ∃ next, outcome = .moveTo next ∧ (next = .idle ∨ next = .firmwareUpdate) := by
    refine fun c => ensures_get_bind.mpr (ensures_pure.mpr ⟨rfl, _, rfl, ?_⟩)
    split
    · exact .inr rfl
    · exact .inl rfl
  refine ensures_ite.mpr ⟨fun _ => ensures_bind.mpr (ensures_modifyStatus.mpr ((hrest _).mono ?_)), fun _ =>
    (hrest _).mono ?_⟩
  all_goals
    rintro _ outcome _ ⟨rfl, next, rfl, hnext⟩
    exact ⟨looking, healthy, answers, offered, next, hlook, by simp, hdata, rfl, hnext⟩

/-- A session that waits goes on in one of these ways. -/
theorem ensures_connects (moment : Moment) (hwaiting : c.connect.timedOut = false) (hfresh : c.actedOnline = false) :
    (connecting moment).Ensures c fun trace outcome after => Connects c moment trace outcome after := by
  refine (ensures_comesOnline moment).mono fun trace outcome after h => ?_
  cases h with
  | waits hlook =>
    cases ConnectSession.ensures_step hwaiting hlook with
    | found hfound => cases hfound
    | asks hnone => exact .asks hnone
    | waits hsome hlasts => exact .waits hsome hlasts
  | givesUp hlook hforce =>
    obtain ⟨connected, disconnected, off, rfl⟩ := ensures_forceRadioOff hforce
    cases ConnectSession.ensures_step hwaiting hlook with
    | found hfound => cases hfound
    | givesUp hsome hover => exact .givesUp connected disconnected off hsome hover
  | @online _ _ connect _ _ _ hlook hfound honline =>
    obtain ⟨looking, healthy, answers, offered, next, hlooked, rfl, hdata, rfl, hnext⟩ :=
      ensures_online (c := { c with connect }) moment hfresh honline
    cases ConnectSession.ensures_step hwaiting hlook with
    | found => exact .online hlooked hdata hnext
    | asks => cases hfound
    | waits => cases hfound
    | givesUp => cases hfound

/-! ## Ticks -/

/-- What a tick that begins in the connecting state comes to. -/
theorem connects_of_tick {after : Controller} {calls : List Exchange} {control : Control}
    (h : Path (tick.run c) calls (control, after)) (hstate : c.runState = .connecting)
    (hwaiting : ∀ detected moment, (c.opened detected moment).connect.timedOut = false)
    (hfresh : ∀ detected moment, (c.opened detected moment).actedOnline = false) :
    ∃ moment marked polling polled middle outcome carried closing,
      Path c.sensors.poll polling polled ∧
      Connects (c.opened (marked || polled) moment) moment middle outcome carried ∧
      Path (flush.run (carried.following outcome)) closing ((), after) ∧
      calls = ⟨.readClock, moment⟩ :: ⟨.takeSensorFlag, marked⟩ :: polling ++ middle ++ closing := by
  obtain ⟨moment, marked, polling, polled, middle, outcome, carried, closing, hpoll, hcarry, hflush, _, hcalls⟩ :=
    tick_parts h
  have hconnects := ensures_connects moment (hwaiting _ _) (hfresh _ _) (work_of_opened hcarry hstate)
  exact ⟨moment, marked, polling, polled, middle, outcome, carried, closing, hpoll, hconnects, hflush, hcalls⟩

end Controller

end FieldCounter
