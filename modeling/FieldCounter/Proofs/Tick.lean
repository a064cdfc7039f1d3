import FieldCounter.Proofs.Effect

/-!
# The effects of a tick

Which effects each state has, and the proof that a tick has no others: besides those of the state it
carries out, every tick reads the clock, accounts for detections, enters the state, moves on and
writes the records. The states differ most in what they do to the records, so a law about a field of
a record is mostly read off the lists here.
-/

namespace FieldCounter

open Program (Path)

/-- The effects of carrying out a state. -/
def RunState.has : RunState → Effect → Bool
  | .initialization, effect => match effect with
    | .ask .resetReason | .ask .takeButtonFlag | .ask .overrideAsserted | .suppressWebhook
    | .clear .sleepFault | .battery | .powerUp | .raise .sensorFault => true
    | _ => false
  | .error, effect => match effect with
    | .disconnect | .settle | .putOff | .decide | .countReset | .writeConfig | .writeStatus
    | .ask .softReset | .ask .hardPowerCycle => true
    | _ => false
  | .idle, effect => match effect with
    | .ask .takeButtonFlag | .ask .isConnected | .ask .updateOffered | .ask (.isSafeToSleep _)
    | .markUpdate true => true
    | _ => false
  | .sleeping, effect => match effect with
    | .ask .isConnected | .ask (.isSafeToSleep _) | .ask .pendingCount | .ask .readClock
    | .ask (.deepSleep _ _) | .ask (.timedSleep _ _) | .ask .takeButtonFlag | .ask .takeSensorFlag
    | .disconnect | .sense | .plan | .powerUp | .powerDown | .closeSession | .detection
    | .raise .modemFault | .raise .sleepFault | .raise .sensorFault | .clear .modemFault
    | .writeConfig | .writeStatus => true
    | _ => false
  | .connecting, effect => match effect with
    | .connect | .sense | .actOnline | .noteActed | .noteConnected | .ask .updateOffered
    | .markUpdate true | .raise .connectTimeout | .radioOff => true
    | _ => false
  | .reporting, effect => match effect with
    | .credit | .newDay | .battery | .sense | .ask (.enqueue _) | .raise .dataPublishFailed
    | .newPeriod | .reported | .raise .prolongedOffline | .raise .webhookStale
    | .ask .isConnected => true
    | _ => false
  | .firmwareUpdate, effect => match effect with
    | .ask .takeButtonFlag | .ask .isConnected | .ask .updateOffered | .connect | .noteReloaded
    | .reload | .deferUpdate | .markUpdate false => true
    | _ => false

/-- The effects between the look at the clock and the carrying out of the state. -/
def Effect.opens : Effect → Bool
  | .ask .takeSensorFlag | .sense | .service | .enter => true
  | _ => false

/-- The effects of being online. -/
def Effect.isOnline : Effect → Bool
  | .sense | .actOnline | .noteActed | .noteConnected | .ask .updateOffered | .markUpdate true => true
  | _ => false

/-- Being online is part of connecting. -/
theorem Effect.has_of_isOnline {effect : Effect} (h : effect.isOnline = true) :
    RunState.connecting.has effect = true := by
  unfold isOnline at h
  split at h <;> first | rfl | cases h

/-- The effects of a sleep once the radio is wound down: it is planned and carried out, and the device wakes. -/
def Effect.sleeps : Effect → Bool
  | .ask .readClock | .ask (.deepSleep _ _) | .ask (.timedSleep _ _) | .ask .takeButtonFlag
  | .ask .takeSensorFlag | .sense | .plan | .powerUp | .powerDown | .closeSession | .detection
  | .raise .sleepFault | .raise .sensorFault | .writeConfig | .writeStatus => true
  | _ => false

/-- Going to sleep is part of the sleeping state. -/
theorem Effect.has_of_sleeps {effect : Effect} (h : effect.sleeps = true) : RunState.sleeping.has effect = true := by
  unfold sleeps at h
  split at h <;> first | rfl | cases h

/-- The effects of a tick that carries out a state. -/
def RunState.ticks (state : RunState) (effect : Effect) : Bool :=
  match effect with
  | .ask .readClock | .ask .takeSensorFlag | .sense | .service | .enter | .move | .writeConfig
  | .writeStatus => true
  | effect => state.has effect

/-- What a state does while it is carried out, it does in the tick. -/
theorem RunState.ticks_of_has {state : RunState} {effect : Effect} (h : state.has effect = true) :
    state.ticks effect = true := by
  unfold ticks
  split <;> first | rfl | exact h

namespace Controller

open Step

variable {c : Controller} {allowed : Effect → Bool}

/-! ## Steps that several states share -/

/-- Raising an alert is one effect. -/
theorem within_raiseAlert {alert : Alert} {now : UInt32} (h : allowed (.raise alert) = true) :
    Within allowed (raiseAlert alert now) c :=
  ensures_updateStatus.mpr (.single h (.raise c alert now))

/-- Clearing an alert is one effect. -/
theorem within_clearAlert {alert : Alert} (h : allowed (.clear alert) = true) :
    Within allowed (clearAlert alert) c :=
  .get (.bind (ensures_updateStatus.mpr (.single h (.clear c alert))) fun _ _ => .pure _)

/-- Reading the gauge is one effect. -/
theorem within_checkBattery {now : UInt32} (h : allowed .battery = true) :
    Within allowed (checkBattery now) c := by
  refine ensures_bind.mpr (ensures_call.mpr fun reading => ensures_updateStatus.mpr ?_)
  exact .single h (.battery c reading now)

/-- The sensor is brought up, and a failure of it raised. -/
theorem within_ensureSensor {now : UInt32} (hup : allowed .powerUp = true)
    (hraise : allowed (.raise .sensorFault) = true) : Within allowed (ensureSensor now) c := by
  refine .get (.bind ?_ fun ready _ => .ite (.pure _) (.note (within_raiseAlert hraise)))
  exact ensures_onSensors.mpr fun trace result hpath => .single hup (.powerUp hpath)

/-- Powering the sensor down is one effect. -/
theorem within_powerDownSensor (h : allowed .powerDown = true) : Within allowed powerDownSensor c := by
  refine ensures_onSensors.mpr (Program.ensures_map.mpr fun trace sensors hpath => ?_)
  exact .single h (.powerDown hpath)

/-- A flush writes the settings and the status, and does nothing else. -/
theorem within_flush (hconfig : allowed .writeConfig = true) (hstatus : allowed .writeStatus = true) :
    Within allowed flush c := by
  refine .get (.program fun trace ⟨written, config⟩ hpath => Within.putBack hconfig (.writeConfig hpath) ?_)
  extract_lets rest
  have hrest : ∀ c, Within allowed (rest ()) c := by
    intro c
    refine .get (.program fun trace ⟨written, status⟩ hpath => Within.putBack hstatus (.writeStatus hpath) ?_)
    split
    · exact .note (.pure _)
    · exact .pure _
  split
  · exact .note (hrest _)
  · exact hrest _

/-- A flush writes the settings and then the status. -/
theorem flush_cases {after : Controller} {trace : List Exchange} (h : Path (flush.run c) trace ((), after)) :
    ∃ first configWritten config second statusWritten status,
      Path c.config.flush first (configWritten, config) ∧ Path c.status.flush second (statusWritten, status) ∧
        trace = first ++ second ∧ after = { c with config, status } := by
  have hcases : flush.Ensures c fun trace _ after =>
      ∃ first configWritten config second statusWritten status,
        Path c.config.flush first (configWritten, config) ∧ Path c.status.flush second (statusWritten, status) ∧
          trace = first ++ second ∧ after = { c with config, status } := by
    unfold flush
    simp only [Step.ensures_bind, Step.ensures_get, List.nil_append]
    rw [Step.ensures_lift]
    intro first ⟨configWritten, config⟩ hconfig
    cases configWritten
    all_goals
      simp only [Step.ensures_bind, Step.ensures_get, Step.ensures_modify, Step.ensures_logged, List.nil_append]
      rw [Step.ensures_lift]
      intro second ⟨statusWritten, status⟩ hstatus
      cases statusWritten with
      | error error =>
        simp only [Step.ensures_logged, List.append_nil]
        exact ⟨first, _, config, second, _, status, hconfig, hstatus, rfl, rfl⟩
      | ok done =>
        simp only [Step.ensures_pure, List.append_nil]
        exact ⟨first, _, config, second, _, status, hconfig, hstatus, rfl, rfl⟩
  exact hcases h

/-- A step towards a connection is one effect. -/
theorem within_stepConnect {budget : UInt32} {moment : Moment} (h : allowed .connect = true) :
    Within allowed (stepConnect budget moment) c :=
  .get (.program fun _ _ hpath => Within.putBack h (.connect hpath) (.pure _))

/-- A step of the teardown is one effect. -/
theorem within_stepDisconnect {moment : Moment} (h : allowed .disconnect = true) :
    Within allowed (stepDisconnect moment) c :=
  .get (.program fun _ _ hpath => Within.putBack h (.disconnect hpath) (.pure _))

/-! ## Starting, idling and reporting -/

/-- Starting up keeps to the effects of its state. -/
theorem within_startUp (moment : Moment) : Within RunState.initialization.has (startUp moment) c := by
  refine .bind (.ask rfl) fun reason _ => .get (.note ?_)
  extract_lets rest sense clear
  have hrest : ∀ c, Within RunState.initialization.has (rest ()) c := by
    intro c
    refine .bind (.ask rfl) fun pressed _ => .bind (.ask rfl) fun held _ => .get (.ite (.pure _) ?_)
    exact .note (.pure _)
  have hsense : ∀ c, Within RunState.initialization.has (sense ()) c := fun c =>
    .bind (within_checkBattery rfl) fun _ _ =>
      .get (.ite (.bind (within_ensureSensor rfl rfl) fun _ c => hrest c) (hrest _))
  have hclear : ∀ c, Within RunState.initialization.has (clear ()) c := by
    intro c
    refine .ite (.bind (within_clearAlert rfl) fun cleared c => ?_) (hsense c)
    exact .ite (.note (hsense c)) (hsense c)
  exact .ite (.note (.bind (.modify rfl (.suppressWebhook _)) fun _ c => hclear c)) (hclear _)

/-- Looking whether the device may rest keeps to the effects of idling. -/
theorem within_mayRest (moment : Moment) : Within RunState.idle.has (mayRest moment) c :=
  .get (.ite (.pure _) (.bind (.ask rfl) fun _ _ => .bind (.ask rfl) fun _ _ => .pure _))

/-- Idling keeps to its effects. -/
theorem within_idle (moment : Moment) : Within RunState.idle.has (idle moment) c := by
  refine .bind (.ask rfl) fun pressed _ => .ite (.note (.pure _)) (.get ?_)
  split
  · exact .note (.pure _)
  refine .bind (.and (.pure _) fun _ => .and (.ask rfl) fun _ => .ask rfl) fun offered _ => .ite ?_ ?_
  · exact .bind (.modify rfl (.markUpdate _ true)) fun _ _ => .pure _
  refine .ite (.pure _) (.ite (.pure _) ?_)
  refine .bind (.and (.pure _) fun _ => .map (.ask rfl)) fun offline _ => .ite (.note (.pure _)) ?_
  exact .bind (within_mayRest moment) fun rests _ => .ite (.pure _) (.note (.pure _))

/-- The looks at the last connection and the last answer raise two alerts at most. -/
theorem within_checkConnectionHealth {now : UInt32} (hoffline : allowed (.raise .prolongedOffline) = true)
    (hstale : allowed (.raise .webhookStale) = true) : Within allowed (checkConnectionHealth now) c := by
  refine .get ?_
  extract_lets config offline threshold silent rest
  have hrest : ∀ c, Within allowed (rest ()) c := fun c => .ite (.note (within_raiseAlert hstale)) (.pure _)
  exact .ite (.note (.bind (within_raiseAlert hoffline) fun _ c => hrest c)) (hrest _)

/-- Closing the period credits an open session and starts a new day. -/
theorem within_closePeriod {moment : Moment} (hcredit : allowed .credit = true) (hday : allowed .newDay = true) :
    Within allowed (closePeriod moment) c := by
  refine .get (.bind (ensures_modifyStatus.mpr (.single hcredit (.credit _ moment.now))) fun _ _ => ?_)
  extract_lets rest
  have hrest : ∀ c, Within allowed (rest ()) c := fun c =>
    .get (.ite (ensures_updateStatus.mpr (.single hday (.newDay c))) (.pure _))
  exact .ite (.note (hrest _)) (hrest _)

/-- Queueing the report keeps to the effects of reporting. -/
theorem within_queueReport (now : UInt32) : Within RunState.reporting.has (queueReport now) c := by
  refine .get (.bind (.lift rfl fun _ _ => .sample) fun sample _ => .bind (.ask rfl) fun taken _ => ?_)
  exact .ite (.note (.pure _)) (.note (within_raiseAlert rfl))

/-- Deciding where to go after a report has no effect at all. -/
theorem within_afterReportOffline (now : UInt32) : Within allowed (afterReportOffline now) c := by
  refine .get ?_
  split
  · exact .pure _
  · exact .pure _
  · exact .ite (.pure _) (.note (.pure _))

/-- Reporting keeps to its effects. -/
theorem within_reporting (moment : Moment) : Within RunState.reporting.has (reporting moment) c := by
  refine .bind (within_closePeriod rfl rfl) fun _ _ => .bind (within_checkBattery rfl) fun _ _ => ?_
  refine .bind (within_queueReport moment.now) fun _ _ => .bind (.modify rfl (.newPeriod _)) fun _ _ => ?_
  refine .bind (.modify rfl (.reported _ moment.now)) fun _ _ => ?_
  extract_lets rest
  have hrest : ∀ c, Within RunState.reporting.has (rest ()) c := fun c =>
    .bind (.ask rfl) fun online c => .ite (.pure _) (within_afterReportOffline moment.now)
  exact .ite (.bind (within_checkConnectionHealth rfl rfl) fun _ c => hrest c) (hrest _)

/-! ## Connecting and updating -/

/-- What is done once after a connection keeps to the effects of being online. -/
theorem within_afterConnect (moment : Moment) : Within Effect.isOnline (afterConnect moment) c := by
  refine .get (.ite (.pure _) (.bind (.lift rfl fun _ _ => .health) fun healthy _ => ?_))
  refine .bind (ensures_onRecords.mpr fun _ _ hpath => .single rfl (.actOnline hpath)) fun summary _ => ?_
  refine .bind (.modify rfl (.noteActed _)) fun _ _ => .get (.note (.ite (.note ?_) (.pure _)))
  exact .modify rfl (.noteConnected _)

/-- Being online keeps to its effects. -/
theorem within_online (moment : Moment) : Within Effect.isOnline (online moment) c := by
  refine .bind (within_afterConnect moment) fun _ _ => .bind (.ask rfl) fun offered _ => ?_
  extract_lets rest
  have hrest : ∀ c, Within Effect.isOnline (rest ()) c := fun c => .get (.pure _)
  exact .ite (.bind (.modify rfl (.markUpdate _ true)) fun _ c => hrest c) (hrest _)

/-- The look at the radio finds a connection. -/
inductive Finds : ConnectProgress → Prop where
  | connected : Finds .connected
  | justConnected (secs : UInt32) : Finds (.justConnected secs)

/-- What carrying out the connecting state comes to, by one look at the radio on behalf of the connect session. -/
inductive ComesOnline (c : Controller) (moment : Moment) : List Exchange → Outcome → Controller → Prop where
  | waits {looking : List Exchange} {connect : ConnectSession} :
      Path (c.connect.step c.config.value.connectSecs moment.uptimeMs) looking (.pending, connect) →
      ComesOnline c moment looking .remain { c with connect }
  | givesUp {looking forcing : List Exchange} {connect : ConnectSession} {secs : UInt32} :
      Path (c.connect.step c.config.value.connectSecs moment.uptimeMs) looking (.timedOut secs, connect) →
      Path forceRadioOff forcing () →
      ComesOnline c moment (looking ++ forcing) (.moveTo .sleeping)
        ({ c with connect }.setStatus (c.status.value.raiseAlert .connectTimeout moment.now).value)
  | online {looking rest : List Exchange} {connect : ConnectSession} {progress : ConnectProgress} {outcome : Outcome}
      {after : Controller} :
      Path (c.connect.step c.config.value.connectSecs moment.uptimeMs) looking (progress, connect) →
      Finds progress → Path ((online moment).run { c with connect }) rest (outcome, after) →
      ComesOnline c moment (looking ++ rest) outcome after

/-- Connecting waits, gives the radio up, or comes online. -/
theorem ensures_comesOnline (moment : Moment) :
    (connecting moment).Ensures c fun trace outcome after => ComesOnline c moment trace outcome after := by
  refine ensures_get_bind.mpr (ensures_bind.mpr (ensures_get_bind.mpr (ensures_bind.mpr (ensures_lift.mpr ?_))))
  intro looking result hlook
  obtain ⟨progress, connect⟩ := result
  refine ensures_modify_bind.mpr (ensures_pure.mpr ?_)
  rw [List.append_nil]
  cases progress with
  | pending =>
    refine ensures_pure.mpr ?_
    rw [List.append_nil]
    exact .waits hlook
  | connected => exact fun rest result honline => .online hlook .connected honline
  | justConnected secs =>
    exact ensures_logged_bind.mpr fun rest result honline => .online hlook (.justConnected secs) honline
  | timedOut secs =>
    refine ensures_logged_bind.mpr (ensures_bind.mpr (ensures_updateStatus.mpr (ensures_bind.mpr (ensures_lift.mpr ?_))))
    intro forcing _ hforce
    refine ensures_pure.mpr ?_
    rw [List.append_nil]
    exact .givesUp hlook hforce

/-- Connecting keeps to its effects. -/
theorem within_connecting (moment : Moment) : Within RunState.connecting.has (connecting moment) c := by
  refine (ensures_comesOnline moment).mono fun trace outcome after h => ?_
  cases h with
  | waits hlook => exact .single rfl (.connect hlook)
  | givesUp hlook hforce => exact .cons rfl (.connect hlook) (.cons rfl (.raise ..) (.single rfl (.radioOff hforce)))
  | online hlook _ honline =>
    exact .cons rfl (.connect hlook) (Effects.mono (within_online moment honline) fun _ => Effect.has_of_isOnline)

/-- Reloading the settings keeps to the effects of the update state. -/
theorem within_reloadOnce (now : UInt32) : Within RunState.firmwareUpdate.has (reloadOnce now) c := by
  refine .get (.ite (.pure _) (.bind (.modify rfl (.noteReloaded _)) fun _ _ => .discard ?_))
  exact ensures_onRecords.mpr fun _ _ hpath => .single rfl (.reload hpath)

/-- Putting the update off keeps to the effects of the update state. -/
theorem within_deferUpdate : Within RunState.firmwareUpdate.has deferUpdate c :=
  .bind (.modify rfl (.deferUpdate _)) fun _ _ => .pure _

/-- The update state keeps to its effects. -/
theorem within_updating (moment : Moment) : Within RunState.firmwareUpdate.has (updating moment) c := by
  refine .bind (.ask rfl) fun pressed _ => .ite (.note within_deferUpdate) (.get ?_)
  refine .ite (.note within_deferUpdate) (.bind (within_stepConnect rfl) fun progress _ => ?_)
  refine .ite (.pure _) (.bind (.ask rfl) fun online _ => .ite (.pure _) ?_)
  refine .bind (within_reloadOnce moment.now) fun _ _ => .bind (.ask rfl) fun offered _ => ?_
  exact .ite (.pure _) (.note (.bind (.modify rfl (.markUpdate _ false)) fun _ _ => .pure _))

/-! ## Dealing with an alert -/

/-- A reset is counted, the records are written, and the device is reset. -/
theorem within_recover (resolution : Resolution) (hcount : allowed .countReset = true)
    (hconfig : allowed .writeConfig = true) (hstatus : allowed .writeStatus = true)
    (hsoft : allowed (.ask .softReset) = true) (hhard : allowed (.ask .hardPowerCycle) = true) :
    Within allowed (recover resolution) c := by
  refine .bind (.modify hcount (.countReset _)) fun _ _ => .bind (within_flush hconfig hstatus) fun _ _ => ?_
  refine .get (.note ?_)
  split
  · exact .bind (.ask hsoft) fun _ _ => .pure _
  · exact .bind (.ask hhard) fun _ _ => .pure _
  · exact .pure _

/-- The ladder settles the count, puts the next look off and keeps the decision. -/
theorem within_consultLadder (moment : Moment) (hsettle : allowed .settle = true) (hputOff : allowed .putOff = true)
    (hdecide : allowed .decide = true) : Within allowed (consultLadder moment) c := by
  refine .get (.logged (.bind (.modify hsettle (.settle _ moment)) fun _ _ => .ite ?_ ?_))
  · exact .bind (.modify hputOff (.putOff _ _)) fun _ _ => .pure _
  · exact .note (.bind (.modify hdecide (.decide _ _)) fun _ _ => .pure _)

/-- The error state keeps to its effects. -/
theorem within_rescuing (moment : Moment) : Within RunState.error.has (rescuing moment) c := by
  refine .get ?_
  split
  · exact .ite (.pure _) (within_recover _ rfl rfl rfl rfl rfl)
  · exact .bind (within_stepDisconnect rfl) fun _ _ => .ite (.pure _) (within_consultLadder moment rfl rfl rfl)

/-! ## Sleeping and waking -/

/-- A sleep is planned from what is sensed, and from calls that only look. -/
theorem within_sleepInputs (moment : Moment) (hsense : allowed .sense = true) :
    Within allowed (sleepInputs moment) c :=
  .get (.bind (.lift hsense fun _ _ => .interrupt) fun _ _ => .pure _)

/-- A wake takes one of the two marks, and may be a detection. -/
theorem within_accountForWake (cause : WakeCause) (moment : Moment)
    (hbutton : allowed (.ask .takeButtonFlag) = true) (hsensor : allowed (.ask .takeSensorFlag) = true)
    (hdetection : allowed .detection = true) : Within allowed (accountForWake cause moment) c := by
  cases cause with
  | manual => exact .discard (.ask hbutton)
  | sensor =>
    refine .bind (.discard (.ask hsensor)) fun _ _ => .get (.discard ?_)
    exact ensures_onCounting.mpr (.single hdetection (.detection _ moment))
  | timer => exact .pure _

/-- Waking is made up of the same effects wherever they are allowed. -/
theorem within_wakeUp (pins : WakePins) (hclock : allowed (.ask .readClock) = true)
    (hbutton : allowed (.ask .takeButtonFlag) = true) (hsensor : allowed (.ask .takeSensorFlag) = true)
    (hplan : allowed .plan = true) (hup : allowed .powerUp = true) (hraise : allowed (.raise .sensorFault) = true)
    (hdetection : allowed .detection = true) : Within allowed (wakeUp pins) c := by
  refine .bind (.ask hclock) fun moment _ => .get (.note ?_)
  extract_lets rest
  have hrest : ∀ c, Within allowed (rest ()) c := fun c =>
    .bind (within_accountForWake _ moment hbutton hsensor hdetection) fun _ c => .get (.pure _)
  refine .ite (.bind (.modify hplan (.plan id)) fun _ _ => ?_) (hrest _)
  exact .bind (within_ensureSensor hup hraise) fun _ c => hrest c

/-- A timed sleep keeps to the effects of sleeping. -/
theorem within_timedSleep (plan : SleepPlan) : Within Effect.sleeps (timedSleep plan) c := by
  unfold timedSleep
  extract_lets rest
  have hrest : ∀ c, Within Effect.sleeps (rest ()) c := fun c =>
    .bind (within_flush rfl rfl) fun _ _ => .note (.bind (.ask rfl) fun pins _ =>
      within_wakeUp pins rfl rfl rfl rfl rfl rfl rfl)
  exact .ite (.bind (within_powerDownSensor rfl) fun _ c => hrest c) (hrest _)

/-- What follows a deep sleep that came back keeps to the effects of sleeping. -/
theorem within_afterFailedDeepSleep : Within Effect.sleeps afterFailedDeepSleep c := by
  refine .bind (.ask rfl) fun moment _ => .bind (within_raiseAlert rfl) fun _ _ => .get (.logged ?_)
  refine .bind (.modify rfl (.plan nofun)) fun _ _ => .bind (within_sleepInputs moment rfl) fun inputs _ => ?_
  exact .logged (within_timedSleep _)

/-- A deep sleep, with the write before it, keeps to the effects of sleeping. -/
theorem within_deepSleep (plan : SleepPlan) (now : UInt32) :
    Within Effect.sleeps (deepSleep plan now) c := by
  refine .bind (within_powerDownSensor rfl) fun _ _ => .bind (.discard ?_) fun _ _ => ?_
  · exact ensures_onCounting.mpr (.single rfl (.closeSession _ now))
  refine .bind (within_flush rfl rfl) fun _ _ => .note (.bind (.ask rfl) fun outcome _ => ?_)
  cases outcome with
  | restarting => exact .pure _
  | resumed => exact within_afterFailedDeepSleep

/-- Planning the sleep and taking it keeps to the effects of sleeping. -/
theorem within_sleepNow (moment : Moment) : Within Effect.sleeps (sleepNow moment) c := by
  refine .bind (within_sleepInputs moment rfl) fun inputs _ => .get (.logged ?_)
  refine .bind (.modify rfl (.plan fun h => SleepPlanner.isDeepAvailable_plan _ _ ▸ h)) fun _ _ => ?_
  split
  · exact within_deepSleep _ _
  · exact within_timedSleep _

/-- The sleeping state keeps to its effects. -/
theorem within_sleeping (moment : Moment) : Within RunState.sleeping.has (sleeping moment) c := by
  refine .get (.ite (.note (.pure _)) (.bind ?_ fun busy _ => .ite ?_ ?_))
  · exact .and (.ask rfl) fun _ => .map (.ask rfl)
  · exact .bind (.ask rfl) fun pending _ => .note (.pure _)
  refine .bind (within_stepDisconnect rfl) fun progress _ => ?_
  split
  · exact .pure _
  · refine .ite (.note (.bind (within_raiseAlert rfl) fun _ _ => .pure _)) (.note ?_)
    exact (within_sleepNow moment).mono fun _ => Effect.has_of_sleeps
  · have hsleeps : ∀ c, Within RunState.sleeping.has (sleepNow moment) c :=
      fun c => (within_sleepNow moment).mono fun _ => Effect.has_of_sleeps
    exact .bind (within_clearAlert rfl) fun cleared _ => .ite (.note (hsleeps _)) (hsleeps _)

/-! ## The tick -/

/-- Every state keeps to the effects of its list. -/
theorem within_carryOut (moment : Moment) : Within c.runState.has (carryOut moment) c := by
  refine .get ?_
  cases hstate : c.runState with
  | initialization => exact within_startUp moment
  | error => exact within_rescuing moment
  | idle => exact within_idle moment
  | sleeping => exact within_sleeping moment
  | connecting => exact within_connecting moment
  | reporting => exact within_reporting moment
  | firmwareUpdate => exact within_updating moment

/-- What is carried out in the state. -/
def work (moment : Moment) : RunState → Step Outcome
  | .initialization => startUp moment
  | .error => rescuing moment
  | .idle => idle moment
  | .sleeping => sleeping moment
  | .connecting => connecting moment
  | .reporting => reporting moment
  | .firmwareUpdate => updating moment

/-- Which state the controller is in decides what is carried out. -/
theorem work_of_carryOut {state : RunState} {moment : Moment} {trace : List Exchange} {result : Outcome × Controller}
    (h : Path ((carryOut moment).run c) trace result) (hstate : c.runState = state) :
    Path ((work moment state).run c) trace result := by
  have hwork : (carryOut moment).Ensures c fun trace outcome after =>
      Path ((work moment state).run c) trace (outcome, after) := by
    rw [carryOut, ensures_get_bind, hstate]
    cases state <;> exact fun _ _ hpath => hpath
  exact hwork h

/-- Accounting for detections is part of the opening of a tick. -/
theorem within_serviceCounting (moment : Moment) : Within Effect.opens (serviceCounting moment) c := by
  refine .bind (.ask rfl) fun marked _ => .get (.bind (.lift rfl fun _ _ => .poll) fun polled _ => ?_)
  exact .get (.discard (ensures_onCounting.mpr (.single rfl (.service _ (marked || polled) moment))))

/-- Entering the state is part of the opening of a tick. -/
theorem within_enterState (moment : Moment) : Within Effect.opens (enterState moment) c := by
  refine .get (ensures_ite.mpr ⟨fun _ => Within.pure _, fun hnew => ?_⟩)
  extract_lets prepared rest
  have hrest : Within Effect.opens (rest ()) c :=
    ensures_set.mpr (.single rfl (.enter moment.uptimeMs hnew))
  split
  · exact Within.note hrest
  · exact Within.note hrest

end Controller

/-- What is to be done after a tick in which a state came to the outcome. -/
def Outcome.control : Outcome → Control
  | .restart => .restart
  | .remain | .moveTo _ => .proceed

namespace Controller

open Step

/-- The controller once it has followed the outcome. -/
def following (c : Controller) : Outcome → Controller
  | .moveTo next => { c with runState := next }
  | .remain | .restart => c

/-- Following a decision makes no call, and moves the controller where it says. -/
theorem ensures_follow {c : Controller} {outcome : Outcome} {P : List Exchange → Control → Controller → Prop} :
    (follow outcome).Ensures c P ↔ P [] outcome.control (c.following outcome) := by
  cases outcome with
  | remain => exact ensures_pure
  | moveTo next =>
    refine ensures_bind.trans (ensures_modify.trans ?_)
    exact ensures_pure
  | restart => exact ensures_pure

/-- A tick reads the clock, opens, carries out its state, follows the outcome and writes the records. -/
theorem tick_cases {c after : Controller} {trace : List Exchange} {control : Control}
    (h : Path (tick.run c) trace (control, after)) :
    ∃ moment opening entered middle outcome carried closing,
      Effects Effect.opens c opening entered ∧
      Path ((carryOut moment).run entered) middle (outcome, carried) ∧
      Path (flush.run (carried.following outcome)) closing ((), after) ∧
      control = outcome.control ∧ trace = ⟨.readClock, moment⟩ :: opening ++ middle ++ closing := by
  have hcases : tick.Ensures c fun trace control after =>
      ∃ moment opening entered middle outcome carried closing,
        Effects Effect.opens c opening entered ∧
        Path ((carryOut moment).run entered) middle (outcome, carried) ∧
        Path (flush.run (carried.following outcome)) closing ((), after) ∧
        control = outcome.control ∧ trace = ⟨.readClock, moment⟩ :: opening ++ middle ++ closing := by
    refine ensures_bind.mpr (ensures_call.mpr fun moment => ensures_bind.mpr fun first _ hservice => ?_)
    refine ensures_bind.mpr fun second ⟨_, entered⟩ henter => ?_
    refine ensures_bind.mpr fun middle ⟨outcome, carried⟩ hcarry => ?_
    refine ensures_bind.mpr (ensures_follow.mpr (ensures_bind.mpr fun closing ⟨_, after⟩ hflush => ?_))
    have hopens := (within_serviceCounting moment hservice).append (within_enterState moment henter)
    refine ensures_pure.mpr ⟨moment, first ++ second, entered, middle, outcome, carried, closing, hopens, hcarry,
      hflush, rfl, ?_⟩
    simp
  exact hcases h

/-- Following an outcome is at most a move. -/
theorem effects_following {allowed : Effect → Bool} (hmove : allowed .move = true) (c : Controller)
    (outcome : Outcome) : Effects allowed c [] (c.following outcome) := by
  cases outcome with
  | remain => exact .none c
  | moveTo next => exact .single hmove (.move c next)
  | restart => exact .none c

/-- A tick is a sequence of the effects of its state, and then writes the records. -/
theorem effects_tick {c after : Controller} {trace : List Exchange} {control : Control}
    (h : Path (tick.run c) trace (control, after)) :
    ∃ before closing ready, Effects c.runState.ticks c before ready ∧ Path (flush.run ready) closing ((), after) ∧
      trace = before ++ closing := by
  obtain ⟨moment, opening, entered, middle, outcome, carried, closing, hopen, hcarry, hflush, _, rfl⟩ :=
    tick_cases h
  have hstate : entered.runState = c.runState := hopen.runState_eq rfl
  have hopens : ∀ effect, effect.opens = true → c.runState.ticks effect = true := by
    intro effect heffect
    unfold Effect.opens at heffect
    split at heffect <;> first | rfl | exact absurd heffect (by decide)
  have hmiddle : Effects entered.runState.has entered middle carried := within_carryOut moment hcarry
  rw [hstate] at hmiddle
  have hfollow : Effects c.runState.ticks carried [] (carried.following outcome) :=
    effects_following rfl carried outcome
  have hread : Effects c.runState.ticks c [⟨.readClock, moment⟩] c := .single rfl (.ask c .readClock moment)
  have hopened := hread.append (hopen.mono hopens)
  have hall := (hopened.append (hmiddle.mono fun _ => RunState.ticks_of_has)).append hfollow
  rw [List.append_nil] at hall
  exact ⟨_, closing, _, hall, hflush, rfl⟩

end Controller

end FieldCounter
