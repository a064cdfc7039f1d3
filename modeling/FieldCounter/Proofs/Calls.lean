import FieldCounter.Proofs.Effect

/-!
# Which effects make which calls

Most calls are plain: they neither touch a stored record nor publish the health of the device nor
reset it. Only the writing of a record writes one, only the actions after a connection publish the
health, and only the effect that is a reset resets, so that what the store sees of a tick, and how
often the device is reset in it, can be read off the effects of the tick.
-/

namespace FieldCounter

open Program

/-- The call leaves the stored records alone, publishes no health and resets nothing. -/
def Call.isPlain : Call → Bool
  | .readRecord _ | .writeRecord _ _ | .publishStatus _ | .softReset | .hardPowerCycle => false
  | _ => true

/-- The call is to the sensor. -/
def Call.isSensor : Call → Bool
  | .buildSensor _ | .initSensor | .pollSensor | .readSensor | .sleepSensor | .wakeSensor
  | .sensorUsesInterrupt | .isSensorReady | .isSensorHealthy => true
  | _ => false

/-- The call looks at the sensor. -/
def Call.isLook : Call → Bool
  | .pollSensor | .readSensor | .sensorUsesInterrupt | .isSensorHealthy => true
  | _ => false

/-- The call belongs to an attempt to bring the sensor up. -/
def Call.isBringUp : Call → Bool
  | .buildSensor _ | .initSensor | .wakeSensor | .isSensorReady => true
  | _ => false

/-- The call looks at the radio or switches it on or off. -/
def Call.isRadio : Call → Bool
  | .isConnected | .isDisconnected | .isModemOff | .requestConnect | .requestDisconnect
  | .requestModemOff => true
  | _ => false

/-- The call looks at the radio or switches it off. -/
def Call.isTeardown : Call → Bool
  | .isConnected | .isDisconnected | .isModemOff | .requestDisconnect | .requestModemOff => true
  | _ => false

/-- The call is made on behalf of a new connection. -/
def Call.isOnline : Call → Bool
  | .readBattery | .signalQuality | .loadRemote | .publishData _ | .publishStatus _ | .pendingCount
  | .lastHookResponse => true
  | _ => false

/-- The call writes a record. -/
def Call.isWrite : Call → Bool
  | .writeRecord _ _ => true
  | _ => false

/-- The call reads or writes a record. -/
def Call.touchesRecord : Call → Bool
  | .readRecord _ | .writeRecord _ _ => true
  | _ => false

/-- The call publishes the health of the device. -/
def Call.isStatus : Call → Bool
  | .publishStatus _ => true
  | _ => false

/-- The call is a deep sleep. -/
def Call.isDeepSleep : Call → Bool
  | .deepSleep _ _ => true
  | _ => false

/-- The call resets the device. -/
def Call.isReset : Call → Bool
  | .softReset | .hardPowerCycle => true
  | _ => false

/-- Looking at the sensor is dealing with it. -/
theorem Call.isSensor_of_isLook {call : Call} (h : call.isLook = true) : call.isSensor = true := by
  cases call <;> first | rfl | cases h

/-- Bringing the sensor up is dealing with it. -/
theorem Call.isSensor_of_isBringUp {call : Call} (h : call.isBringUp = true) : call.isSensor = true := by
  cases call <;> first | rfl | cases h

/-- A call to the sensor is a plain one. -/
theorem Call.isPlain_of_isSensor {call : Call} (h : call.isSensor = true) : call.isPlain = true := by
  cases call <;> first | rfl | cases h

/-- Switching the radio off is dealing with it. -/
theorem Call.isRadio_of_isTeardown {call : Call} (h : call.isTeardown = true) : call.isRadio = true := by
  cases call <;> first | rfl | cases h

/-- A call to the radio is a plain one. -/
theorem Call.isPlain_of_isRadio {call : Call} (h : call.isRadio = true) : call.isPlain = true := by
  cases call <;> first | rfl | cases h

/-- None of the actions after a connection resets the device. -/
theorem Call.not_isReset_of_isOnline {call : Call} (h : call.isOnline = true) : call.isReset = false := by
  cases call <;> first | rfl | cases h

/-- A plain call neither resets the device nor publishes its status. -/
theorem Call.not_isReset_of_isPlain {call : Call} (h : call.isPlain = true) :
    call.isReset = false ∧ call.isStatus = false := by
  cases call <;> first | exact ⟨rfl, rfl⟩ | cases h

/-- A write neither resets the device nor publishes its status. -/
theorem Call.not_isReset_of_isWrite {call : Call} (h : call.isWrite = true) :
    call.isReset = false ∧ call.isStatus = false := by
  cases call <;> first | exact ⟨rfl, rfl⟩ | cases h

/-- A write touches a record. -/
theorem Call.touchesRecord_of_isWrite {call : Call} (h : call.isWrite = true) : call.touchesRecord = true := by
  cases call <;> first | rfl | cases h

/-- To read or write a record does not reset the device. -/
theorem Call.not_isReset_of_touchesRecord {call : Call} (h : call.touchesRecord = true) :
    call.isReset = false := by
  cases call <;> first | rfl | cases h

/-! ## The sensor -/

namespace SensorManager

variable (manager : SensorManager)

/-- Installing a driver is part of bringing the sensor up. -/
theorem calls_install (model : SensorModel) : (manager.install model).Calls (·.isBringUp = true) :=
  .ite (.pure _) (.bind (.logged _) fun _ => .bind (.call rfl) fun _ => .pure _)

/-- Every attempt makes only the calls that bring the sensor up. -/
theorem calls_bringUp (model : SensorModel) (left : Nat) : (bringUp model left).Calls (·.isBringUp = true) := by
  induction left with
  | zero => exact .bind (.logged _) fun _ => .pure _
  | succ left ih =>
    have hready : (call .initSensor <&&> call .isSensorReady : Program Bool).Calls (·.isBringUp = true) :=
      .and (.call rfl) (.call rfl)
    exact .bind hready fun _ => .ite (.bind (.logged _) fun _ => .pure _) (.bind (.logged _) fun _ => ih)

/-- Making sure that the sensor is ready makes only the calls that bring it up. -/
theorem calls_ensureReady (code : UInt8) : (manager.ensureReady code).Calls (·.isBringUp = true) := by
  refine .bind (.logged _) fun model => .bind (manager.calls_install model) fun manager => ?_
  have hready : (pure manager.powered <&&> call .isSensorReady : Program Bool).Calls (·.isBringUp = true) :=
    .and (.pure _) (.call rfl)
  exact .bind hready fun _ => .ite (.pure _) (.bind (calls_bringUp model _) fun _ => .pure _)

/-- Waking the sensor is part of bringing it up. -/
theorem calls_wake : manager.wake.Calls (·.isBringUp = true) := by
  have hready : (call .wakeSensor <&&> call .isSensorReady : Program Bool).Calls (·.isBringUp = true) :=
    .and (.call rfl) (.call rfl)
  exact .ite (.pure _) (.bind hready fun _ => .ite (.bind (.logged _) fun _ => .pure _) (.pure _))

/-- Powering the sensor up makes only the calls that bring it up. -/
theorem calls_powerUp (code : UInt8) : (manager.powerUp code).Calls (·.isBringUp = true) :=
  .bind manager.calls_wake fun manager => manager.calls_ensureReady code

/-- Powering the sensor down makes no call but the one that puts it to sleep. -/
theorem calls_powerDown : manager.powerDown.Calls (· = .sleepSensor) :=
  .ite (.pure _) (.bind (.call rfl) fun _ => .bind (.logged _) fun _ => .pure _)

/-- Asking the driver whether it uses the interrupt only looks. -/
theorem calls_usesInterrupt : manager.usesInterrupt.Calls (·.isLook = true) := .and (.pure _) (.call rfl)

/-- Polling only looks at the sensor. -/
theorem calls_poll : manager.poll.Calls (·.isLook = true) :=
  .and (.pure _) (.and (.map (.call rfl)) (.call rfl))

/-- Sampling only looks at the sensor. -/
theorem calls_sample : manager.sample.Calls (·.isLook = true) :=
  .ite (.bind (.call rfl) fun _ => .pure _) (.pure _)

/-- Asking whether the sensor is well only looks. -/
theorem calls_isHealthy : manager.isHealthy.Calls (·.isLook = true) := .and (.pure _) (.call rfl)

end SensorManager

/-! ## The radio -/

/-- A step towards a connection only deals with the radio. -/
theorem ConnectSession.calls_step (session : ConnectSession) (budget : UInt32) (uptimeMs : UInt64) :
    (session.step budget uptimeMs).Calls (·.isRadio = true) := by
  refine .ite (.pure _) (.bind (.call rfl) fun _ => .ite (.pure _) (.ite ?_ ?_))
  · exact .bind (.logged _) fun _ => .bind (.call rfl) fun _ => .pure _
  · exact .ite (.bind (.logged _) fun _ => .pure _) (.pure _)

namespace DisconnectSession

variable (session : DisconnectSession)

/-- The first step of a teardown makes only the calls of a teardown. -/
theorem calls_start (uptimeMs : UInt64) : (start uptimeMs).Calls (·.isTeardown = true) := by
  have hoff : ((not <$> call .isConnected) <&&> call .isModemOff : Program Bool).Calls (·.isTeardown = true) :=
    .and (.map (.call rfl)) (.call rfl)
  have hup : (call .isConnected <||> (not <$> call .isDisconnected) : Program Bool).Calls (·.isTeardown = true) :=
    .or (.call rfl) (.map (.call rfl))
  refine .bind hoff fun _ => .ite (.pure _) (.bind hup fun _ => .ite ?_ ?_)
  · exact .bind (.logged _) fun _ => .bind (.call rfl) fun _ => .pure _
  · exact .bind (.logged _) fun _ => .bind (.call rfl) fun _ => .pure _

/-- Waiting for the cloud session to close makes only the calls of a teardown. -/
theorem calls_awaitCloud (since : UInt64) (budget : UInt32) (uptimeMs : UInt64) :
    (session.awaitCloud since budget uptimeMs).Calls (·.isTeardown = true) := by
  refine .bind (.call rfl) fun _ => ?_
  extract_lets rest
  have hrest : (rest ()).Calls (·.isTeardown = true) := .bind (.call rfl) fun _ => .pure _
  refine .ite (.bind (.logged _) fun _ => hrest) (.ite ?_ (.pure _))
  exact .bind (.logged _) fun _ => hrest

/-- Waiting for the modem to go off makes only the calls of a teardown. -/
theorem calls_awaitModem (cloudBudget modemBudget : UInt32) (uptimeMs : UInt64) :
    (session.awaitModem cloudBudget modemBudget uptimeMs).Calls (·.isTeardown = true) := by
  refine .bind (.call rfl) fun _ => .ite ?_ (.ite ?_ (.pure _))
  · exact .bind (.logged _) fun _ => .pure _
  · exact .bind (.logged _) fun _ => .pure _

/-- Every step of a teardown makes only the calls of a teardown. -/
theorem calls_step (cloudBudget modemBudget : UInt32) (uptimeMs : UInt64) :
    (session.step cloudBudget modemBudget uptimeMs).Calls (·.isTeardown = true) := by
  unfold step
  split
  · exact calls_start uptimeMs
  · exact session.calls_awaitCloud _ cloudBudget uptimeMs
  · exact session.calls_awaitModem cloudBudget modemBudget uptimeMs
  · exact .pure _
  · exact .pure _

end DisconnectSession

/-- Forcing the radio off makes only the calls of a teardown. -/
theorem calls_forceRadioOff : forceRadioOff.Calls (·.isTeardown = true) := by
  have hup : (call .isConnected <||> (not <$> call .isDisconnected) : Program Bool).Calls (·.isTeardown = true) :=
    .or (.call rfl) (.map (.call rfl))
  refine .bind hup fun _ => ?_
  extract_lets rest
  have hrest : (rest ()).Calls (·.isTeardown = true) := .bind (.call rfl) fun _ => .ite (.call rfl) (.pure _)
  exact .ite (.bind (.call rfl) fun _ => hrest) hrest

/-! ## The records -/

namespace Records

variable (records : Records)

/-- Reloading the remote settings makes no call but the one that loads them. -/
theorem calls_reloadRemote (now : UInt32) : (records.reloadRemote now).Calls (· = .loadRemote) := by
  refine .bind (.call rfl) fun answer => ?_
  cases answer with
  | none => exact .bind (.logged _) fun _ => .bind (.logged _) fun _ => .pure _
  | some remote =>
    refine .bind (.logged _) fun _ => .bind (.logged _) fun _ => .ite (.pure _) ?_
    exact .bind (.logged _) fun _ => .pure _

/-- Publishing the figures is one of the actions after a connection. -/
theorem calls_publishData (now : UInt32) : (records.publishData now).Calls (·.isOnline = true) :=
  .bind (.call rfl) fun _ => .ite (.pure _) (.bind (.logged _) fun _ => .bind (.logged _) fun _ => .pure _)

/-- Publishing the status is one of the actions after a connection. -/
theorem calls_publishStatus (pending : UInt32) (healthy : Bool) (now : UInt32) :
    (records.publishStatus pending healthy now).Calls (·.isOnline = true) :=
  .bind (.call rfl) fun _ => .ite (.pure _) (.bind (.logged _) fun _ => .bind (.logged _) fun _ => .pure _)

/-- Asking when the webhook answered is one of the actions after a connection. -/
theorem calls_noteHookResponse (now : UInt32) : (records.noteHookResponse now).Calls (·.isOnline = true) := by
  refine .bind (.call rfl) fun answer => ?_
  cases answer with
  | none => exact .pure _
  | some answered => exact .ite (.pure _) (.bind (.logged _) fun _ => .pure _)

/-- The actions after a connection make no other calls. -/
theorem calls_actOnline (healthy publish : Bool) (now : UInt32) :
    (actOnline records healthy publish now).Calls (·.isOnline = true) := by
  refine .bind (.logged _) fun _ => .bind (.call rfl) fun _ => ?_
  refine .bind (.logged _) fun _ => .bind (.call rfl) fun _ => ?_
  have hreload : ∀ records : Records, (records.reloadRemote now).Calls (·.isOnline = true) := by
    intro records
    refine (calls_reloadRemote records now).mono fun trace _ hcalls exchange hmem => ?_
    rw [hcalls exchange hmem]
    rfl
  refine .bind (hreload _) fun result => ?_
  split
  extract_lets rest
  have hrest : ∀ published, (rest published).Calls (·.isOnline = true) := by
    rintro ⟨published, records⟩
    refine .bind (.call rfl) fun pending => .bind (calls_publishStatus records pending healthy now) ?_
    rintro ⟨sent, records⟩
    refine .bind (calls_noteHookResponse records now) fun noted => ?_
    exact .bind (.logged _) fun _ => .pure _
  exact .ite (.bind (.map (calls_publishData _ now)) fun _ => hrest _) (.bind (.pure _) fun _ => hrest _)

end Records

/-- A record is only written when it is flushed. -/
theorem Persisted.calls_flush {α : Type} [Record α] [DecidableEq α] (record : Persisted α) :
    record.flush.Calls (·.isWrite = true) := by
  refine .ite (.pure _) ?_
  split
  · exact .pure _
  · refine .bind (.call rfl) fun answer => ?_
    cases answer with
    | error error => exact .pure _
    | ok done => exact .pure _

/-! ## Effects -/

/-- The calls that an effect may make. -/
def Effect.mayCall : Effect → Call → Bool
  | .ask asked, call => asked == call
  | .sense, call => call.isLook
  | .powerUp, call => call.isBringUp
  | .powerDown, call => call == .sleepSensor
  | .connect, call | .disconnect, call | .radioOff, call => call.isRadio
  | .battery, call => call == .readBattery
  | .reload, call => call == .loadRemote
  | .actOnline, call => call.isOnline
  | .writeConfig, call | .writeStatus, call => call.isWrite
  | _, _ => false

/-- Whatever calls the effect makes are plain ones. -/
def Effect.callsPlainly : Effect → Bool
  | .ask _ | .actOnline | .writeConfig | .writeStatus => false
  | _ => true

/-- An effect that calls plainly makes plain calls only. -/
theorem Effect.isPlain_of_mayCall {effect : Effect} {call : Call} (h : effect.mayCall call = true)
    (hplain : effect.callsPlainly = true) : call.isPlain = true := by
  cases effect with
  | ask | actOnline | writeConfig | writeStatus => cases hplain
  | sense => exact Call.isPlain_of_isSensor (Call.isSensor_of_isLook h)
  | powerUp => exact Call.isPlain_of_isSensor (Call.isSensor_of_isBringUp h)
  | connect | disconnect | radioOff => exact Call.isPlain_of_isRadio h
  | powerDown | battery | reload =>
    rw [eq_of_beq h]
    rfl
  | _ => cases h

/-- A reset and a deep sleep are calls of their own, and no part of another effect. -/
theorem Effect.eq_ask_of_mayCall {effect : Effect} {call : Call} (h : effect.mayCall call = true)
    (hcall : call.isReset = true ∨ call.isDeepSleep = true) : effect = .ask call := by
  cases effect with
  | ask asked => rw [eq_of_beq h]
  | _ =>
    cases call with
    | softReset | hardPowerCycle | deepSleep => cases h
    | _ => rcases hcall with hreset | hdeep <;> contradiction

/-- An effect makes no other calls. -/
theorem Effect.Does.mayCall {effect : Effect} {before after : Controller} {trace : List Exchange}
    (h : effect.Does before trace after) : ∀ exchange ∈ trace, effect.mayCall exchange.call = true := by
  intro exchange hmem
  cases h with
  | ask c call answer =>
    rw [List.mem_singleton.mp hmem]
    exact beq_self_eq_true call
  | poll hpath => exact SensorManager.calls_poll _ hpath exchange hmem
  | sample hpath => exact SensorManager.calls_sample _ hpath exchange hmem
  | interrupt hpath => exact SensorManager.calls_usesInterrupt _ hpath exchange hmem
  | health hpath => exact SensorManager.calls_isHealthy _ hpath exchange hmem
  | powerUp hpath => exact SensorManager.calls_powerUp _ _ hpath exchange hmem
  | powerDown hpath =>
    rw [SensorManager.calls_powerDown _ hpath exchange hmem]
    rfl
  | connect hpath => exact ConnectSession.calls_step _ _ _ hpath exchange hmem
  | disconnect hpath =>
    exact Call.isRadio_of_isTeardown (DisconnectSession.calls_step _ _ _ _ hpath exchange hmem)
  | radioOff hpath => exact Call.isRadio_of_isTeardown (calls_forceRadioOff hpath exchange hmem)
  | battery c reading now =>
    rw [List.mem_singleton.mp hmem]
    rfl
  | actOnline hpath => exact Records.calls_actOnline _ _ _ _ hpath exchange hmem
  | reload hpath =>
    rw [Records.calls_reloadRemote _ _ hpath exchange hmem]
    rfl
  | writeConfig hpath => exact Persisted.calls_flush _ hpath exchange hmem
  | writeStatus hpath => exact Persisted.calls_flush _ hpath exchange hmem
  | _ => exact absurd hmem List.not_mem_nil

/-- The calls of a sequence of effects are calls that its effects may make. -/
theorem Effects.mayCall {allowed : Effect → Bool} {before after : Controller} {trace : List Exchange}
    (h : Effects allowed before trace after) :
    ∀ exchange ∈ trace, ∃ effect, allowed effect = true ∧ effect.mayCall exchange.call = true := by
  induction h with
  | none c =>
    intro exchange hmem
    exact absurd hmem List.not_mem_nil
  | cons hallowed hdoes _ ih =>
    intro exchange hmem
    rcases List.mem_append.mp hmem with hfirst | hrest
    · exact ⟨_, hallowed, hdoes.mayCall exchange hfirst⟩
    · exact ih exchange hrest

end FieldCounter
