import FieldCounter.Proofs.ConnectingStay

/-!
# What is left alone without a connection

The operating mode is changed by remote settings alone, and those are fetched online. That a firmware update
waits is noted where the radio offers one and taken back where it offers none any more; that one was given up
is not taken back before the next boot. A connection is asked for by a connect session and by nothing else.
-/

namespace FieldCounter

open Program (Path)

/-! ## The mark of a waiting update -/

namespace RuntimeStatus

/-- Counting is no matter of a waiting update. -/
theorem updatePending_of_health {status other : RuntimeStatus} (h : other.health = status.health) :
    other.updatePending = status.updatePending := by
  have hpending := congrArg updatePending h
  exact hpending

/-- Nor is a battery reading. -/
theorem updatePending_updateBattery (status : RuntimeStatus) (reading : BatteryReading) (now : UInt32) :
    (status.updateBattery reading now).value.updatePending = status.updatePending := by
  rw [value_updateBattery]

end RuntimeStatus

/-- The actions after a connection do not settle whether an update waits. -/
theorem Records.kept_updatePending (pending : Bool) :
    Records.Kept fun records => records.status.updatePending = pending where
  raise := fun _ _ _ _ h => h
  remote := fun records remote report h => by
    obtain ⟨_, hfields⟩ := records.status.fields_applyRemotePower remote.power report
    rwa [hfields]
  clear := fun _ _ h => h
  battery := fun records reading now h => (records.status.updatePending_updateBattery reading now).trans h
  signal := fun _ _ h => h
  hook := fun _ _ h => h
  connection := fun _ _ h => h

namespace Effect.Does

variable {effect : Effect} {before after : Controller} {trace : List Exchange}

/-- An effect that does not mark an update leaves the mark alone. -/
theorem updatePending_eq (h : effect.Does before trace after) (hmark : ∀ pending, effect ≠ .markUpdate pending) :
    after.status.value.updatePending = before.status.value.updatePending := by
  cases h with
  | markUpdate c pending => exact absurd rfl (hmark pending)
  | battery c reading now => exact before.status.value.updatePending_updateBattery reading now
  | service c edge moment => exact RuntimeStatus.updatePending_of_health (CountingEngine.health_service ..)
  | detection c moment => exact RuntimeStatus.updatePending_of_health (CountingEngine.health_recordEvent ..)
  | closeSession c now => exact RuntimeStatus.updatePending_of_health (CountingEngine.health_closeOccupancy ..)
  | credit c now =>
    exact RuntimeStatus.updatePending_of_health (before.status.value.health_creditOpenOccupancy now)
  | actOnline hpath =>
    obtain ⟨_, settled, hsettled, hrecords⟩ :=
      (Records.kept_updatePending before.status.value.updatePending).actOnline rfl _ _ _ hpath
    have hstatus := congrArg Records.status hrecords
    rw [Records.status_settleResetCount] at hstatus
    exact (congrArg (·.updatePending) hstatus).trans hsettled
  | reload hpath => exact (Records.kept_updatePending before.status.value.updatePending).reloadRemote rfl _ hpath
  | writeStatus hpath => exact congrArg (·.updatePending) (Persisted.value_of_flush hpath)
  | enter uptime => exact congrArg (·.value.updatePending) (before.status_prepare uptime)
  | _ => rfl

/-- Only where no update is offered any more is the mark taken back. -/
theorem updatePending_of_true (h : effect.Does before trace after) (hmark : effect ≠ .markUpdate false)
    (hpending : before.status.value.updatePending = true) : after.status.value.updatePending = true := by
  by_cases hmarks : effect = .markUpdate true
  · subst hmarks
    cases h
    rfl
  · refine (h.updatePending_eq fun pending heq => ?_).trans hpending
    cases pending with
    | true => exact hmarks heq
    | false => exact hmark heq

/-- An effect that does not put the update off leaves alone whether it was. -/
theorem updateDeferred_eq (h : effect.Does before trace after) (hdefer : effect ≠ .deferUpdate) :
    after.updateDeferred = before.updateDeferred := by
  cases h with
  | deferUpdate => exact absurd rfl hdefer
  | enter uptime =>
    show (before.prepare uptime).updateDeferred = _
    unfold Controller.prepare
    split <;> rfl
  | _ => rfl

/-- Only remote settings change the operating mode. -/
theorem operatingMode_eq (h : effect.Does before trace after) (honline : effect ≠ .actOnline)
    (hreload : effect ≠ .reload) : after.config.value.operatingMode = before.config.value.operatingMode := by
  cases h with
  | actOnline => exact absurd rfl honline
  | reload => exact absurd rfl hreload
  | writeConfig hpath => exact congrArg (·.operatingMode) (Persisted.value_of_flush hpath)
  | enter uptime => exact congrArg (·.value.operatingMode) (before.config_prepare uptime)
  | _ => rfl

/-- Only a step towards a connection asks for one, or the bare call. -/
theorem connectRequests_eq (h : effect.Does before trace after) (hconnect : effect ≠ .connect)
    (hask : effect ≠ .ask .requestConnect) : connectRequests trace = 0 := by
  refine List.countP_eq_zero.mpr fun exchange hmem hrequest => ?_
  have hmay := h.mayCall exchange hmem
  have hcall : exchange.call = .requestConnect := by
    cases hcall : exchange.call <;> rw [hcall] at hrequest <;> first | rfl | cases hrequest
  rw [hcall] at hmay
  cases h with
  | connect => exact hconnect rfl
  | ask c call answer =>
    obtain rfl := eq_of_beq hmay
    exact hask rfl
  | disconnect hpath =>
    have hteardown := DisconnectSession.calls_step _ _ _ _ hpath exchange hmem
    rw [hcall] at hteardown
    cases hteardown
  | radioOff hpath =>
    have hteardown := calls_forceRadioOff hpath exchange hmem
    rw [hcall] at hteardown
    cases hteardown
  | _ => cases hmay

end Effect.Does

namespace Effects

variable {allowed : Effect → Bool} {before after : Controller} {trace : List Exchange}

/-- What no allowed effect changes, a sequence of them does not change. -/
theorem same {α : Type} (feature : Controller → α) (h : Effects allowed before trace after)
    (hsame : ∀ effect before trace after, allowed effect = true → effect.Does before trace after →
      feature after = feature before) : feature after = feature before := by
  refine h.fold (R := fun before _ after => feature after = feature before) (fun _ => rfl) ?_
  intro effect before trace between rest after hallowed hdoes hrest
  exact hrest.trans (hsame effect before trace between hallowed hdoes)

/-- Effects that do not mark an update leave the mark alone. -/
theorem updatePending_eq (h : Effects allowed before trace after)
    (hmark : ∀ pending, allowed (.markUpdate pending) = false) :
    after.status.value.updatePending = before.status.value.updatePending := by
  refine h.same (·.status.value.updatePending) fun effect _ _ _ hallowed hdoes => hdoes.updatePending_eq ?_
  rintro pending rfl
  rw [hmark pending] at hallowed
  cases hallowed

/-- A mark stays where no effect takes it back. -/
theorem updatePending_of_true (h : Effects allowed before trace after) (hmark : allowed (.markUpdate false) = false)
    (hpending : before.status.value.updatePending = true) : after.status.value.updatePending = true := by
  refine h.fold (R := fun before _ after => before.status.value.updatePending = true →
    after.status.value.updatePending = true) (fun _ => id) ?_ hpending
  intro effect before trace between rest after hallowed hdoes hrest hpending
  refine hrest (hdoes.updatePending_of_true ?_ hpending)
  rintro rfl
  rw [hmark] at hallowed
  cases hallowed

/-- Effects that do not put the update off leave alone whether it was. -/
theorem updateDeferred_eq (h : Effects allowed before trace after) (hdefer : allowed .deferUpdate = false) :
    after.updateDeferred = before.updateDeferred := by
  refine h.same (·.updateDeferred) fun effect _ _ _ hallowed hdoes => hdoes.updateDeferred_eq ?_
  rintro rfl
  rw [hdefer] at hallowed
  cases hallowed

/-- Effects without remote settings leave the operating mode alone. -/
theorem operatingMode_eq (h : Effects allowed before trace after) (honline : allowed .actOnline = false)
    (hreload : allowed .reload = false) :
    after.config.value.operatingMode = before.config.value.operatingMode := by
  refine h.same (·.config.value.operatingMode) fun effect _ _ _ hallowed hdoes => hdoes.operatingMode_eq ?_ ?_
  · rintro rfl
    rw [honline] at hallowed
    cases hallowed
  · rintro rfl
    rw [hreload] at hallowed
    cases hallowed

/-- Without a connect session no connection is asked for. -/
theorem connectRequests_eq (h : Effects allowed before trace after) (hconnect : allowed .connect = false)
    (hask : allowed (.ask .requestConnect) = false) : connectRequests trace = 0 := by
  refine h.fold (R := fun _ trace _ => connectRequests trace = 0) (fun _ => rfl) ?_
  intro effect before trace between rest after hallowed hdoes hrest
  rw [connectRequests_append, hrest, Nat.add_zero]
  refine hdoes.connectRequests_eq ?_ ?_
  · rintro rfl
    rw [hconnect] at hallowed
    cases hallowed
  · rintro rfl
    rw [hask] at hallowed
    cases hallowed

end Effects

end FieldCounter
