import FieldCounter.Proofs.Store
import FieldCounter.Proofs.Recovery
import FieldCounter.Proofs.Tick

/-!
# Resets and their count

Almost every effect is quiet: it makes no reset, publishes no health, and leaves the count of resets
and the decision about one alone. What is not quiet are the actions after a connection, which settle
the count, and the error state, which makes at most one reset in a tick, counts it, and does so only
while fewer than four are counted.
-/

namespace FieldCounter

open Program (Path)

/-! ## Quiet effects -/

/-- No reset, no health published, and the count and the decision left alone. -/
structure Quiet (before : Controller) (trace : List Exchange) (after : Controller) : Prop where
  count : after.config.value.resetCount = before.config.value.resetCount
  decision : after.decision = before.decision ∨ after.decision = none
  calls : ∀ exchange ∈ trace, exchange.call.isReset = false ∧ exchange.call.isStatus = false

namespace Quiet

variable {before between after : Controller} {trace rest : List Exchange}

/-- To do nothing is quiet. -/
theorem refl (c : Controller) : Quiet c [] c where
  count := rfl
  decision := .inl rfl
  calls := fun _ h => absurd h List.not_mem_nil

/-- Two quiet parts are quiet together. -/
theorem trans (h : Quiet before trace between) (hrest : Quiet between rest after) :
    Quiet before (trace ++ rest) after where
  count := hrest.count.trans h.count
  decision := by
    rcases hrest.decision with hdecision | hdecision
    · rw [hdecision]
      exact h.decision
    · exact .inr hdecision
  calls := by
    intro exchange hmem
    rcases List.mem_append.mp hmem with hfirst | hlast
    · exact h.calls exchange hfirst
    · exact hrest.calls exchange hlast

end Quiet

/-- The effect is quiet. -/
def Effect.isQuiet : Effect → Bool
  | .ask call => !call.isReset && !call.isStatus
  | .actOnline | .countReset | .decide => false
  | _ => true

/-- The calls of a quiet effect are quiet. -/
theorem Effect.quiet_of_mayCall {effect : Effect} {call : Call} (hquiet : effect.isQuiet = true)
    (h : effect.mayCall call = true) : call.isReset = false ∧ call.isStatus = false := by
  cases effect with
  | ask asked =>
    rw [← eq_of_beq h]
    simpa [Effect.isQuiet] using hquiet
  | actOnline => cases hquiet
  | writeConfig | writeStatus => exact Call.not_isReset_of_isWrite h
  | _ => exact Call.not_isReset_of_isPlain (Effect.isPlain_of_mayCall h rfl)

/-- A quiet effect is quiet in all it does. -/
theorem Effect.Does.quiet {effect : Effect} {before after : Controller} {trace : List Exchange}
    (h : effect.Does before trace after) (hquiet : effect.isQuiet = true) : Quiet before trace after := by
  have hcalls := fun exchange hmem => Effect.quiet_of_mayCall hquiet (h.mayCall exchange hmem)
  cases h with
  | actOnline => cases hquiet
  | countReset => cases hquiet
  | decide => cases hquiet
  | reload hpath =>
    have hcount := (Records.kept_resetCount before.config.value.resetCount).reloadRemote rfl _ hpath
    exact ⟨hcount, .inl rfl, hcalls⟩
  | writeConfig hpath => exact ⟨congrArg (·.resetCount) (Persisted.value_of_flush hpath), .inl rfl, hcalls⟩
  | writeStatus hpath => exact ⟨rfl, .inl rfl, hcalls⟩
  | enter uptime hnew =>
    exact ⟨congrArg (·.value.resetCount) (before.config_prepare uptime), before.decision_prepare uptime, hcalls⟩
  | _ => exact ⟨rfl, .inl rfl, hcalls⟩

/-- A sequence of quiet effects is quiet. -/
theorem Effects.quiet {allowed : Effect → Bool} {before after : Controller} {trace : List Exchange}
    (h : Effects allowed before trace after)
    (hquiet : ∀ effect, allowed effect = true → effect.isQuiet = true) :
    Quiet before trace after :=
  h.fold Quiet.refl fun effect _ _ _ _ _ hallowed hdoes hrest =>
    (hdoes.quiet (hquiet effect hallowed)).trans hrest

/-! ## The actions after a connection -/

/-- The effect may change the alert slot. -/
def Effect.touchesSlot : Effect → Bool
  | .battery | .raise _ | .clear _ | .settle | .reload | .actOnline => true
  | _ => false

/-- The other effects leave it alone. -/
theorem Effect.Does.alert_eq_of_untouched {effect : Effect} {before after : Controller} {trace : List Exchange}
    (h : effect.Does before trace after) (huntouched : effect.touchesSlot = false) :
    after.status.value.alert = before.status.value.alert := by
  cases h with
  | battery | raise | clear | settle | reload | actOnline => cases huntouched
  | service c edge moment => exact RuntimeStatus.alert_of_health (CountingEngine.health_service ..)
  | detection c moment => exact RuntimeStatus.alert_of_health (CountingEngine.health_recordEvent ..)
  | closeSession c now => exact RuntimeStatus.alert_of_health (CountingEngine.health_closeOccupancy ..)
  | credit c now => exact RuntimeStatus.alert_of_health (RuntimeStatus.health_creditOpenOccupancy ..)
  | enter uptime => exact congrArg (·.value.alert) (before.status_prepare uptime)
  | writeStatus hpath => exact congrArg (·.alert) (Persisted.value_of_flush hpath)
  | _ => rfl

/-- The effect is quiet and leaves the alert slot alone. -/
def Effect.isCalm : Effect → Bool
  | .battery | .raise _ | .clear _ | .settle | .reload => false
  | effect => effect.isQuiet

/-- A calm effect is quiet. -/
theorem Effect.isQuiet_of_isCalm {effect : Effect} (h : effect.isCalm = true) : effect.isQuiet = true := by
  cases effect <;> first | exact h | cases h

/-- A calm effect leaves the alert slot alone. -/
theorem Effect.Does.alert_eq {effect : Effect} {before after : Controller} {trace : List Exchange}
    (h : effect.Does before trace after) (hcalm : effect.isCalm = true) :
    after.status.value.alert = before.status.value.alert :=
  h.alert_eq_of_untouched (by cases effect <;> first | rfl | cases hcalm)

/-- A sequence of calm effects leaves the alert slot alone. -/
theorem Effects.alert_eq {allowed : Effect → Bool} {before after : Controller} {trace : List Exchange}
    (h : Effects allowed before trace after) (hcalm : ∀ effect, allowed effect = true → effect.isCalm = true) :
    after.status.value.alert = before.status.value.alert := by
  refine h.fold (R := fun before _ after => after.status.value.alert = before.status.value.alert) (fun _ => rfl) ?_
  intro effect before trace between rest after hallowed hdoes hrest
  rw [hrest]
  exact hdoes.alert_eq (hcalm effect hallowed)

/-- The count of resets after actions that published the health with the given slot on show: it is
kept while a systemic alert is on show, and cleared otherwise. -/
def countAfter (count : UInt8) (slot : AlertSlot) : UInt8 := if slot.shows Alert.isSystemic then count else 0

/-- It is the count or nothing. -/
theorem countAfter_eq_or_zero (count : UInt8) (slot : AlertSlot) :
    countAfter count slot = count ∨ countAfter count slot = 0 := by
  unfold countAfter
  split
  · exact .inl rfl
  · exact .inr rfl

/-- A decision stands only for a reset, and only while one more may be made. -/
def Controller.Prudent (c : Controller) : Prop :=
  ∀ resolution uptimeMs, c.decision = some (resolution, uptimeMs) →
    resolution ≠ .noAction ∧ c.config.value.resetCount.toNat < 4

/-- It goes on standing where the count has not grown. -/
theorem Controller.Prudent.of_le {before after : Controller} (h : before.Prudent)
    (hdecision : after.decision = before.decision ∨ after.decision = none)
    (hcount : after.config.value.resetCount.toNat ≤ before.config.value.resetCount.toNat) : after.Prudent := by
  intro resolution uptimeMs hafter
  rcases hdecision with hsame | hnone
  · rw [hsame] at hafter
    obtain ⟨hreset, hlt⟩ := h resolution uptimeMs hafter
    exact ⟨hreset, Nat.lt_of_le_of_lt hcount hlt⟩
  · rw [hnone] at hafter
    cases hafter

/-- No reset; and the count left alone unless the health was published, and settled by the alert on
show if it was. -/
structure Settled (before : Controller) (trace : List Exchange) (after : Controller) : Prop where
  prudent : before.Prudent → after.Prudent
  resets : ∀ exchange ∈ trace, exchange.call.isReset = false
  count : ((∀ exchange ∈ trace, exchange.call.isStatus = false) ∧
      after.config.value.resetCount = before.config.value.resetCount) ∨
    ((∃ exchange ∈ trace, exchange.call.isStatus = true) ∧
      after.config.value.resetCount = countAfter before.config.value.resetCount after.status.value.alert)

variable {before between after : Controller} {trace rest : List Exchange}

/-- What is quiet keeps a controller prudent. -/
theorem Quiet.prudent (h : Quiet before trace after) (hprudent : before.Prudent) : after.Prudent :=
  hprudent.of_le h.decision (Nat.le_of_eq (congrArg UInt8.toNat h.count))

/-- The count is kept or cleared. -/
theorem Settled.count_eq_or_zero (h : Settled before trace after) :
    after.config.value.resetCount = before.config.value.resetCount ∨ after.config.value.resetCount = 0 := by
  rcases h.count with ⟨_, hkept⟩ | ⟨_, hcount⟩
  · exact .inl hkept
  · rw [hcount]
    exact countAfter_eq_or_zero ..

/-- What is quiet settles nothing. -/
theorem Quiet.settled (h : Quiet before trace after) : Settled before trace after where
  prudent := h.prudent
  resets := fun exchange hmem => (h.calls exchange hmem).1
  count := .inl ⟨fun exchange hmem => (h.calls exchange hmem).2, h.count⟩

/-- What is quiet may come first. -/
theorem Quiet.trans_settled (h : Quiet before trace between) (hrest : Settled between rest after) :
    Settled before (trace ++ rest) after where
  prudent := fun hprudent => hrest.prudent (h.prudent hprudent)
  resets := by
    intro exchange hmem
    rcases List.mem_append.mp hmem with hfirst | hlast
    · exact (h.calls exchange hfirst).1
    · exact hrest.resets exchange hlast
  count := by
    rcases hrest.count with ⟨hnone, hcount⟩ | ⟨⟨exchange, hmem, hstatus⟩, hcount⟩
    · refine .inl ⟨fun exchange hmem => ?_, hcount.trans h.count⟩
      rcases List.mem_append.mp hmem with hfirst | hlast
      · exact (h.calls exchange hfirst).2
      · exact hnone exchange hlast
    · rw [h.count] at hcount
      exact .inr ⟨⟨exchange, List.mem_append_right trace hmem, hstatus⟩, hcount⟩

/-- What is quiet and leaves the alert slot alone may come afterwards. -/
theorem Settled.trans_quiet (h : Settled before trace between) (hrest : Quiet between rest after)
    (halert : after.status.value.alert = between.status.value.alert) : Settled before (trace ++ rest) after where
  prudent := fun hprudent => hrest.prudent (h.prudent hprudent)
  resets := by
    intro exchange hmem
    rcases List.mem_append.mp hmem with hfirst | hlast
    · exact h.resets exchange hfirst
    · exact (hrest.calls exchange hlast).1
  count := by
    rcases h.count with ⟨hnone, hcount⟩ | ⟨⟨exchange, hmem, hstatus⟩, hcount⟩
    · refine .inl ⟨fun exchange hmem => ?_, hrest.count.trans hcount⟩
      rcases List.mem_append.mp hmem with hfirst | hlast
      · exact hnone exchange hfirst
      · exact (hrest.calls exchange hlast).2
    · rw [← halert, ← hrest.count] at hcount
      exact .inr ⟨⟨exchange, List.mem_append_left rest hmem, hstatus⟩, hcount⟩

/-- A quiet step may come after what is quiet. -/
theorem Quiet.ensures_quiet {α : Type} {x : Step α} (h : Quiet before trace between)
    (hx : Step.Within Effect.isQuiet x between) :
    Step.Ensures x between fun rest _ after => Settled before (trace ++ rest) after := by
  refine Step.Ensures.mono hx fun rest _ after hrest => ?_
  exact (h.trans (hrest.quiet fun _ => id)).settled

/-- A calm step may come after what settles the count. -/
theorem Settled.ensures_calm {α : Type} {x : Step α} (h : Settled before trace between)
    (hx : Step.Within Effect.isCalm x between) :
    Step.Ensures x between fun rest _ after => Settled before (trace ++ rest) after := by
  refine Step.Ensures.mono hx fun rest _ after hrest => ?_
  exact h.trans_quiet (hrest.quiet fun _ => Effect.isQuiet_of_isCalm) (hrest.alert_eq fun _ => id)

/-- The records are written without a reset. -/
theorem Controller.quiet_flush {c after : Controller} {trace : List Exchange}
    (h : Path (Controller.flush.run c) trace ((), after)) :
    Quiet c trace after ∧ after.status.value.alert = c.status.value.alert := by
  have heffects : Effects Effect.isCalm c trace after := Controller.within_flush rfl rfl h
  exact ⟨heffects.quiet fun _ => Effect.isQuiet_of_isCalm, heffects.alert_eq fun _ => id⟩

/-! ## The states -/

/-- What comes before the state of a tick is carried out leaves all this alone. -/
theorem Effect.isCalm_of_opens {effect : Effect} (h : effect.opens = true) : effect.isCalm = true := by
  unfold opens at h
  split at h <;> first | rfl | cases h

/-- Besides the error state and coming online, no state does anything that is not quiet. -/
theorem RunState.isQuiet_of_has {state : RunState} {effect : Effect} (herror : state ≠ .error)
    (hconnecting : state ≠ .connecting) (h : state.has effect = true) : effect.isQuiet = true := by
  cases state with
  | error => exact absurd rfl herror
  | connecting => exact absurd rfl hconnecting
  | _ =>
    dsimp only [has] at h
    split at h <;> first | rfl | cases h

namespace Controller

open Step

variable {c : Controller}

/-- The actions after a connection settle the count of resets by the alert they leave on show. -/
theorem settled_actOnline {healthy publish : Bool} {now : UInt32} {trace : List Exchange}
    {summary : OnlineSummary} {records : Records}
    (h : Path (actOnline c.records healthy publish now) trace (summary, records)) :
    Settled c trace (c.setRecords records) := by
  have hcalls := Records.calls_actOnline c.records healthy publish now h
  have hkept := Records.kept_resetCount c.config.value.resetCount
  obtain ⟨⟨snapshot, answer, hmem⟩, settled, hcount, hrecords⟩ := hkept.actOnline rfl healthy publish now h
  dsimp only at hrecords
  rw [Records.value_settleResetCount] at hrecords
  have hsettled : records.config.resetCount = countAfter c.config.value.resetCount records.status.alert := by
    unfold countAfter
    split at hrecords
    · rename_i hshows
      rw [hrecords, if_pos hshows]
      exact hcount
    · rename_i hshows
      rw [hrecords, if_neg hshows]
      rfl
  have hle : records.config.resetCount.toNat ≤ c.config.value.resetCount.toNat := by
    rcases countAfter_eq_or_zero c.config.value.resetCount records.status.alert with hsame | hzero
    · exact Nat.le_of_eq (congrArg UInt8.toNat (hsettled.trans hsame))
    · rw [hsettled, hzero]
      exact Nat.zero_le _
  constructor
  · intro hprudent
    exact hprudent.of_le (.inl rfl) hle
  · exact fun exchange hexchange => Call.not_isReset_of_isOnline (hcalls exchange hexchange)
  · exact .inr ⟨⟨_, hmem, rfl⟩, hsettled⟩

/-- They are done once in a connect session, and what is noted then leaves the records alone. -/
theorem settled_afterConnect (moment : Moment) :
    (afterConnect moment).Ensures c fun trace _ after => Settled c trace after := by
  rw [afterConnect, ensures_get_bind]
  split
  · exact ensures_pure.mpr (Quiet.refl c).settled
  refine ensures_bind.mpr (ensures_lift.mpr fun looking healthy hlook => ensures_bind.mpr ?_)
  have hlooked : Quiet c looking c := Effect.Does.quiet (.health hlook) rfl
  refine ensures_onRecords.mpr fun acting result hact => ?_
  simp only [← List.append_assoc]
  apply (hlooked.trans_settled (settled_actOnline hact)).ensures_calm
  refine .bind (.modify rfl (.noteActed _)) fun _ _ => .get (.note (.ite (.note ?_) (.pure _)))
  exact .modify rfl (.noteConnected _)

/-- Being online is the actions after a connection and a look for an update. -/
theorem settled_online (moment : Moment) :
    (online moment).Ensures c fun trace _ after => Settled c trace after := by
  refine ensures_bind.mpr ((settled_afterConnect moment).mono fun acting _ between hacted => ?_)
  apply hacted.ensures_calm
  refine .bind (.ask rfl) fun offered _ => ?_
  extract_lets rest
  have hrest : ∀ c, Within Effect.isCalm (rest ()) c := fun c => .get (.pure _)
  exact .ite (.bind (.modify rfl (.markUpdate _ true)) fun _ c => hrest c) (hrest _)

/-- Coming online settles the count of resets, if it comes to the actions after the connection. -/
theorem settled_connecting (moment : Moment) :
    (connecting moment).Ensures c fun trace _ after => Settled c trace after := by
  refine (ensures_comesOnline moment).mono fun trace outcome after h => ?_
  cases h with
  | waits hlook =>
    have hlooked : Quiet c _ _ := Effect.Does.quiet (.connect hlook) rfl
    exact hlooked.settled
  | @givesUp looking forcing connect _ hlook hforce =>
    have hgave : Effects Effect.isQuiet c (looking ++ forcing) _ :=
      .cons rfl (.connect hlook) (.cons rfl (.raise _ .connectTimeout moment.now) (.single rfl (.radioOff hforce)))
    exact (hgave.quiet fun _ => id).settled
  | online hlook _ honline =>
    have hlooked : Quiet c _ _ := Effect.Does.quiet (.connect hlook) rfl
    exact hlooked.trans_settled (settled_online moment honline)

/-! ## The error state -/

/-- The ladder makes no reset itself, and a decision that it comes to is one that may be carried out. -/
theorem settled_consultLadder (moment : Moment) :
    (consultLadder moment).Ensures c fun trace _ after => Settled c trace after := by
  rw [consultLadder, ensures_get_bind, ensures_logged_bind]
  refine ensures_modify_bind.mpr (ensures_ite.mpr ⟨fun _ => ?_, fun hreset => ?_⟩)
  · have hsettle : Quiet c [] _ := Effect.Does.quiet (.settle c moment) rfl
    apply hsettle.ensures_quiet
    exact .bind (.modify rfl (.putOff _ _)) fun _ _ => .pure _
  · rw [ensures_logged_bind, ensures_modify_bind, ensures_pure]
    refine ⟨fun _ resolution uptimeMs hdecision => ?_, fun _ h => absurd h List.not_mem_nil, ?_⟩
    · obtain ⟨rfl, -⟩ := Prod.mk.inj (Option.some.inj hdecision)
      have hlt : (c.recoveryContext moment).resetCount.toNat < 4 := lt_four_of_resolveAlert hreset
      exact ⟨hreset, hlt⟩
    · exact .inl ⟨fun _ h => absurd h List.not_mem_nil, rfl⟩

end Controller

/-- How many of the calls were resets. -/
def resetsIn (calls : List Exchange) : Nat := calls.countP (·.call.isReset)

/-- Resets are counted part by part. -/
theorem resetsIn_append (trace rest : List Exchange) :
    resetsIn (trace ++ rest) = resetsIn trace + resetsIn rest :=
  List.countP_append

/-- None are counted where no call is one. -/
theorem resetsIn_eq_zero {trace : List Exchange} (h : ∀ exchange ∈ trace, exchange.call.isReset = false) :
    resetsIn trace = 0 := by
  rw [resetsIn, List.countP_eq_zero]
  intro exchange hmem
  rw [h exchange hmem]
  exact Bool.false_ne_true

/-- One reset, while fewer than four were counted, and counted in its turn; no health published. -/
structure Recovered (before : Controller) (trace : List Exchange) (after : Controller) : Prop where
  allowed : before.config.value.resetCount.toNat < 4
  count : after.config.value.resetCount.toNat = before.config.value.resetCount.toNat + 1
  once : resetsIn trace = 1
  unpublished : ∀ exchange ∈ trace, exchange.call.isStatus = false

variable {before between after : Controller} {trace rest : List Exchange}

/-- What is quiet makes no reset. -/
theorem Quiet.resetsIn_eq_zero (h : Quiet before trace after) : resetsIn trace = 0 :=
  FieldCounter.resetsIn_eq_zero fun exchange hmem => (h.calls exchange hmem).1

/-- What is quiet may come before the reset. -/
theorem Quiet.trans_recovered (h : Quiet before trace between) (hrest : Recovered between rest after) :
    Recovered before (trace ++ rest) after where
  allowed := by
    rw [← h.count]
    exact hrest.allowed
  count := by
    rw [← h.count]
    exact hrest.count
  once := by rw [resetsIn_append, h.resetsIn_eq_zero, hrest.once]
  unpublished := by
    intro exchange hmem
    rcases List.mem_append.mp hmem with hfirst | hlast
    · exact (h.calls exchange hfirst).2
    · exact hrest.unpublished exchange hlast

/-- What is quiet may come after the reset. -/
theorem Recovered.trans_quiet (h : Recovered before trace between) (hrest : Quiet between rest after) :
    Recovered before (trace ++ rest) after where
  allowed := h.allowed
  count := by
    rw [hrest.count]
    exact h.count
  once := by rw [resetsIn_append, h.once, hrest.resetsIn_eq_zero]
  unpublished := by
    intro exchange hmem
    rcases List.mem_append.mp hmem with hfirst | hlast
    · exact h.unpublished exchange hfirst
    · exact (hrest.calls exchange hlast).2

namespace Controller

open Step

variable {c : Controller}

/-- A reset is counted and the count written before it is made. -/
theorem recovered_recover {resolution : Resolution} (hreset : resolution ≠ .noAction)
    (hlt : c.config.value.resetCount.toNat < 4) :
    (recover resolution).Ensures c fun trace outcome after => outcome = .restart ∧ Recovered c trace after := by
  refine ensures_modify_bind.mpr (ensures_bind.mpr fun writing result hflush => ?_)
  obtain ⟨hquiet, _⟩ := quiet_flush hflush
  have hcount : result.2.config.value.resetCount.toNat = c.config.value.resetCount.toNat + 1 := by
    rw [hquiet.count]
    show (bumpByte c.config.value.resetCount).toNat = _
    rw [toNat_bumpByte]
    omega
  have hrecovered : ∀ call : Call, ∀ answer, call.isReset = true → call.isStatus = false →
      Recovered c (writing ++ [⟨call, answer⟩]) result.2 := by
    intro call answer hcall hstatus
    refine ⟨hlt, hcount, ?_, ?_⟩
    · rw [resetsIn_append, hquiet.resetsIn_eq_zero]
      simp [resetsIn, hcall]
    · intro exchange hmem
      rcases List.mem_append.mp hmem with hfirst | hlast
      · exact (hquiet.calls exchange hfirst).2
      · rw [List.mem_singleton.mp hlast]
        exact hstatus
  rw [ensures_get_bind, ensures_logged_bind]
  cases resolution with
  | noAction => exact absurd rfl hreset
  | softReset =>
    exact ensures_call_bind.mpr fun answer => ensures_pure.mpr ⟨rfl, hrecovered .softReset answer rfl rfl⟩
  | hardPowerCycle =>
    exact ensures_call_bind.mpr fun answer => ensures_pure.mpr ⟨rfl, hrecovered .hardPowerCycle answer rfl rfl⟩

/-- The error state makes at most one reset in a tick, and then ends in a restart. -/
theorem ensures_rescuing (moment : Moment) (hprudent : c.Prudent) :
    (rescuing moment).Ensures c fun trace outcome after =>
      Settled c trace after ∨ outcome = .restart ∧ Recovered c trace after := by
  rw [rescuing, ensures_get_bind]
  cases hdecision : c.decision with
  | some decision =>
    obtain ⟨hreset, hlt⟩ := hprudent _ _ hdecision
    refine ensures_ite.mpr ⟨fun _ => ensures_pure.mpr (.inl (Quiet.refl c).settled), fun _ => ?_⟩
    exact (recovered_recover hreset hlt).mono fun _ _ _ => .inr
  | none =>
    have hstep : Within Effect.isQuiet (stepDisconnect moment) c := within_stepDisconnect rfl
    refine ensures_bind.mpr (Ensures.mono hstep fun stepping progress between hstepped => ?_)
    have hquiet : Quiet c stepping between := hstepped.quiet fun _ => id
    refine ensures_ite.mpr ⟨fun _ => ?_, fun _ => ?_⟩
    · exact (hquiet.ensures_quiet (.pure _)).mono fun _ _ _ => .inl
    · exact (settled_consultLadder moment).mono fun _ _ _ hsettled => .inl (hquiet.trans_settled hsettled)

/-! ## The tick -/

/-- Carrying out a state settles the count at most, or makes one reset. -/
theorem ensures_carryOut (moment : Moment) (hprudent : c.Prudent) :
    (carryOut moment).Ensures c fun trace outcome after =>
      Settled c trace after ∨ outcome = .restart ∧ Recovered c trace after := by
  by_cases herror : c.runState = .error
  · rw [carryOut, ensures_get_bind, herror]
    exact ensures_rescuing moment hprudent
  · by_cases hconnecting : c.runState = .connecting
    · rw [carryOut, ensures_get_bind, hconnecting]
      exact (settled_connecting moment).mono fun _ _ _ => .inl
    · refine Ensures.mono (within_carryOut moment) fun _ _ _ heffects => .inl ?_
      exact (heffects.quiet fun _ => RunState.isQuiet_of_has herror hconnecting).settled

/-- A tick makes no reset and settles the count at most, or it makes one reset and the device
restarts. -/
theorem tick_settles {after : Controller} {trace : List Exchange} {control : Control}
    (h : Path (tick.run c) trace (control, after)) (hprudent : c.Prudent) :
    Settled c trace after ∨ control = .restart ∧ Recovered c trace after := by
  obtain ⟨moment, opening, entered, middle, outcome, carried, closing, hopen, hcarry, hflush, rfl, rfl⟩ :=
    tick_cases h
  have hread : Quiet c [⟨.readClock, moment⟩] c := Effect.Does.quiet (.ask c .readClock moment) rfl
  have hopened : Quiet c ([⟨.readClock, moment⟩] ++ opening) entered :=
    hread.trans (hopen.quiet fun _ heffect => Effect.isQuiet_of_isCalm (Effect.isCalm_of_opens heffect))
  have hfollow : Effects Effect.isCalm carried [] (carried.following outcome) :=
    effects_following rfl carried outcome
  obtain ⟨hwritten, halert⟩ := quiet_flush hflush
  have hclosed : Quiet carried closing after :=
    (hfollow.quiet fun _ => Effect.isQuiet_of_isCalm).trans hwritten
  rcases ensures_carryOut moment (hopened.prudent hprudent) hcarry with hsettled | ⟨rfl, hrecovered⟩
  · have hslot := halert.trans (hfollow.alert_eq fun _ => id)
    exact .inl ((hopened.trans_settled hsettled).trans_quiet hclosed hslot)
  · exact .inr ⟨rfl, (hopened.trans_recovered hrecovered).trans_quiet hclosed⟩

end Controller

end FieldCounter
