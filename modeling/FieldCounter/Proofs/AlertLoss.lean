import FieldCounter.Proofs.ErrorState
import FieldCounter.Proofs.OnlineActions
import FieldCounter.Proofs.Script
import FieldCounter.Proofs.Teardown

/-!
# How an alert goes off show

An alert on show gives way to one that is as severe, and on a few occasions it is lifted: a connection cures
the alerts that speak of a lost one, a fresh webhook answer the one for a silent webhook, a radio that is
down the fault of the modem, a restart out of a deep sleep the fault of the sleep, and in the error state
the faults that are none in the present mode are dismissed. On no other occasion does a tick leave the slot
empty or with a less severe alert.
-/

namespace FieldCounter

open Program (Path)

namespace AlertSlot

variable {slot : AlertSlot} {alert : Alert}

/-- The slot shows the alert, or one that is as severe. -/
def Covers (slot : AlertSlot) (alert : Alert) : Prop :=
  ∃ shown, slot.current = some shown ∧ alert.severity ≤ shown.severity

/-- An alert on show covers itself. -/
theorem covers_of_current (h : slot.current = some alert) : slot.Covers alert := ⟨alert, h, Nat.le_refl _⟩

/-- Another alert takes the slot only where it is as severe as the one on show. -/
theorem Covers.raise (h : slot.Covers alert) (other : Alert) (now : UInt32) :
    (slot.raise other now).value.Covers alert := by
  obtain ⟨shown, hcurrent, hle⟩ := h
  rw [value_raise]
  split
  · rename_i haccepts
    simp only [accepts, hcurrent, Option.all_some, decide_eq_true_eq] at haccepts
    exact ⟨other, current_mk_code other now, Nat.le_trans hle haccepts⟩
  · exact ⟨shown, hcurrent, hle⟩

/-- Clearing a less severe alert leaves it on show. -/
theorem Covers.clearIf (h : slot.Covers alert) {other : Alert} (hlt : other.severity < alert.severity) :
    (slot.clearIf (· == other)).value.Covers alert := by
  obtain ⟨shown, hcurrent, hle⟩ := h
  have hother : shown ≠ other := by
    rintro rfl
    exact Nat.not_le_of_lt hlt hle
  rw [value_clearIf, if_neg (by simpa [shows, hcurrent] using hother)]
  exact ⟨shown, hcurrent, hle⟩

/-- An alert that is raised on a condition leaves what is covered covered. -/
theorem Covers.raiseIf (h : slot.Covers alert) (due : Bool) (other : Alert) (now : UInt32) :
    (slot.raiseIf due other now).Covers alert := by
  unfold AlertSlot.raiseIf
  split
  · exact h.raise other now
  · exact h

/-- So does a reading of the battery, whatever it raises. -/
theorem Covers.afterReading (h : slot.Covers alert) (now : UInt32) (reading : BatteryReading) :
    (slot.afterReading now reading).Covers alert := by
  unfold AlertSlot.afterReading
  split
  · exact h.raiseIf true _ now
  · exact h

/-- A clear that does not hold for the alert on show leaves it there. -/
theorem covers_clearIf_of_current {p : Alert → Bool} (h : slot.current = some alert) (hp : p alert = false) :
    (slot.clearIf p).value.Covers alert := by
  rw [value_clearIf, if_neg (by simp [shows, h, hp])]
  exact covers_of_current h

/-- The alert for a silent webhook is the least severe of all. -/
theorem webhookStale_lt (h : alert ≠ .webhookStale) : Alert.webhookStale.severity < alert.severity := by
  cases alert <;> first | decide | exact absurd rfl h

/-- The actions after a connection lift the alerts for a lost one and, after a fresh answer, the one for a
silent webhook. -/
theorem covers_afterOnline {answers : OnlineAnswers} {applied : Bool} {now : UInt32}
    (h : slot.current = some alert) (hlocal : alert.isConnectivity = false)
    (hstale : alert = .webhookStale → answers.hookFresh now = false) :
    (slot.afterOnline answers applied now).Covers alert := by
  have hfailed := ((((covers_clearIf_of_current h hlocal).afterReading now answers.reading).raiseIf (!applied)
    .configApplyFailed now).raiseIf answers.dataFailed .dataPublishFailed now).raiseIf (!answers.sent)
    .statusPublishFailed now
  unfold afterOnline
  extract_lets failed
  split
  next hfresh =>
    refine Covers.clearIf hfailed (webhookStale_lt ?_)
    rintro rfl
    rw [hstale rfl] at hfresh
    cases hfresh
  next => exact hfailed

end AlertSlot

/-! ## Effects that lift nothing -/

/-- The effect may take an alert off show, and not only for one that is as severe. -/
def Effect.lifts : Effect → Bool
  | .clear _ | .settle | .actOnline => true
  | _ => false

/-- The effect lifts no alert. -/
def Effect.spares (effect : Effect) : Bool := !effect.lifts

section

variable {alert : Alert} {before after : Controller} {trace : List Exchange}

/-- An effect that lifts no alert leaves it covered. -/
theorem Effect.Does.covers {effect : Effect} (h : effect.Does before trace after) (hspares : effect.spares = true)
    (hcovers : before.status.value.alert.Covers alert) : after.status.value.alert.Covers alert := by
  by_cases htouches : effect.touchesSlot = true
  · cases h with
    | battery c reading now =>
      rw [Controller.setStatus, RuntimeStatus.value_updateBattery]
      exact hcovers.afterReading now reading
    | raise c other now => exact hcovers.raise other now
    | @reload _ now _ _ records hpath =>
      obtain ⟨answer, _, _, halert⟩ := Records.ensures_reloadRemote now hpath
      show records.status.alert.Covers alert
      rw [halert]
      exact hcovers.raiseIf _ .configApplyFailed now
    | clear | settle | actOnline => cases hspares
    | _ => cases htouches
  · rwa [h.alert_eq_of_untouched (Bool.eq_false_iff.mpr htouches)]

/-- So does a row of them. -/
theorem Effects.covers {allowed : Effect → Bool} (h : Effects allowed before trace after)
    (hspares : ∀ effect, allowed effect = true → effect.spares = true)
    (hcovers : before.status.value.alert.Covers alert) : after.status.value.alert.Covers alert := by
  induction h with
  | none c => exact hcovers
  | cons hallowed hdoes _ ih => exact ih (hdoes.covers (hspares _ hallowed) hcovers)

/-- A step of such effects leaves the alert on show, or what hides it. -/
theorem Step.Within.covers {α : Type} {x : Step α} {c : Controller} (h : Step.Within Effect.spares x c)
    (hcovers : c.status.value.alert.Covers alert) :
    x.Ensures c fun _ _ after => after.status.value.alert.Covers alert :=
  Step.Ensures.mono h fun _ _ _ heffects => heffects.covers (fun _ => id) hcovers

end

namespace Effect

variable {effect : Effect}

/-- Going to sleep lifts no alert. -/
theorem spares_of_sleeps (h : effect.sleeps = true) : effect.spares = true := by
  unfold sleeps at h
  split at h <;> first | rfl | cases h

end Effect

/-! ## The states -/

/-- The occasions on which a tick lifts an alert off show. -/
inductive Controller.LiftsAlert (before : Controller) (calls : List Exchange) (after : Controller) : Alert → Prop where
  /-- The actions after a connection cure the alerts that speak of a lost one. -/
  | connected {alert : Alert} {answers : OnlineAnswers} : alert = .connectTimeout ∨ alert = .prolongedOffline →
      answers.calls <:+: calls → LiftsAlert before calls after alert
  /-- In the course of these actions, an answer that is not too old cures the alert for a silent webhook. -/
  | answered {answers : OnlineAnswers} {moment : Moment} {rest : List Exchange} :
      calls = ⟨.readClock, moment⟩ :: rest → answers.calls <:+: calls → answers.hookFresh moment.now = true →
      LiftsAlert before calls after .webhookStale
  /-- The radio is reported to be down. -/
  | poweredDown : before.TeardownReports .done calls → LiftsAlert before calls after .modemFault
  /-- The device restarted out of a deep sleep. -/
  | woken : before.runState = .initialization → ⟨.resetReason, .deepSleepWake⟩ ∈ calls →
      LiftsAlert before calls after .sleepFault
  /-- The error state is left, and the alert is no fault in the present mode. -/
  | dismissed {alert : Alert} : before.runState = .error → after.runState = .idle →
      before.config.value.operatingMode ≠ .connected →
      alert ∈ ([.modemFault, .sleepFault, .connectTimeout, .prolongedOffline] : List Alert) →
      LiftsAlert before calls after alert

namespace Controller

open Step

variable {c : Controller} {alert : Alert}

/-- The first tick of a boot lifts the fault of a deep sleep, where the device restarted out of one. -/
theorem ensures_startUp_covers (moment : Moment) (h : c.status.value.alert.current = some alert) :
    (startUp moment).Ensures c fun trace _ after =>
      after.status.value.alert.Covers alert ∨ alert = .sleepFault ∧ ⟨.resetReason, .deepSleepWake⟩ ∈ trace := by
  refine ensures_call_bind.mpr fun reason => ensures_get_bind.mpr (ensures_logged_bind.mpr ?_)
  extract_lets rest sense clear
  have hrest : ∀ c, Within Effect.spares (rest ()) c := by
    intro c
    refine .bind (.ask rfl) fun pressed _ => .bind (.ask rfl) fun held _ => .get (.ite (.pure _) ?_)
    exact .note (.pure _)
  have hsense : ∀ c : Controller, c.status.value.alert.Covers alert → (sense ()).Ensures c fun _ _ after =>
      after.status.value.alert.Covers alert := by
    intro c
    apply Within.covers
    refine .bind (within_checkBattery rfl) fun _ _ => .get (.ite ?_ (hrest _))
    exact .bind (within_ensureSensor rfl rfl) fun _ c => hrest c
  have hclear : ∀ c : Controller, c.status.value.alert.current = some alert →
      (clear ()).Ensures c fun trace _ after => after.status.value.alert.Covers alert ∨
        alert = .sleepFault ∧ ⟨.resetReason, .deepSleepWake⟩ ∈ (⟨.resetReason, reason⟩ :: trace : List Exchange) := by
    intro c hcurrent
    refine ensures_ite.mpr ⟨fun hwoken => ?_, fun _ => ?_⟩
    · by_cases hsleep : alert = .sleepFault
      · rw [hwoken]
        exact fun _ _ _ => .inr ⟨hsleep, List.mem_cons_self⟩
      · have hkept := AlertSlot.covers_clearIf_of_current (p := (· == .sleepFault)) hcurrent (by simpa using hsleep)
        refine ensures_bind.mpr (ensures_get_bind.mpr (ensures_bind.mpr (ensures_updateStatus.mpr ?_)))
        refine ensures_pure.mpr (ensures_ite.mpr ⟨fun _ => ensures_logged_bind.mpr ?_, fun _ => ?_⟩)
        all_goals exact (hsense _ hkept).mono fun _ _ _ => .inl
    · exact (hsense c (AlertSlot.covers_of_current hcurrent)).mono fun _ _ _ => .inl
  refine ensures_ite.mpr ⟨fun _ => ensures_logged_bind.mpr (ensures_modify_bind.mpr ?_), fun _ => hclear c h⟩
  exact hclear { c with suppressWebhookAlert := true } h

/-- Among the calls are those of actions after a connection that lift the alert. -/
def CuredOnline (alert : Alert) (now : UInt32) (calls : List Exchange) : Prop :=
  ∃ answers : OnlineAnswers, answers.calls <:+: calls ∧
    (alert.isConnectivity = true ∨ alert = .webhookStale ∧ answers.hookFresh now = true)

/-- Calls around those that lift the alert make no difference. -/
theorem CuredOnline.append {now : UInt32} {calls : List Exchange} (h : CuredOnline alert now calls)
    (first rest : List Exchange) : CuredOnline alert now (first ++ calls ++ rest) := by
  obtain ⟨answers, hinfix, hcause⟩ := h
  exact ⟨answers, hinfix.trans (List.infix_append first calls rest), hcause⟩

/-- The actions after a connection lift the alert only for such a cause. -/
theorem ensures_afterConnect_covers (moment : Moment) (h : c.status.value.alert.current = some alert) :
    (afterConnect moment).Ensures c fun trace _ after =>
      after.status.value.alert.Covers alert ∨ CuredOnline alert moment.now trace := by
  refine ensures_get_bind.mpr (ensures_ite.mpr ⟨fun _ => ensures_pure.mpr ?_, fun _ => ?_⟩)
  · exact .inl (AlertSlot.covers_of_current h)
  refine ensures_bind.mpr (ensures_lift.mpr fun looking healthy _ => ensures_bind.mpr ?_)
  refine ensures_onRecords.mpr ((ensures_actOnline _ _ _ _).mono ?_)
  rintro _ ⟨summary, records⟩ ⟨answers, rfl, _, halert, _⟩
  by_cases hcured : alert.isConnectivity = true ∨ alert = .webhookStale ∧ answers.hookFresh moment.now = true
  · intro rest _ _
    have hcause : CuredOnline alert moment.now answers.calls := ⟨answers, List.infix_refl _, hcured⟩
    have hwhole := hcause.append looking rest
    rw [List.append_assoc] at hwhole
    exact .inr hwhole
  · obtain ⟨hlocal, hstale⟩ := not_or.mp hcured
    have hkept : (c.setRecords records).status.value.alert.Covers alert := by
      show records.status.alert.Covers alert
      rw [halert]
      exact AlertSlot.covers_afterOnline h (Bool.eq_false_iff.mpr hlocal)
        fun heq => Bool.eq_false_iff.mpr fun hfresh => hstale ⟨heq, hfresh⟩
    refine Ensures.mono (Within.covers ?_ hkept) fun _ _ _ => .inl
    refine .bind (.modify rfl (.noteActed _)) fun _ _ => .get (.note (.ite (.note ?_) (.pure _)))
    exact .modify rfl (.noteConnected _)

/-- Being online leaves an alert covered, unless it was cured there. -/
theorem ensures_online_covers (moment : Moment) (h : c.status.value.alert.current = some alert) :
    (online moment).Ensures c fun trace _ after =>
      after.status.value.alert.Covers alert ∨ CuredOnline alert moment.now trace := by
  refine ensures_bind.mpr ((ensures_afterConnect_covers moment h).mono fun acting _ between hacted => ?_)
  rcases hacted with hcovers | hcured
  · refine Ensures.mono (Within.covers (.bind (.ask rfl) fun offered _ => ?_) hcovers) fun _ _ _ => .inl
    extract_lets rest
    have hrest : ∀ c, Within Effect.spares (rest ()) c := fun c => .get (.pure _)
    exact .ite (.bind (.modify rfl (.markUpdate _ true)) fun _ c => hrest c) (hrest _)
  · exact fun rest _ _ => .inr (hcured.append [] rest)

/-- Coming online lifts no other alert. -/
theorem ensures_connecting_covers (moment : Moment) (h : c.status.value.alert.current = some alert) :
    (connecting moment).Ensures c fun trace _ after =>
      after.status.value.alert.Covers alert ∨ CuredOnline alert moment.now trace := by
  refine (ensures_comesOnline moment).mono fun trace outcome after hcomes => ?_
  cases hcomes with
  | waits => exact .inl (AlertSlot.covers_of_current h)
  | givesUp => exact .inl ((AlertSlot.covers_of_current h).raise .connectTimeout moment.now)
  | @online looking rest connect _ _ _ _ _ honline =>
    have hstarted : ({ c with connect } : Controller).status.value.alert.current = some alert := h
    refine (ensures_online_covers moment hstarted honline).imp_right fun hcured => ?_
    have hwhole := hcured.append looking []
    rwa [List.append_nil] at hwhole

/-- The ladder dismisses an alert that is no fault in the present mode, and keeps any other. -/
theorem resolveAlert_covers {context : RecoveryContext} {resolution : Resolution} {slot : AlertSlot}
    (hcurrent : c.status.value.alert.current = some alert)
    (h : (resolveAlert c.status.value.alert context).value = (resolution, slot)) :
    slot.Covers alert ∨ resolution = .noAction ∧ alert.onlyInConnectedMode = true ∧ context.mode ≠ .connected := by
  rw [value_resolveAlert, hcurrent] at h
  dsimp only at h
  split at h
  next hforeign =>
    obtain ⟨honly, hmode⟩ := Bool.and_eq_true_iff.mp hforeign
    exact .inr ⟨(congrArg Prod.fst h).symm, honly, bne_iff_ne.mp hmode⟩
  next =>
    obtain ⟨_, rfl⟩ := Prod.mk.inj h
    exact .inl (AlertSlot.covers_of_current hcurrent)

/-- So does the error state, which leads back to idling then, unless it is about a reset already. -/
theorem ensures_rescuing_covers (moment : Moment) (h : c.status.value.alert.current = some alert) :
    (rescuing moment).Ensures c fun _ outcome after =>
      after.status.value.alert.Covers alert ∨ outcome = .moveTo .idle ∧ alert.onlyInConnectedMode = true ∧
        c.config.value.operatingMode ≠ .connected := by
  have hcovers := AlertSlot.covers_of_current h
  refine (ensures_attends moment).mono fun trace outcome after hattends => ?_
  cases hattends with
  | looks | waits => exact .inl hcovers
  | dismisses _ _ _ hresolution =>
    exact (resolveAlert_covers h hresolution).imp_right fun hdismissed => ⟨rfl, hdismissed.2⟩
  | decides _ _ _ hresolution hreset =>
    exact .inl ((resolveAlert_covers h hresolution).resolve_right fun hdismissed => hreset hdismissed.1)
  | recovers _ _ hrecovers =>
    cases hrecovers with
    | idles _ hflush | resets _ _ _ hflush =>
      rw [(quiet_flush hflush).2]
      exact .inl hcovers

/-- Sleeping lifts the fault of the modem, where the radio is down. -/
theorem TurnsIn.covers {moment : Moment} {trace : List Exchange} {outcome : Outcome} {after : Controller}
    (hturns : TurnsIn c moment trace outcome after) (h : c.status.value.alert.current = some alert) :
    after.status.value.alert.Covers alert ∨ alert = .modemFault ∧
      ∃ looking stepping rest disconnect, Unheld looking ∧
        Path (c.teardown moment) stepping (.done, disconnect) ∧ trace = looking ++ stepping ++ rest := by
  have hcovers := AlertSlot.covers_of_current h
  have hsleeps : ∀ {ready : Controller} {rest outcome after},
      Path ((sleepNow moment).run ready) rest (outcome, after) → ready.status.value.alert.Covers alert →
      after.status.value.alert.Covers alert := by
    intro ready rest outcome after hsleep hready
    have heffects : Effects Effect.sleeps ready rest after := within_sleepNow moment hsleep
    exact heffects.covers (fun _ => Effect.spares_of_sleeps) hready
  cases hturns with
  | opened | held | waits => exact .inl hcovers
  | stuck => exact .inl (hcovers.raise .modemFault moment.now)
  | overdue _ _ _ hsleep => exact .inl (hsleeps hsleep hcovers)
  | @down looking stepping rest disconnect _ _ _ hlooking hstep hsleep =>
    by_cases hmodem : alert = .modemFault
    · exact .inr ⟨hmodem, looking, stepping, rest, disconnect, hlooking, hstep, rfl⟩
    · exact .inl (hsleeps hsleep (AlertSlot.covers_clearIf_of_current h (by simpa using hmodem)))

/-- What each state lifts an alert for. -/
def Cures (c : Controller) (moment : Moment) (trace : List Exchange) (outcome : Outcome) (alert : Alert) : Prop :=
  match c.runState with
  | .initialization => alert = .sleepFault ∧ ⟨.resetReason, .deepSleepWake⟩ ∈ trace
  | .connecting => CuredOnline alert moment.now trace
  | .error => outcome = .moveTo .idle ∧ alert.onlyInConnectedMode = true ∧
      c.config.value.operatingMode ≠ .connected
  | .sleeping => alert = .modemFault ∧ ∃ looking stepping rest disconnect, Unheld looking ∧
      Path (c.teardown moment) stepping (.done, disconnect) ∧ trace = looking ++ stepping ++ rest
  | .idle | .reporting | .firmwareUpdate => False

/-- The other states have no effect that lifts an alert. -/
theorem spares_of_has {state : RunState} {effect : Effect} (h : state.has effect = true)
    (hstate : state = .idle ∨ state = .reporting ∨ state = .firmwareUpdate) : effect.spares = true := by
  rcases hstate with rfl | rfl | rfl
  all_goals
    dsimp only [RunState.has] at h
    split at h <;> first | rfl | cases h

/-- Every state leaves an alert covered, but for what it lifts it for. -/
theorem ensures_carryOut_covers (moment : Moment) (h : c.status.value.alert.current = some alert) :
    (carryOut moment).Ensures c fun trace outcome after =>
      after.status.value.alert.Covers alert ∨ c.Cures moment trace outcome alert := by
  have hcovers := AlertSlot.covers_of_current h
  rw [carryOut, ensures_get_bind]
  unfold Cures
  cases c.runState with
  | initialization => exact ensures_startUp_covers moment h
  | connecting => exact ensures_connecting_covers moment h
  | error => exact ensures_rescuing_covers moment h
  | sleeping => exact (ensures_turnsIn moment).mono fun _ _ _ hturns => hturns.covers h
  | idle =>
    refine Ensures.mono (within_idle moment) fun _ _ _ heffects => .inl ?_
    exact heffects.covers (fun _ hhas => spares_of_has hhas (.inl rfl)) hcovers
  | reporting =>
    refine Ensures.mono (within_reporting moment) fun _ _ _ heffects => .inl ?_
    exact heffects.covers (fun _ hhas => spares_of_has hhas (.inr (.inl rfl))) hcovers
  | firmwareUpdate =>
    refine Ensures.mono (within_updating moment) fun _ _ _ heffects => .inl ?_
    exact heffects.covers (fun _ hhas => spares_of_has hhas (.inr (.inr rfl))) hcovers

/-! ## Ticks -/

/-- The alerts that are faults in connected mode only are four. -/
theorem mem_of_onlyInConnectedMode (h : alert.onlyInConnectedMode = true) :
    alert ∈ ([.modemFault, .sleepFault, .connectTimeout, .prolongedOffline] : List Alert) := by
  cases alert <;> first | decide | cases h

/-- Two alerts speak of a lost connection. -/
theorem eq_of_isConnectivity (h : alert.isConnectivity = true) :
    alert = .connectTimeout ∨ alert = .prolongedOffline := by
  cases alert <;> first | decide | cases h

/-- A tick leaves the alert on show, or what hides it, unless it lifts it. -/
theorem covers_or_lifts {before after : Controller} {calls : List Exchange} {control : Control}
    (hpath : Path (tick.run before) calls (control, after)) (h : before.status.value.alert.current = some alert) :
    after.status.value.alert.Covers alert ∨ before.LiftsAlert calls after alert := by
  obtain ⟨moment, marked, polling, polled, middle, outcome, carried, closing, hpoll, hcarry, hflush, _, rfl⟩ :=
    tick_parts hpath
  have hopened : (before.opened (marked || polled) moment).status.value.alert.current = some alert := by
    rwa [alert_opened]
  have hcarried : carried.status.value.alert.Covers alert ∨
      (before.opened (marked || polled) moment).Cures moment middle outcome alert :=
    ensures_carryOut_covers moment hopened hcarry
  have hafter : after.status.value.alert = carried.status.value.alert := by
    rw [(quiet_flush hflush).2]
    cases outcome <;> rfl
  rw [hafter]
  refine hcarried.imp_right fun hcures => ?_
  unfold Cures at hcures
  rw [runState_opened] at hcures
  cases hstate : before.runState with
  | initialization =>
    rw [hstate] at hcures
    obtain ⟨rfl, hwoken⟩ := hcures
    exact .woken hstate (by simp [hwoken])
  | connecting =>
    rw [hstate] at hcures
    obtain ⟨answers, hinfix, hcause⟩ := hcures.append
      (⟨.readClock, moment⟩ :: ⟨.takeSensorFlag, marked⟩ :: polling) closing
    rcases hcause with hlost | ⟨rfl, hfresh⟩
    · exact .connected (eq_of_isConnectivity hlost) hinfix
    · exact .answered rfl hinfix hfresh
  | error =>
    rw [hstate] at hcures
    obtain ⟨rfl, honly, hmode⟩ := hcures
    rw [config_opened] at hmode
    have hwrites : Effects Effect.writes (carried.following (.moveTo .idle)) closing after :=
      within_flush_writes hflush
    exact .dismissed hstate (hwrites.runState_eq rfl) hmode (mem_of_onlyInConnectedMode honly)
  | sleeping =>
    rw [hstate] at hcures
    obtain ⟨rfl, looking, stepping, rest, disconnect, hlooking, hstep, rfl⟩ := hcures
    have hreports := (TeardownReports.mk marked rest hstate hpoll hlooking hstep).append closing
    exact .poweredDown hreports
  | idle | reporting | firmwareUpdate =>
    rw [hstate] at hcures
    exact hcures.elim

end Controller

/-! ## Runs -/

/-- The event is a tick that lifts the alert on show, which is at least as severe as the one given. -/
def Event.LiftsOver (alert : Alert) : Event → Prop
  | .tick before calls _ after => ∃ shown, before.status.value.alert.current = some shown ∧
      alert.severity ≤ shown.severity ∧ before.LiftsAlert calls after shown
  | .boot _ _ | .raise _ _ => False

/-- What covers an alert covers a less severe one, too. -/
theorem AlertSlot.Covers.of_le {slot : AlertSlot} {alert shown : Alert} (h : slot.Covers shown)
    (hle : alert.severity ≤ shown.severity) : slot.Covers alert := by
  obtain ⟨other, hcurrent, hshown⟩ := h
  exact ⟨other, hcurrent, Nat.le_trans hle hshown⟩

/-- An event other than a boot leaves on show what hides the alert, unless it lifts it. -/
theorem Event.Leads.covers {event : Event} {c next : Controller} {alert : Alert}
    (hleads : event.Leads (some c) (some next)) (hboot : event.isBoot = false)
    (hcovers : c.status.value.alert.Covers alert) :
    next.status.value.alert.Covers alert ∨ event.LiftsOver alert := by
  obtain ⟨shown, hcurrent, hle⟩ := hcovers
  generalize hbefore : some c = before, hafter : some next = after at hleads
  cases hleads with
  | boot => cases hboot
  | @tick before after calls control hpath =>
    obtain rfl := Option.some.inj hbefore
    cases control with
    | proceed =>
      obtain rfl := Option.some.inj hafter
      exact (Controller.covers_or_lifts hpath hcurrent).imp (fun hcovers => hcovers.of_le hle)
        fun hlifts => ⟨shown, hcurrent, hle, hlifts⟩
    | restart => cases hafter
  | raise _ other now =>
    obtain rfl := Option.some.inj hbefore
    obtain rfl := Option.some.inj hafter
    exact .inl (AlertSlot.Covers.raise ⟨shown, hcurrent, hle⟩ other now)

/-- From one boot to the next, an alert is on show or hidden until a tick lifts it, or what hides it. -/
theorem Run.covers {state last : Option Controller} {history : List Event} {alert : Alert}
    (hrun : Run state history last) (hboot : ∀ event ∈ history, event.isBoot = false) {c next : Controller}
    (hstart : c ∈ state) (hlast : next ∈ last) (hcovers : c.status.value.alert.Covers alert) :
    next.status.value.alert.Covers alert ∨ ∃ event ∈ history, event.LiftsOver alert := by
  induction hrun generalizing c with
  | nil state =>
    obtain rfl := Option.some.inj (hstart.symm.trans hlast)
    exact .inl hcovers
  | @cons _ between _ event rest hleads hrest ih =>
    obtain rfl := Option.mem_def.mp hstart
    cases between with
    | none =>
      -- after a restart nothing but a boot can follow
      cases hrest with
      | nil => cases hlast
      | cons hnext _ =>
        cases hnext with
        | boot => cases hboot _ (List.mem_cons_of_mem event List.mem_cons_self)
    | some middle =>
      rcases hleads.covers (hboot event List.mem_cons_self) hcovers with hkept | hlifts
      · have hlater := ih (fun other hmem => hboot other (List.mem_cons_of_mem event hmem)) rfl hlast hkept
        exact hlater.imp_right fun ⟨other, hmem, hlifts⟩ => ⟨other, List.mem_cons_of_mem event hmem, hlifts⟩
      · exact .inr ⟨event, List.mem_cons_self, hlifts⟩

/-- No alert disappears silently. In every run, a tick leaves the alert that it finds on show there, or one that
is at least as severe, unless it lifts it on one of the occasions; and from one boot to the next, what is on show
stays at least as severe until a tick lifts it, or an alert that took its place. -/
theorem alert_kept_or_lifted {state last : Option Controller} {history : List Event}
    (hrun : Run state history last) :
    (∀ before calls control after alert, .tick before calls control after ∈ history →
      before.status.value.alert.current = some alert →
      after.status.value.alert.Covers alert ∨ before.LiftsAlert calls after alert) ∧
    ((∀ event ∈ history, event.isBoot = false) → ∀ c ∈ state, ∀ next ∈ last, ∀ alert,
      c.status.value.alert.current = some alert →
      next.status.value.alert.Covers alert ∨ ∃ before calls control after shown,
        .tick before calls control after ∈ history ∧ before.status.value.alert.current = some shown ∧
          alert.severity ≤ shown.severity ∧ before.LiftsAlert calls after shown) := by
  constructor
  · intro before calls control after alert hmem hcurrent
    obtain ⟨_, _, hleads⟩ := hrun.leads_of_mem hmem
    cases hleads with
    | tick hpath => exact Controller.covers_or_lifts hpath hcurrent
  · intro hboot c hstart next hlast alert hcurrent
    refine (hrun.covers hboot hstart hlast (AlertSlot.covers_of_current hcurrent)).imp_right ?_
    rintro ⟨event, hmem, hlifts⟩
    cases event with
    | tick before calls control after =>
      obtain ⟨shown, hshown, hle, hlifts⟩ := hlifts
      exact ⟨before, calls, control, after, shown, hmem, hshown, hle, hlifts⟩
    | boot => cases hlifts
    | raise => cases hlifts

/-- Devices so many seconds after noon, online, with the button held. -/
def Devices.held (secs : Nat) : Devices
  | .overrideAsserted => true
  | call => Devices.afterNoon secs true call

/-- A boot, and an alert from outside right after it. -/
def timedOutAtBoot : List Scene := [.boot (.afterNoon 0 true), .raise .connectTimeout 1699963200]

/-- The first two ticks of the boot, in which the device comes online. -/
def curedOnline : List Scene := [.tick (.held 1), .tick (.afterNoon 2 true)]

/-- In their course the alert is lifted. -/
theorem alert_lifted_curedOnline :
    ∃ start history last before calls control after shown,
      Run (some start) history (some last) ∧ (∀ event ∈ history, event.isBoot = false) ∧
      start.status.value.alert = ⟨31, 1699963200⟩ ∧ last.status.value.alert = .empty ∧
      .tick before calls control after ∈ history ∧ before.status.value.alert.current = some shown ∧
      Alert.connectTimeout.severity ≤ shown.severity ∧ before.LiftsAlert calls after shown := by
  have hsome : (live timedOutAtBoot none).2.isSome = true ∧
      (live curedOnline (live timedOutAtBoot none).2).2.isSome = true := by decide +kernel
  obtain ⟨start, hstart⟩ := Option.isSome_iff_exists.mp hsome.1
  obtain ⟨last, hlast⟩ := Option.isSome_iff_exists.mp hsome.2
  have hfacts : (∀ c ∈ (live timedOutAtBoot none).2, c.status.value.alert = ⟨31, 1699963200⟩) ∧
      (∀ c ∈ (live curedOnline (live timedOutAtBoot none).2).2, c.status.value.alert = .empty) ∧
      (live curedOnline (live timedOutAtBoot none).2).1.all (!·.isBoot) = true := by decide +kernel
  obtain ⟨hbefore, hafter, hboot⟩ := hfacts
  have hbefore := hbefore start hstart
  have hafter := hafter last hlast
  have hboot : ∀ event ∈ (live curedOnline (live timedOutAtBoot none).2).1, event.isBoot = false := by
    simpa using hboot
  have hrun := run_live curedOnline (live timedOutAtBoot none).2
  have hcurrent : start.status.value.alert.current = some .connectTimeout := by
    rw [hbefore]
    rfl
  have hgone : ¬last.status.value.alert.Covers .connectTimeout := by
    rw [hafter]
    rintro ⟨shown, hempty, _⟩
    cases hempty
  obtain ⟨before, calls, control, after, shown, hlifted⟩ :=
    ((alert_kept_or_lifted hrun).2 hboot start hstart last hlast .connectTimeout hcurrent).resolve_left hgone
  rw [hlast, hstart] at hrun
  rw [hstart] at hboot hlifted
  exact ⟨start, _, last, before, calls, control, after, shown, hrun, hboot, hbefore, hafter, hlifted⟩

end FieldCounter
