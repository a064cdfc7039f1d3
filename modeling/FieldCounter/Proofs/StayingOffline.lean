import FieldCounter.Proofs.Script
import FieldCounter.Proofs.WaysOnline

/-!
# A device that stays offline

In disconnected mode a device comes online only where something asks for it: a clock that is not set or an update
that waits at the boot, the button, a wake by the button, or an update that the radio offers. While it is not
online it fetches no settings, so the mode stays what it is, and without such an occasion the device is offline
from one boot to the next.
-/

namespace FieldCounter

open Program (Path)

/-- By the answer, someone or something asks for a connection. -/
def Exchange.prompts : Exchange → Bool
  | ⟨.takeButtonFlag, pressed⟩ => pressed
  | ⟨.overrideAsserted, held⟩ => held
  | ⟨.updateOffered, offered⟩ => offered
  | ⟨.timedSleep _ _, pins⟩ => pins.manual
  | _ => false

/-- A settled state uses no connection. -/
theorem RunState.usesConnection_of_isSettled {state : RunState} (h : state.isSettled = true) :
    state.usesConnection = false := by
  cases state <;> first | rfl | cases h

/-- Without a connection nothing is fetched, and none is asked for. -/
theorem RunState.ticks_of_usesConnection {state : RunState} (h : state.usesConnection = false) :
    state.ticks .actOnline = false ∧ state.ticks .reload = false ∧ state.ticks .connect = false ∧
      state.ticks (.ask .requestConnect) = false := by
  cases state <;> first | exact ⟨rfl, rfl, rfl, rfl⟩ | cases h

namespace Controller

open Step

variable {c after : Controller} {trace rest : List Exchange} {control : Control} {moment : Moment}

/-- While a device is offline, its mode stays and it asks for no connection. -/
theorem offline_of_tick (h : Path (tick.run c) trace (control, after)) (hstate : c.runState.usesConnection = false) :
    after.config.value.operatingMode = c.config.value.operatingMode ∧ connectRequests trace = 0 := by
  obtain ⟨before, closing, ready, heffects, hflush, rfl⟩ := effects_tick h
  have hall : Effects c.runState.ticks c (before ++ closing) after := heffects.append (within_flush rfl rfl hflush)
  obtain ⟨hactions, hreload, hconnect, hrequest⟩ := RunState.ticks_of_usesConnection hstate
  exact ⟨hall.operatingMode_eq hactions hreload, hall.connectRequests_eq hconnect hrequest⟩

/-- In disconnected mode, a tick in which nothing asks for a connection ends in a settled state. -/
theorem settled_of_tick (h : Path (tick.run c) (⟨.readClock, moment⟩ :: rest) (control, after))
    (hmode : c.config.value.operatingMode = .disconnected) (hstate : c.runState.usesConnection = false)
    (hstarts : c.runState = .initialization → c.status.value.updatePending = false ∧ moment.valid = true)
    (hquiet : ∀ exchange ∈ rest, exchange.prompts = false) : after.runState.isSettled = true := by
  obtain ⟨read, marked, polling, polled, middle, outcome, carried, closing, _, hcarry, hflush, _, hcalls⟩ :=
    tick_parts h
  obtain ⟨hread, rfl⟩ := List.cons.inj hcalls
  cases hread
  have hunprompted : ∀ exchange ∈ middle, exchange.prompts = false :=
    fun exchange hmem => hquiet exchange (by simp [hmem])
  have hopened : (c.opened (marked || polled) moment).runState.usesConnection = false := by rwa [runState_opened]
  rw [runState_of_tick hcarry hflush]
  cases ensures_turnsTo moment hopened hcarry with
  | settled hsettled => exact hsettled
  | connecting hprompted =>
    cases hprompted with
    | clock hinitial hvalid =>
      rw [runState_opened] at hinitial
      rw [(hstarts hinitial).2] at hvalid
      cases hvalid
    | update hinitial hpending =>
      rw [runState_opened] at hinitial
      rw [updatePending_opened, (hstarts hinitial).1] at hpending
      cases hpending
    | button hmem => cases hunprompted _ hmem
    | override hmem => cases hunprompted _ hmem
    | offered hmem => cases hunprompted _ hmem
    | woken hmem hmanual => cases hmanual.symm.trans (hunprompted _ hmem)
    | mode hother =>
      rw [config_opened] at hother
      exact absurd hmode hother
  | updating hmem => cases hunprompted _ hmem

/-- The device has no reason to come online by itself: not in its mode, and when it starts not by the clock or an
update either. -/
structure StaysOffline (c : Controller) (history : List Event) : Prop where
  mode : c.config.value.operatingMode = .disconnected
  offline : c.runState.usesConnection = false
  starts : c.runState = .initialization → c.status.value.updatePending = false ∧
    ∀ moment ∈ history.findSome? Event.moment, moment.valid = true

/-- So it is after every tick in which nothing asks for a connection. -/
theorem StaysOffline.tick {history : List Event} (h : c.StaysOffline (.tick c trace control after :: history))
    (hpath : Path (tick.run c) trace (control, after)) (hquiet : ∀ exchange ∈ trace, exchange.prompts = false) :
    after.StaysOffline history := by
  obtain ⟨moment, rest, rfl⟩ := clock_of_tick hpath
  obtain ⟨hmode, hoffline, hstarts⟩ := h
  have hsettled := settled_of_tick hpath hmode hoffline
    (fun hinitial => ⟨(hstarts hinitial).1, (hstarts hinitial).2 moment rfl⟩)
    fun exchange hmem => hquiet exchange (List.mem_cons_of_mem _ hmem)
  refine ⟨(offline_of_tick hpath hoffline).1.trans hmode, RunState.usesConnection_of_isSettled hsettled, ?_⟩
  intro hinitial
  rw [hinitial] at hsettled
  cases hsettled

/-- An alert from outside makes no difference. -/
theorem StaysOffline.raise {history : List Event} (alert : Alert) (now : UInt32)
    (h : c.StaysOffline (.raise alert now :: history)) :
    (c.setStatus (c.status.value.raiseAlert alert now).value).StaysOffline history :=
  ⟨h.mode, h.offline, h.starts⟩

end Controller

/-- Where no event asks for a connection, the history does not. -/
theorem connectRequests_callsOf {history : List Event} (h : ∀ event ∈ history, connectRequests event.calls = 0) :
    connectRequests (callsOf history) = 0 := by
  induction history with
  | nil => rfl
  | cons event rest ih =>
    obtain ⟨hevent, hrest⟩ := List.forall_mem_cons.mp h
    rw [← List.singleton_append, callsOf_append, callsOf_singleton, connectRequests_append, hevent, ih hrest]

/-- A history without boots, in which nothing asks for a connection, is without one. -/
theorem Run.offline {history : List Event} {last : Option Controller} {c : Controller}
    (hrun : Run (some c) history last) (hstays : c.StaysOffline history)
    (hboots : ∀ event ∈ history, event.isBoot = false)
    (hquiet : ∀ exchange ∈ callsOf history, exchange.prompts = false) :
    connectRequests (callsOf history) = 0 ∧ ∀ before calls control after,
      .tick before calls control after ∈ history →
        before.runState.usesConnection = false ∧ after.runState.usesConnection = false := by
  have hticks : ∀ before calls control after, .tick before calls control after ∈ history →
      before.runState.usesConnection = false ∧ after.runState.usesConnection = false := by
    intro before calls control after hmem
    obtain ⟨rest, hbefore, hafter⟩ := hrun.within_boot (I := Controller.StaysOffline) hboots hstays
      (fun before trace control after rest hmem hpath h => h.tick hpath fun exchange hexchange =>
        hquiet exchange (List.mem_flatMap.mpr ⟨_, hmem, hexchange⟩))
      (fun c alert now rest h => h.raise alert now) before calls control after hmem
    exact ⟨hbefore.offline, hafter.offline⟩
  refine ⟨connectRequests_callsOf fun event hmem => ?_, hticks⟩
  obtain ⟨_, _, hleads⟩ := hrun.leads_of_mem hmem
  cases hleads with
  | boot => cases hboots _ hmem
  | raise => rfl
  | tick hpath => exact (Controller.offline_of_tick hpath (hticks _ _ _ _ hmem).1).2

/-- In disconnected mode, a boot with the clock set and no update waiting leads to no connection as long as the radio
offers no update, and the button is neither pressed nor held nor ends a sleep, whatever else the devices answer: no
tick asks for a connection or is in a state that uses one. -/
theorem disconnected_stays_offline {booting : List Exchange} {booted : Controller} {history : List Event}
    {state last : Option Controller} (hrun : Run state (.boot booting booted :: history) last)
    (hboots : ∀ event ∈ history, event.isBoot = false)
    (hmode : booted.config.value.operatingMode = .disconnected)
    (hpending : booted.status.value.updatePending = false)
    (hclock : ∀ moment ∈ history.findSome? Event.moment, moment.valid = true)
    (hquiet : ∀ exchange ∈ callsOf history, exchange.prompts = false) :
    connectRequests (callsOf history) = 0 ∧ ∀ before calls control after,
      .tick before calls control after ∈ history →
        before.runState.usesConnection = false ∧ after.runState.usesConnection = false := by
  cases hrun with
  | cons hleads hrest =>
    cases hleads with
    | boot hpath =>
      obtain ⟨_, _, _, _, _, _, _, _, _, rfl⟩ := boot_cases hpath
      exact Run.offline hrest ⟨hmode, rfl, fun _ => ⟨hpending, hclock⟩⟩ hboots hquiet

/-- Stored settings in disconnected mode. -/
def storedDisconnected : Stage :=
  { controller := none
    store := Stage.blank.store.put .config
      (Record.encode { (default : DeviceConfig) with operatingMode := .disconnected }) }

/-- The device reports, deals with an alert, sleeps, and reports again. -/
def twoReports : List Scene :=
  [.tick (.afterNoon 1 false), .tick (.afterNoon 2 false), .tick (.afterNoon 3 false),
    .raise .prolongedOffline 1699963204, .tick (.afterNoon 4 false), .tick (.afterNoon 5 false),
    .tick (.afterNoon 6 false), .tick (.afterNoon 3600 false), .tick (.afterNoon 3601 false)]

/-- Over two reports it asks for no connection and comes to no state that uses one. -/
theorem disconnected_stays_offline_twoReports :
    ∃ booting booted history last, Run none (.boot booting booted :: history) last ∧
      booted.config.value.operatingMode = .disconnected ∧ history.countP (Event.isTick fun before _ _ =>
        before.runState == .reporting) = 2 ∧ connectRequests (callsOf history) = 0 ∧
      ∀ before calls control after, .tick before calls control after ∈ history →
        before.runState.usesConnection = false ∧ after.runState.usesConnection = false := by
  let env := Store.environment (.afterNoon 0 false)
  let booted := Controller.boot.run env storedDisconnected.store
  have hrun := (run_play (.boot (.afterNoon 0 false) :: twoReports) storedDisconnected).1
  rw [play_boot] at hrun
  have hbooted : booted.1.config.value.operatingMode = .disconnected ∧
      booted.1.status.value.updatePending = false := by decide +kernel
  have hfacts : (∀ event ∈ (play twoReports ⟨some booted.1, booted.2⟩).1, event.isBoot = false) ∧
      (∀ moment ∈ (play twoReports ⟨some booted.1, booted.2⟩).1.findSome? Event.moment, moment.valid = true) ∧
      (∀ exchange ∈ callsOf (play twoReports ⟨some booted.1, booted.2⟩).1, exchange.prompts = false) ∧
      (play twoReports ⟨some booted.1, booted.2⟩).1.countP (Event.isTick fun before _ _ =>
        before.runState == .reporting) = 2 := by decide +kernel
  obtain ⟨hmode, hpending⟩ := hbooted
  obtain ⟨hboots, hclock, hquiet, hreports⟩ := hfacts
  exact ⟨_, _, _, _, hrun, hmode, hreports, disconnected_stays_offline hrun hboots hmode hpending hclock hquiet⟩

end FieldCounter
