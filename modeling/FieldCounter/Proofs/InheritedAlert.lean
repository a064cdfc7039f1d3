import FieldCounter.Proofs.ErrorState
import FieldCounter.Proofs.Run
import FieldCounter.Proofs.Script

/-!
# Which alert a reset is made for

A reset is made for the alert that the error state found on show. Either that alert was put there in
the same boot, or it was loaded at the boot and has been on show ever since. An alert that was loaded
does not by itself lead from idling into the error state; but a radio that is not down in time does,
and the fault raised for it is hidden behind a more severe alert on show, which is then resolved
instead.
-/

namespace FieldCounter

open Program (Path)

/-- The alerts that are raised in the event, whatever is on show: from outside, or while sleeping, for a
radio that is not down in time and for a deep sleep that came back. Whether one was raised cannot be seen
from the slot, which may be hiding it behind a more severe alert. -/
def Event.raised : Event → List Alert
  | .boot _ _ => []
  | .tick before calls _ after =>
    (if before.runState = .sleeping ∧ after.runState = .error then [.modemFault] else []) ++
      if CameBack calls then [.sleepFault] else []
  | .raise alert _ => [alert]

/-! ## The slot in the course of a history -/

/-- The boot loads the slot from storage. -/
def Event.Loads (slot : AlertSlot) : Event → Prop
  | .boot _ c => c.status.value.alert = slot
  | .tick _ _ _ _ | .raise _ _ => False

/-- The event leaves the slot on show, and no alert is raised in it to which the slot gives way. -/
def Event.Keeps (slot : AlertSlot) : Event → Prop
  | .boot _ _ => False
  | .tick before calls control after =>
    before.status.value.alert = slot ∧ after.status.value.alert = slot ∧
      ∀ alert ∈ (Event.tick before calls control after).raised, slot.accepts alert = false
  | .raise alert _ => slot.accepts alert = false

/-- The event puts the slot on show: it was not before, or it is put there once more. -/
def Event.Writes (slot : AlertSlot) : Event → Prop
  | .boot _ _ => False
  | .tick before calls control after =>
    after.status.value.alert = slot ∧ (before.status.value.alert ≠ slot ∨
      ∃ alert ∈ (Event.tick before calls control after).raised, slot.accepts alert = true)
  | .raise alert now => slot = ⟨alert.code, now⟩

instance (slot : AlertSlot) : DecidablePred (Event.Loads slot)
  | .boot _ _ => inferInstanceAs (Decidable (_ = _))
  | .tick _ _ _ _ | .raise _ _ => .isFalse id

instance (slot : AlertSlot) : DecidablePred (Event.Keeps slot)
  | .boot _ _ => .isFalse id
  | .tick _ _ _ _ => inferInstanceAs (Decidable (_ ∧ _ ∧ ∀ alert ∈ _, _))
  | .raise _ _ => inferInstanceAs (Decidable (_ = _))

namespace AlertSlot

/-- The slot was put on show after the last boot of the history, and stayed. -/
def WrittenIn (slot : AlertSlot) : List Event → Prop := Since (Event.Writes slot) (Event.Keeps slot)

/-- The slot was loaded by the last boot of the history, and nothing was put on show since. -/
def LoadedIn (slot : AlertSlot) : List Event → Prop := Since (Event.Loads slot) (Event.Keeps slot)

instance (slot : AlertSlot) : DecidablePred slot.LoadedIn :=
  inferInstanceAs (DecidablePred (Since (Event.Loads slot) (Event.Keeps slot)))

/-- The slot that an alert took gives way to the same alert. -/
theorem accepts_self (alert : Alert) (now : UInt32) : (AlertSlot.mk alert.code now).accepts alert = true := by
  simp [accepts]

end AlertSlot

/-- A boot that loads the slot is no event that keeps it. -/
theorem Event.not_keeps_of_loads {slot : AlertSlot} {event : Event} (h : event.Loads slot) : ¬event.Keeps slot := by
  cases event with
  | boot => exact id
  | tick => cases h
  | raise => cases h

/-- An event that puts the slot on show does not merely keep it. -/
theorem Event.not_keeps_of_writes {slot : AlertSlot} {event : Event} (h : event.Writes slot) :
    ¬event.Keeps slot := by
  cases event with
  | boot => cases h
  | tick before calls control after =>
    rintro ⟨hbefore, _, hkeeps⟩
    rcases h.2 with hchanged | ⟨alert, hraises, haccepts⟩
    · exact hchanged hbefore
    · rw [hkeeps alert hraises] at haccepts
      cases haccepts
  | raise alert now =>
    intro hrefuses
    rw [Event.Keeps, show slot = ⟨alert.code, now⟩ from h, AlertSlot.accepts_self] at hrefuses
    cases hrefuses

/-- An event that puts the slot on show is no boot that loads it. -/
theorem Event.not_loads_of_writes {slot : AlertSlot} {event : Event} (h : event.Writes slot) :
    ¬event.Loads slot := by
  cases event with
  | boot => cases h
  | tick => exact id
  | raise => exact id

/-- A slot that was put on show was not loaded. -/
theorem AlertSlot.WrittenIn.not_loadedIn {slot : AlertSlot} {history : List Event} (h : slot.WrittenIn history) :
    ¬slot.LoadedIn history :=
  Since.exclusive h (fun _ hwrites => ⟨Event.not_loads_of_writes hwrites, Event.not_keeps_of_writes hwrites⟩)
    fun _ => Event.not_keeps_of_loads

/-- What is on show after a tick is put there by the tick, or kept by it. -/
theorem Event.writes_or_keeps (before after : Controller) (calls : List Exchange) (control : Control) :
    (Event.tick before calls control after).Writes after.status.value.alert ∨
      (Event.tick before calls control after).Keeps after.status.value.alert := by
  by_cases hchanged : before.status.value.alert = after.status.value.alert
  · by_cases hraised : ∃ alert ∈ (Event.tick before calls control after).raised,
        after.status.value.alert.accepts alert = true
    · exact .inl ⟨rfl, .inr hraised⟩
    · refine .inr ⟨hchanged, rfl, fun alert hraises => ?_⟩
      exact Bool.eq_false_iff.mpr fun haccepts => hraised ⟨alert, hraises, haccepts⟩
  · exact .inl ⟨rfl, .inl hchanged⟩

/-! ## How the error state was entered -/

/-- The radio of a device in connected mode is not down in time, and the fault is hidden behind the slot
on show. -/
def Event.TimesOut (slot : AlertSlot) : Event → Prop
  | .tick before _ _ after => before.runState = .sleeping ∧ after.runState = .error ∧
    before.config.value.isConnectedMode = true ∧ slot.accepts .modemFault = false ∧
    before.status.value.alert = slot ∧ after.status.value.alert = slot
  | .boot _ _ | .raise _ _ => False

/-- The slot on show hides the fault of the modem. -/
theorem Event.TimesOut.refuses {slot : AlertSlot} {event : Event} (h : event.TimesOut slot) :
    slot.accepts .modemFault = false := by
  cases event with
  | boot => cases h
  | tick => exact h.2.2.2.1
  | raise => cases h

/-- The device is in the error state throughout the event. -/
def Event.StaysInError : Event → Prop
  | .boot _ _ => False
  | .tick before _ _ after => before.runState = .error ∧ after.runState = .error
  | .raise _ _ => True

/-- What the history tells of the slot. -/
structure Controller.Traced (c : Controller) (history : List Event) : Prop where
  /-- It was put on show, or loaded. -/
  origin : c.status.value.alert.WrittenIn history ∨ c.status.value.alert.LoadedIn history
  /-- The controller can tell that it was loaded. -/
  inherited : c.status.value.alert.LoadedIn history → c.status.value.alert = c.inheritedAlert
  /-- With a slot that was loaded the error state is entered only from sleeping. -/
  entered : c.status.value.alert.LoadedIn history → c.runState = .error →
    Since (Event.TimesOut c.status.value.alert) Event.StaysInError history

namespace Controller

variable {before after : Controller} {calls : List Exchange} {control : Control} {earlier : List Event}

/-- An event that does not load the slot keeps it, where it is the one that was loaded. -/
theorem loadedIn_concat_iff {slot : AlertSlot} {event : Event} (hboot : ¬event.Loads slot) :
    slot.LoadedIn (earlier ++ [event]) ↔ event.Keeps slot ∧ slot.LoadedIn earlier := by
  rw [AlertSlot.LoadedIn, since_concat_iff]
  exact or_iff_right hboot

/-- A boot loads the slot that it has on show. -/
theorem traced_boot {trace : List Exchange} {c : Controller} (h : Path boot trace c) :
    c.Traced (earlier ++ [.boot trace c]) := by
  obtain ⟨config, _, status, _, _, _, _, _, _, rfl⟩ := boot_cases h
  refine ⟨.inr ?_, fun _ => rfl, fun _ herror => by cases herror⟩
  rw [AlertSlot.LoadedIn, since_concat_iff]
  exact .inl rfl

/-- A tick puts its alert on show, or it keeps the one it found. -/
theorem Traced.tick (h : before.Traced earlier) (hpath : Path (tick.run before) calls (control, after)) :
    after.Traced (earlier ++ [.tick before calls control after]) := by
  constructor
  · rcases Event.writes_or_keeps before after calls control with hwrites | hkeeps
    · exact .inl (since_concat_iff.mpr (.inl hwrites))
    · have horigin := h.origin
      rw [hkeeps.1] at horigin
      exact horigin.imp (fun hwritten => since_concat_iff.mpr (.inr ⟨hkeeps, hwritten⟩))
        fun hloaded => since_concat_iff.mpr (.inr ⟨hkeeps, hloaded⟩)
  · intro hloaded
    obtain ⟨hkeeps, hearlier⟩ := (loadedIn_concat_iff id).mp hloaded
    rw [← hkeeps.1] at hearlier ⊢
    rw [h.inherited hearlier, inheritedAlert_of_tick hpath]
  · intro hloaded herror
    obtain ⟨hkeeps, hearlier⟩ := (loadedIn_concat_iff id).mp hloaded
    obtain ⟨_, hinherited, hentered⟩ := h
    rw [hkeeps.1] at hinherited hentered
    have henters := entersError_of_tick hpath herror
    cases henters with
    | stayed hbefore => exact since_concat_iff.mpr (.inr ⟨⟨hbefore, herror⟩, hentered hearlier hbefore⟩)
    | supervised _ hraised _ =>
      rw [hkeeps.1] at hraised
      exact absurd (hinherited hearlier) hraised
    | stuck hsleeping hconnected _ =>
      have hrefuses := hkeeps.2.2 .modemFault (by simp [Event.raised, hsleeping, herror])
      exact since_concat_iff.mpr (.inl ⟨hsleeping, herror, hconnected, hrefuses, hkeeps.1, rfl⟩)

/-- An alert from outside takes the slot, or it leaves it as it was. -/
theorem Traced.raise {c : Controller} (h : c.Traced earlier) (alert : Alert) (now : UInt32) :
    (c.setStatus (c.status.value.raiseAlert alert now).value).Traced (earlier ++ [.raise alert now]) := by
  have hslot : (c.setStatus (c.status.value.raiseAlert alert now).value).status.value.alert =
      if c.status.value.alert.accepts alert then ⟨alert.code, now⟩ else c.status.value.alert :=
    c.status.value.alert.value_raise alert now
  by_cases haccepts : c.status.value.alert.accepts alert = true
  · rw [if_pos haccepts] at hslot
    have hwritten : (AlertSlot.mk alert.code now).WrittenIn (earlier ++ [.raise alert now]) :=
      since_concat_iff.mpr (.inl rfl)
    rw [← hslot] at hwritten
    exact ⟨.inl hwritten, fun hloaded => absurd hloaded hwritten.not_loadedIn,
      fun hloaded => absurd hloaded hwritten.not_loadedIn⟩
  · rw [if_neg haccepts] at hslot
    have hkeeps : (Event.raise alert now).Keeps c.status.value.alert := Bool.eq_false_iff.mpr haccepts
    constructor
    · rw [hslot]
      exact h.origin.imp (fun hwritten => since_concat_iff.mpr (.inr ⟨hkeeps, hwritten⟩))
        fun hloaded => since_concat_iff.mpr (.inr ⟨hkeeps, hloaded⟩)
    · rw [hslot]
      intro hloaded
      exact h.inherited ((loadedIn_concat_iff id).mp hloaded).2
    · rw [hslot]
      intro hloaded herror
      have hearlier := h.entered ((loadedIn_concat_iff id).mp hloaded).2 herror
      exact since_concat_iff.mpr (.inr ⟨trivial, hearlier⟩)

end Controller

/-- In every run, this is known of the slot on show. -/
theorem Run.traced {history : List Event} {last : Option Controller} (hrun : Run none history last) :
    ∀ c ∈ last, c.Traced history :=
  hrun.invariant_of_controller (I := fun history c => c.Traced history) Controller.traced_boot
    (fun hpath h => h.tick hpath) fun alert now h => h.raise alert now

/-! ## The decision -/

/-- In the error state, the tick makes the decision: the resolution that the ladder has for the slot. -/
inductive Event.Decides (slot : AlertSlot) (resolution : Resolution) : Event → Prop where
  | tick {before after : Controller} {moment : Moment} {rest : List Exchange} {control : Control}
      {decided : UInt64} : before.runState = .error → before.decision = none → before.status.value.alert = slot →
      (resolveAlert slot (before.recoveryContext moment)).value.1 = resolution → resolution ≠ .noAction →
      after.decision = some (resolution, decided) →
      Decides slot resolution (.tick before (⟨.readClock, moment⟩ :: rest) control after)

/-- To take no action is no decision. -/
theorem Event.Decides.ne_noAction {slot : AlertSlot} {resolution : Resolution} {event : Event}
    (h : event.Decides slot resolution) : resolution ≠ .noAction := by
  cases h with
  | tick _ _ _ _ hne _ => exact hne

/-- A decision was made in this stay in the error state. -/
def Controller.Decided (c : Controller) (history : List Event) : Prop :=
  ∀ resolution decided, c.decision = some (resolution, decided) → c.runState = .error ∧ c.previous = some .error ∧
    Since (fun event => ∃ slot, event.Decides slot resolution) Event.StaysInError history

namespace Controller

variable {before after : Controller} {calls : List Exchange} {control : Control} {earlier : List Event}

/-- Over a tick, a decision stays one that was made in this stay. -/
theorem Decided.tick (h : before.Decided earlier) (hpath : Path (tick.run before) calls (.proceed, after)) :
    after.Decided (earlier ++ [.tick before calls .proceed after]) := by
  intro resolution decided hdecision
  by_cases hstate : before.runState = .error
  · have hprevious : after.previous = some .error := (previous_of_tick hpath).trans (congrArg some hstate)
    have hrescues := rescueTick_of_tick hpath hstate
    cases hrescues with
    | waits _ hsame herror =>
      rw [hsame] at hdecision
      obtain ⟨_, _, hsince⟩ := h _ _ hdecision
      exact ⟨herror, hprevious, since_concat_iff.mpr (.inr ⟨⟨hstate, herror⟩, hsince⟩)⟩
    | recovers hbefore _ hrestart =>
      obtain ⟨_, _, _, _, _, _, ⟨_, hdecides⟩, _⟩ := h _ _ hbefore
      exact absurd (hrestart hdecides.ne_noAction) Control.noConfusion
    | undecided _ hnone =>
      rw [hnone] at hdecision
      cases hdecision
    | decides hentered _ hresolution hne hafter herror =>
      have hundecided : before.decision = none := by
        refine Option.eq_none_iff_forall_ne_some.mpr fun ⟨resolution, decided⟩ hbefore => ?_
        rw [hentered (h _ _ hbefore).2.1] at hbefore
        cases hbefore
      obtain ⟨rfl, -⟩ := Prod.mk.inj (Option.some.inj (hafter.symm.trans hdecision))
      refine ⟨herror, hprevious, since_concat_iff.mpr (.inl ⟨before.status.value.alert, ?_⟩)⟩
      exact .tick hstate hundecided rfl hresolution hne hafter
  · obtain ⟨_, hsame | hnone⟩ := unreset_of_tick hpath hstate
    · rw [hsame] at hdecision
      exact absurd (h _ _ hdecision).1 hstate
    · rw [hnone] at hdecision
      cases hdecision

end Controller

/-- In every run, a decision is one that was made since the error state was entered. -/
theorem Run.decided {history : List Event} {last : Option Controller} (hrun : Run none history last) :
    ∀ c ∈ last, c.Decided history := by
  refine hrun.invariant_of_controller (I := fun history c => c.Decided history) ?_ (fun hpath h => h.tick hpath) ?_
  · intro earlier trace c hpath resolution decided hdecision
    obtain ⟨_, _, _, _, _, _, _, _, _, rfl⟩ := boot_cases hpath
    cases hdecision
  · intro earlier c alert now h resolution decided hdecision
    obtain ⟨herror, hprevious, hsince⟩ := h resolution decided hdecision
    exact ⟨herror, hprevious, since_concat_iff.mpr (.inr ⟨trivial, hsince⟩)⟩

/-! ## The reset -/

/-- Only two alerts that may lead to a reset are more severe than a fault of the modem. -/
theorem Event.Decides.shows {slot : AlertSlot} {resolution : Resolution} {event : Event}
    (h : event.Decides slot resolution) (hrefuses : slot.accepts .modemFault = false) :
    slot.shows (fun alert => alert = .sleepFault ∨ alert = .outOfMemory) = true := by
  cases h with
  | tick _ _ _ hresolution hne _ =>
    rw [← hresolution] at hne
    obtain ⟨alert, hcurrent, hladder⟩ := ladder_of_resolveAlert hne
    simp only [AlertSlot.accepts, AlertSlot.shows, hcurrent, Option.all_some, Option.any_some] at hrefuses ⊢
    cases alert <;> first | rfl | exact absurd rfl hladder | cases hrefuses

/-- The slot that a decision is for was put on show since the last boot, unless it was loaded, and a radio
that was not down in time led to the decision in its place. -/
theorem Event.Decides.unwritten_iff {first rest : List Event} {deciding : Event} {last : Option Controller}
    {slot : AlertSlot} {resolution : Resolution} (h : deciding.Decides slot resolution)
    (hrun : Run none (first ++ deciding :: rest) last) :
    ¬slot.WrittenIn first ↔ slot.LoadedIn first ∧ Since (Event.TimesOut slot) Event.StaysInError first ∧
      slot.shows (fun alert => alert = .sleepFault ∨ alert = .outOfMemory) = true := by
  have hshows := h.shows
  obtain ⟨_, _, hfirst, hleads, _⟩ := hrun.reach
  cases h with
  | @tick before _ _ _ _ _ herror _ hslot _ _ _ =>
    cases hleads
    have htraced := hfirst.traced before rfl
    rw [← hslot] at hshows ⊢
    constructor
    · intro hunwritten
      have hloaded := htraced.origin.resolve_left hunwritten
      have hsince := htraced.entered hloaded herror
      refine ⟨hloaded, hsince, ?_⟩
      obtain ⟨_, _, _, _, htimesOut, _⟩ := hsince
      exact hshows htimesOut.refuses
    · rintro ⟨hloaded, _⟩ hwritten
      exact hwritten.not_loadedIn hloaded

/-- Every reset was decided on in the stay in the error state that it ends, by the ladder of the alert
that was on show then. That alert was put on show in the same boot, or else it was loaded by the boot
and on show ever since; and this happens only where the device came from sleeping, because its radio
was not down in time, with a failed deep sleep or a lack of memory on show. -/
theorem reset_for_loaded_iff {earlier : List Event} {before after : Controller} {calls : List Exchange}
    {control : Control} {last : Option Controller} {reset : Exchange}
    (hrun : Run none (earlier ++ [.tick before calls control after]) last) (hmem : reset ∈ calls)
    (hreset : reset.call.isReset = true) :
    ∃ first deciding rest slot resolution, earlier = first ++ deciding :: rest ∧
      deciding.Decides slot resolution ∧ resolution.call = some reset.call ∧
      (∀ event ∈ rest, event.StaysInError) ∧
      (¬slot.WrittenIn first ↔ slot.LoadedIn first ∧ Since (Event.TimesOut slot) Event.StaysInError first ∧
        slot.shows (fun alert => alert = .sleepFault ∨ alert = .outOfMemory) = true) := by
  obtain ⟨between, hearlier, hleads⟩ := Run.concat_iff.mp hrun
  cases hleads with
  | tick hpath =>
    have hunreset : ¬Unreset calls := by
      intro hunreset
      rw [hunreset reset hmem] at hreset
      cases hreset
    have herror : before.runState = .error :=
      Decidable.byContradiction fun hstate => hunreset (Controller.unreset_of_tick hpath hstate).1
    have hrescues := Controller.rescueTick_of_tick hpath herror
    cases hrescues with
    | waits hcalls _ _ => exact absurd hcalls hunreset
    | undecided hcalls _ => exact absurd hcalls hunreset
    | decides _ hcalls _ _ _ _ => exact absurd hcalls hunreset
    | recovers hdecision hcalls _ =>
      obtain ⟨_, _, first, deciding, rest, rfl, ⟨slot, hdecides⟩, hstays⟩ :=
        hearlier.decided before rfl _ _ hdecision
      exact ⟨first, deciding, rest, slot, _, rfl, hdecides, hcalls reset hmem hreset, hstays,
        hdecides.unwritten_iff hearlier⟩

/-- A device whose deep sleep comes back one evening, and which is reset for it. It boots again, and its
radio does not switch off. -/
def radioStuck : List Scene :=
  let stuck (secs : Nat) : Devices
    | .isModemOff => false
    | call => Devices.afterNoon secs false call
  [.boot (.afterNoon 36100 false), .tick (.afterNoon 36100 false), .tick (.afterNoon 36101 false),
    .tick (Devices.afterNoon 36102 false).comingBack, .tick (.afterNoon 36103 false),
    .tick (.afterNoon 36104 true), .tick (.afterNoon 36105 false), .tick (.afterNoon 36106 false),
    .tick (.afterNoon 36117 false), .boot (.afterNoon 36120 false), .tick (.afterNoon 36120 false),
    .tick (.afterNoon 36121 false), .tick (stuck 36122), .tick (stuck 36200)]

/-- Its radio is off at last. It decides to cut the supply, and does so. -/
theorem run_radioStuck :
    ∃ deciding before calls control after last,
      Run none ((play radioStuck .blank).1 ++ [deciding] ++ [.tick before calls control after]) last ∧
      Call.hardPowerCycle ∈ calls.map Exchange.call ∧ deciding.Decides ⟨16, 1699999302⟩ .hardPowerCycle := by
  let decides := Devices.afterNoon 36201 false
  let resets := Devices.afterNoon 36212 false
  have hfound : (play radioStuck .blank).2.controller.isSome = true := by decide +kernel
  have hfollowing : (play (radioStuck ++ [.tick decides]) .blank).2.controller.isSome = true := by decide +kernel
  obtain ⟨found, hfound⟩ := Option.isSome_iff_exists.mp hfound
  obtain ⟨decided, hdecided⟩ := Option.isSome_iff_exists.mp hfollowing
  obtain ⟨hrun, _⟩ := run_play (radioStuck ++ [.tick decides] ++ [.tick resets]) .blank
  rw [play_concat_tick hdecided resets, play_concat_tick hfound decides] at hrun
  have hdecides : ∀ c ∈ (play radioStuck .blank).2.controller, c.runState = .error ∧ c.decision = none ∧
      c.status.value.alert = ⟨16, 1699999302⟩ ∧
      (resolveAlert ⟨16, 1699999302⟩ (c.recoveryContext (decides .readClock))).value.1 = .hardPowerCycle ∧
      ((Controller.tick.run c).run (Store.environment decides) (play radioStuck .blank).2.store).1.2.decision =
        some (.hardPowerCycle, 36201000) := by decide +kernel
  have hresets : ∀ c ∈ (play (radioStuck ++ [.tick decides]) .blank).2.controller,
      Call.hardPowerCycle ∈ ((Controller.tick.run c).trace (Store.environment resets)
        (play (radioStuck ++ [.tick decides]) .blank).2.store).map Exchange.call := by decide +kernel
  obtain ⟨hstate, hbefore, hslot, hresolution, hdecision⟩ := hdecides found hfound
  refine ⟨_, decided, _, _, _, _, hrun, hresets decided hdecided, ?_⟩
  exact .tick hstate hbefore hslot hresolution (by decide) hdecision

/-- The reset is one that the law is about. -/
theorem reset_for_loaded_iff_radioStuck :
    ∃ earlier before calls control after last reset,
      Run none (earlier ++ [.tick before calls control after]) last ∧ reset ∈ calls ∧ reset.call.isReset = true ∧
      ∃ first deciding rest slot resolution, earlier = first ++ deciding :: rest ∧
        deciding.Decides slot resolution ∧ resolution.call = some reset.call ∧
        (∀ event ∈ rest, event.StaysInError) ∧
        (¬slot.WrittenIn first ↔ slot.LoadedIn first ∧ Since (Event.TimesOut slot) Event.StaysInError first ∧
          slot.shows (fun alert => alert = .sleepFault ∨ alert = .outOfMemory) = true) := by
  obtain ⟨deciding, before, calls, control, after, last, hrun, hcycle, _⟩ := run_radioStuck
  obtain ⟨reset, hmem, hcall⟩ := List.mem_map.mp hcycle
  have hreset : reset.call.isReset = true := by rw [hcall]; rfl
  exact ⟨_, before, calls, control, after, last, reset, hrun, hmem, hreset, reset_for_loaded_iff hrun hmem hreset⟩

/-- In the second boot no deep sleep is tried and nothing is written to the slot. But the supply is cut for
the failed deep sleep that is still on show. -/
theorem reset_for_loaded_alert :
    ∃ first deciding before calls control after last slot,
      Run none (first ++ [deciding] ++ [.tick before calls control after]) last ∧
      Call.hardPowerCycle ∈ calls.map Exchange.call ∧ deciding.Decides slot .hardPowerCycle ∧
      slot.LoadedIn first ∧ ¬slot.WrittenIn first := by
  obtain ⟨deciding, before, calls, control, after, last, hrun, hcycle, hdecides⟩ := run_radioStuck
  have hloaded : AlertSlot.LoadedIn ⟨16, 1699999302⟩ (play radioStuck .blank).1 := by decide +kernel
  exact ⟨_, deciding, before, calls, control, after, last, _, hrun, hcycle, hdecides, hloaded,
    fun hwritten => hwritten.not_loadedIn hloaded⟩

end FieldCounter
