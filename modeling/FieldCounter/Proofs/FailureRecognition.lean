import FieldCounter.Proofs.ErrorEntry
import FieldCounter.Proofs.Failures
import FieldCounter.Proofs.InheritedAlert

/-!
# Which failures are recognised

Idling turns to the error state for a failure that came about in the same boot. That it did is not noted
anywhere: the slot is compared with the one that was loaded, code and time. So a failure that comes about
in this boot is overlooked where the boot loaded the same alert with the same time, which is what happens
when the clock was not set and runs through the same times after every boot.
-/

namespace FieldCounter

open Program (Path)

/-! ## What the history tells of the slot -/

/-- An alert is raised in the event for a failure of the device as a whole, or from outside, and takes the
slot with the time at which it is raised. -/
def Event.Raises (slot : AlertSlot) (event : Event) : Prop :=
  (∃ failure ∈ event.failures, slot = ⟨failure.1.code, failure.2⟩) ∧ match event with
    | .tick _ _ _ after => after.status.value.alert = slot
    | .boot _ _ | .raise _ _ => True

/-- The slot is on show throughout the event. -/
def Event.Retains (slot : AlertSlot) : Event → Prop
  | .boot _ _ => False
  | .tick before _ _ after => before.status.value.alert = slot ∧ after.status.value.alert = slot
  | .raise alert _ => slot.accepts alert = false

/-- The device is not booted in the event. -/
def Event.StaysUp : Event → Prop
  | .boot _ _ => False
  | .tick _ _ _ _ | .raise _ _ => True

instance (slot : AlertSlot) : DecidablePred (Event.Raises slot)
  | .tick _ _ _ _ => inferInstanceAs (Decidable ((∃ failure ∈ _, _) ∧ _ = _))
  | .boot _ _ | .raise _ _ => inferInstanceAs (Decidable ((∃ failure ∈ _, _) ∧ True))

instance (slot : AlertSlot) : DecidablePred (Event.Retains slot)
  | .boot _ _ => .isFalse id
  | .tick _ _ _ _ => inferInstanceAs (Decidable (_ ∧ _))
  | .raise _ _ => inferInstanceAs (Decidable (_ = _))

instance : DecidablePred Event.StaysUp
  | .boot _ _ => .isFalse id
  | .tick _ _ _ _ | .raise _ _ => .isTrue trivial

namespace AlertSlot

/-- The slot was raised after the last boot of the history, and was on show ever since. -/
def RaisedIn (slot : AlertSlot) : List Event → Prop := Since (Event.Raises slot) (Event.Retains slot)

/-- The slot is the one that the last boot of the history loaded, whatever was on show since. -/
def BootedWith (slot : AlertSlot) : List Event → Prop := Since (Event.Loads slot) Event.StaysUp

instance (slot : AlertSlot) : DecidablePred slot.RaisedIn := inferInstanceAs (DecidablePred (Since _ _))

instance (slot : AlertSlot) : DecidablePred slot.BootedWith := inferInstanceAs (DecidablePred (Since _ _))

end AlertSlot

namespace Controller

variable {c before after : Controller} {calls : List Exchange} {control : Control} {earlier history : List Event}

/-- The controller remembers the slot that was loaded. -/
def RemembersBoot (c : Controller) (history : List Event) : Prop :=
  ∀ slot : AlertSlot, slot.BootedWith history ↔ c.inheritedAlert = slot

/-- What is on show, if it concerns the device as a whole, was raised in this boot or is the slot that was
loaded. -/
def Accounted (c : Controller) (history : List Event) : Prop :=
  c.status.value.alert.shows Alert.isSystemic = true →
    c.status.value.alert.RaisedIn history ∨ c.status.value.alert = c.inheritedAlert

/-- A tick keeps it accounted for what is on show. -/
theorem Accounted.tick (h : before.Accounted earlier) (hpath : Path (tick.run before) calls (control, after)) :
    after.Accounted (earlier ++ [.tick before calls control after]) := by
  intro hsystemic
  obtain ⟨moment, rest, rfl⟩ := clock_of_tick hpath
  rcases stemsFrom_of_tick hpath hsystemic with hsame | hraised
  · rw [hsame] at hsystemic ⊢
    refine (h hsystemic).imp (fun hraised => since_concat_iff.mpr (.inr ⟨⟨rfl, hsame⟩, hraised⟩)) fun hloaded => ?_
    rw [hloaded, inheritedAlert_of_tick hpath]
  · rw [← Event.failures_tick before after moment rest control] at hraised
    exact .inl (since_concat_iff.mpr (.inl ⟨hraised, rfl⟩))

/-- So does an alert from outside. -/
theorem Accounted.raise (h : c.Accounted earlier) (alert : Alert) (now : UInt32) :
    (c.setStatus (c.status.value.raiseAlert alert now).value).Accounted (earlier ++ [.raise alert now]) := by
  have hslot : (c.setStatus (c.status.value.raiseAlert alert now).value).status.value.alert =
      if c.status.value.alert.accepts alert then ⟨alert.code, now⟩ else c.status.value.alert :=
    c.status.value.alert.value_raise alert now
  intro hsystemic
  split at hslot
  next =>
    refine .inl (since_concat_iff.mpr (.inl ⟨⟨(alert, now), List.mem_singleton_self _, ?_⟩, trivial⟩))
    exact hslot
  next hrefuses =>
    rw [hslot] at hsystemic ⊢
    refine (h hsystemic).imp_left fun hraised => since_concat_iff.mpr (.inr ⟨?_, hraised⟩)
    exact Bool.eq_false_iff.mpr hrefuses

end Controller

/-- Over any run, the controller remembers the slot of its boot. -/
theorem Run.remembersBoot {history : List Event} {last : Option Controller} (hrun : Run none history last) :
    ∀ c ∈ last, c.RemembersBoot history := by
  refine hrun.invariant_of_controller (I := fun history c => c.RemembersBoot history) ?_ ?_ ?_
  · intro earlier trace c hpath slot
    obtain ⟨_, _, _, _, _, _, _, _, _, rfl⟩ := boot_cases hpath
    rw [AlertSlot.BootedWith, since_concat_iff]
    exact or_iff_left fun hup => hup.1
  · intro earlier before trace after hpath h slot
    rw [AlertSlot.BootedWith, since_concat_iff, Controller.inheritedAlert_of_tick hpath, ← h slot]
    exact ⟨fun hsince => hsince.elim False.elim And.right, fun hsince => .inr ⟨trivial, hsince⟩⟩
  · intro earlier c alert now h slot
    rw [AlertSlot.BootedWith, since_concat_iff]
    refine Iff.trans ?_ (h slot)
    exact ⟨fun hsince => hsince.elim False.elim And.right, fun hsince => .inr ⟨trivial, hsince⟩⟩

/-- Over any run, what is on show was raised in this boot or loaded by it. -/
theorem Run.accounted {history : List Event} {last : Option Controller} (hrun : Run none history last) :
    ∀ c ∈ last, c.Accounted history := by
  refine hrun.invariant_of_controller (I := fun history c => c.Accounted history) ?_ (fun hpath h => h.tick hpath)
    fun alert now h => h.raise alert now
  intro earlier trace c hpath _
  obtain ⟨_, _, _, _, _, _, _, _, _, rfl⟩ := boot_cases hpath
  exact .inr rfl

/-! ## Recognition -/

section

variable {earlier : List Event} {before after : Controller} {moment : Moment} {rest : List Exchange}
  {control : Control} {last : Option Controller}

/-- Idling compares the slot on show with the one that was loaded. -/
theorem Run.error_iff_of_idle
    (hrun : Run none (earlier ++ [.tick before (⟨.readClock, moment⟩ :: rest) control after]) last)
    (hidle : before.runState = .idle) (hpress : ⟨.takeButtonFlag, true⟩ ∉ rest) :
    after.runState = .error ↔ before.status.value.alert.shows Alert.isSystemic = true ∧
      ¬before.status.value.alert.BootedWith earlier ∧ before.errorRecheckAt ≤ moment.uptimeMs.toNat := by
  obtain ⟨_, hearlier, hleads⟩ := Run.concat_iff.mp hrun
  cases hleads with
  | tick hpath =>
    rw [Controller.error_iff_of_idle hpath hidle, and_iff_right hpress, Controller.alertToSupervise_iff,
      hearlier.remembersBoot before rfl before.status.value.alert, ne_comm]

/-- Where the button was not pressed, idling turns to the error state exactly where an alert that concerns
the device as a whole is on show, was raised in this boot, is not the same, with the same time, as the one
that the boot loaded, and is not put off. -/
theorem recognised_iff
    (hrun : Run none (earlier ++ [.tick before (⟨.readClock, moment⟩ :: rest) control after]) last)
    (hidle : before.runState = .idle) (hpress : ⟨.takeButtonFlag, true⟩ ∉ rest) :
    after.runState = .error ↔ before.status.value.alert.shows Alert.isSystemic = true ∧
      before.status.value.alert.RaisedIn earlier ∧ ¬before.status.value.alert.BootedWith earlier ∧
      before.errorRecheckAt ≤ moment.uptimeMs.toNat := by
  rw [hrun.error_iff_of_idle hidle hpress]
  refine and_congr_right fun hsystemic => (and_iff_right_of_imp fun ⟨hnew, _⟩ => ?_).symm
  obtain ⟨_, hearlier, hleads⟩ := Run.concat_iff.mp hrun
  cases hleads with
  | tick =>
    refine (hearlier.accounted before rfl hsystemic).resolve_right fun hloaded => hnew ?_
    exact (hearlier.remembersBoot before rfl _).mpr hloaded.symm

end

/-- Devices so many seconds after a boot, offline, with a clock that was not set and began with the boot. -/
def Devices.unsynchronised (secs : Nat) : Devices :=
  .ordinary { now := UInt32.ofNat secs, uptimeMs := UInt64.ofNat (secs * 1000), valid := false, utcOffset := 0 } false

/-- A boot without a connection, up to where the device idles with its alert on show. -/
def unconnected : List Scene :=
  [.boot (.unsynchronised 0), .tick (.unsynchronised 0), .tick (.unsynchronised 1), .tick (.unsynchronised 602),
    .tick (.unsynchronised 603)]

/-- The same after a boot like it, in which the device was reset for the alert. -/
def unconnectedTwice : List Scene :=
  unconnected ++ [.tick (.unsynchronised 604), .tick (.unsynchronised 605), .tick (.unsynchronised 616)] ++ unconnected

/-- After either of them, a tick idles with an alert on show that was raised in its boot. -/
theorem run_unconnected {script : List Scene} (hscript : script = unconnected ∨ script = unconnectedTwice) :
    ∃ before moment rest control after last,
      Run none ((play script .blank).1 ++ [.tick before (⟨.readClock, moment⟩ :: rest) control after]) last ∧
      before.runState = .idle ∧ ⟨.takeButtonFlag, true⟩ ∉ rest ∧
      before.status.value.alert = ⟨Alert.connectTimeout.code, 602⟩ ∧
      before.errorRecheckAt ≤ moment.uptimeMs.toNat := by
  have hsome : (play script .blank).2.controller.isSome = true := by
    rcases hscript with rfl | rfl <;> decide +kernel
  obtain ⟨before, hbefore⟩ := Option.isSome_iff_exists.mp hsome
  have hfacts : ∀ c ∈ (play script .blank).2.controller, c.runState = .idle ∧
      c.status.value.alert = ⟨Alert.connectTimeout.code, 602⟩ ∧ c.errorRecheckAt = 0 := by
    rcases hscript with rfl | rfl <;> decide +kernel
  obtain ⟨hidle, halert, hdue⟩ := hfacts before hbefore
  obtain ⟨hrun, _⟩ := run_play (script ++ [.tick (.unsynchronised 604)]) .blank
  rw [play_concat_tick hbefore] at hrun
  have hpress : ⟨.takeButtonFlag, true⟩ ∉ (Controller.tick.run before).trace
      (Store.environment (.unsynchronised 604)) (play script .blank).2.store :=
    fun hmem => Bool.noConfusion (show true = false from Store.answer_of_mem hmem rfl)
  refine ⟨before, Devices.unsynchronised 604 .readClock, _, _, _, _, hrun, hidle, ?_, halert, ?_⟩
  · exact fun hmem => hpress (List.mem_cons_of_mem _ hmem)
  · rw [hdue]
    exact Nat.zero_le _

/-- In the first boot the failure is recognised. -/
theorem recognised_iff_unconnected :
    ∃ earlier before moment rest control after last,
      Run none (earlier ++ [.tick before (⟨.readClock, moment⟩ :: rest) control after]) last ∧
      before.runState = .idle ∧ ⟨.takeButtonFlag, true⟩ ∉ rest ∧ before.status.value.alert.RaisedIn earlier ∧
      after.runState = .error := by
  obtain ⟨before, moment, rest, control, after, last, hrun, hidle, hpress, halert, hdue⟩ := run_unconnected (.inl rfl)
  have hraised : AlertSlot.RaisedIn ⟨Alert.connectTimeout.code, 602⟩ (play unconnected .blank).1 := by decide +kernel
  have hnew : ¬AlertSlot.BootedWith ⟨Alert.connectTimeout.code, 602⟩ (play unconnected .blank).1 := by decide +kernel
  rw [← halert] at hraised hnew
  have hsystemic : before.status.value.alert.shows Alert.isSystemic = true := by
    rw [halert]
    rfl
  have herror := (recognised_iff hrun hidle hpress).mpr ⟨hsystemic, hraised, hnew, hdue⟩
  exact ⟨_, before, moment, rest, control, after, last, hrun, hidle, hpress, hraised, herror⟩

/-- In the second boot it is not. So it is not true of every run that idling turns to the error state where an
alert that concerns the device as a whole was raised in the same boot, is still on show, and is not put off. -/
theorem failure_overlooked :
    ¬∀ earlier before moment rest control after last,
      Run none (earlier ++ [.tick before (⟨.readClock, moment⟩ :: rest) control after]) last →
      before.runState = .idle → ⟨.takeButtonFlag, true⟩ ∉ rest →
      before.status.value.alert.shows Alert.isSystemic = true → before.status.value.alert.RaisedIn earlier →
      before.errorRecheckAt ≤ moment.uptimeMs.toNat → after.runState = .error := by
  intro halways
  obtain ⟨before, moment, rest, control, after, last, hrun, hidle, hpress, halert, hdue⟩ := run_unconnected (.inr rfl)
  have hraised : AlertSlot.RaisedIn ⟨Alert.connectTimeout.code, 602⟩ (play unconnectedTwice .blank).1 := by
    decide +kernel
  have hloaded : AlertSlot.BootedWith ⟨Alert.connectTimeout.code, 602⟩ (play unconnectedTwice .blank).1 := by
    decide +kernel
  rw [← halert] at hraised hloaded
  have hsystemic : before.status.value.alert.shows Alert.isSystemic = true := by
    rw [halert]
    rfl
  have herror := halways _ before moment rest control after last hrun hidle hpress hsystemic hraised hdue
  exact ((hrun.error_iff_of_idle hidle hpress).mp herror).2.1 hloaded

end FieldCounter
