import FieldCounter.Proofs.ErrorEntry
import FieldCounter.Proofs.InheritedAlert

/-!
# Backing off

Where the ladder has nothing to offer, the device goes back to idling, and for an hour it does not enter
the error state from there. But the hour is minded by idling alone. A radio that is not down in time leads
from sleeping into the error state at any time.
-/

namespace FieldCounter

open Program (Path)

/-- The tick begins at the uptime in the error state, the ladder answers that nothing is to be done, and
the device goes back to idling. -/
def Event.GivesUp (uptime : UInt64) (event : Event) : Prop :=
  ∃ moment ∈ event.moment, moment.uptimeMs = uptime ∧ match event with
    | .tick before _ _ after => before.runState = .error ∧
      (resolveAlert before.status.value.alert (before.recoveryContext moment)).value.1 = .noAction ∧
      after.runState = .idle
    | .boot _ _ | .raise _ _ => False

/-- The device goes on in the same boot, not before the uptime. -/
def Event.GoesOnFrom (uptime : UInt64) (event : Event) : Prop :=
  (∀ moment ∈ event.moment, uptime.toNat ≤ moment.uptimeMs.toNat) ∧ match event with
    | .boot _ _ => False
    | .tick _ _ _ _ | .raise _ _ => True

/-- At the uptime the ladder had nothing to offer, and since then the device was not booted, nor did its
uptime fall behind. -/
def GaveUpAt (uptime : UInt64) : List Event → Prop := Since (Event.GivesUp uptime) (Event.GoesOnFrom uptime)

instance (uptime : UInt64) : DecidablePred (Event.GivesUp uptime)
  | .tick _ _ _ _ => inferInstanceAs (Decidable (∃ moment ∈ _, _ ∧ _ ∧ _ ∧ _))
  | .boot _ _ | .raise _ _ => .isFalse fun ⟨_, _, _, hfalse⟩ => hfalse

instance (uptime : UInt64) : DecidablePred (Event.GoesOnFrom uptime)
  | .tick _ _ _ _ | .raise _ _ => inferInstanceAs (Decidable ((∀ moment ∈ _, _) ∧ True))
  | .boot _ _ => .isFalse And.right

instance (uptime : UInt64) : DecidablePred (GaveUpAt uptime) :=
  inferInstanceAs (DecidablePred (Since _ _))

/-! ## The deadline -/

/-- Only putting the error state off moves the deadline. -/
theorem Effect.Does.errorRecheckAt_eq {effect : Effect} {before after : Controller} {trace : List Exchange}
    (h : effect.Does before trace after) (hputOff : effect ≠ .putOff) :
    after.errorRecheckAt = before.errorRecheckAt := by
  cases h with
  | putOff => exact absurd rfl hputOff
  | enter uptime =>
    show (before.prepare uptime).errorRecheckAt = _
    unfold Controller.prepare
    split <;> rfl
  | _ => rfl

/-- Only putting the next look off changes when it is due. -/
theorem Effects.errorRecheckAt_eq {allowed : Effect → Bool} {before after : Controller} {trace : List Exchange}
    (h : Effects allowed before trace after) (hputOff : allowed .putOff = false) :
    after.errorRecheckAt = before.errorRecheckAt := by
  induction h with
  | none c => rfl
  | cons hallowed hdoes _ ih =>
    refine ih.trans (hdoes.errorRecheckAt_eq ?_)
    rintro rfl
    rw [hputOff] at hallowed
    cases hallowed

/-- The deadline that is set at the uptime, in milliseconds: an hour later, as far as uptimes reach. -/
def recheckAfter (uptime : UInt64) : Nat := min (uptime.toNat + errorRecheckSecs * 1000) uptimeMax

namespace Controller

open Step

variable {c after : Controller} {trace rest : List Exchange} {control : Control} {moment : Moment}

/-- Outside the error state the deadline stays. -/
theorem errorRecheckAt_of_tick (h : Path (tick.run c) trace (control, after)) (hstate : c.runState ≠ .error) :
    after.errorRecheckAt = c.errorRecheckAt := by
  obtain ⟨first, closing, ready, heffects, hflush, rfl⟩ := effects_tick h
  have hready : ready.errorRecheckAt = c.errorRecheckAt := by
    refine heffects.errorRecheckAt_eq ?_
    cases hstate' : c.runState <;> first | rfl | exact absurd hstate' hstate
  exact (Effects.errorRecheckAt_eq (within_flush_writes hflush) rfl).trans hready

/-- In the error state the deadline is set where the ladder sends the device back to idling, and stays
otherwise. -/
theorem ensures_rescuing_putOff (moment : Moment)
    (hresets : ∀ resolution decided, c.decision = some (resolution, decided) → resolution ≠ .noAction) :
    (rescuing moment).Ensures c fun _ outcome after =>
      after.errorRecheckAt = if outcome = .moveTo .idle then recheckAfter moment.uptimeMs else c.errorRecheckAt := by
  refine (ensures_attends moment).mono fun trace outcome after hattends => ?_
  cases hattends with
  | looks | decides | waits => exact (if_neg nofun).symm
  | dismisses => exact (if_pos rfl).symm
  | recovers hdecision _ hrecovers =>
    cases hrecovers with
    | idles hnone => exact absurd hnone (hresets _ _ hdecision)
    | resets _ _ _ hflush =>
      obtain ⟨_, _, config, _, _, status, _, _, _, rfl⟩ := flush_cases hflush
      exact (if_neg nofun).symm

/-- So does the tick that carries it out. -/
theorem errorRecheckAt_of_rescue (h : Path (tick.run c) (⟨.readClock, moment⟩ :: rest) (control, after))
    (hstate : c.runState = .error)
    (hresets : ∀ resolution decided, c.decision = some (resolution, decided) → resolution ≠ .noAction) :
    after.errorRecheckAt = if after.runState = .idle then recheckAfter moment.uptimeMs else c.errorRecheckAt := by
  obtain ⟨detected, middle, outcome, carried, closing, hcarry, hflush, _⟩ := told_of_tick h
  have hundone : ∀ resolution decided, (c.opened detected moment).decision = some (resolution, decided) →
      resolution ≠ .noAction := by
    intro resolution decided hdecision
    rcases c.decision_opened detected moment with hsame | hnone
    · exact hresets resolution decided (hsame.symm.trans hdecision)
    · rw [hnone] at hdecision
      cases hdecision
  have hrescued : carried.errorRecheckAt =
      if outcome = .moveTo .idle then recheckAfter moment.uptimeMs else c.errorRecheckAt := by
    rw [← c.errorRecheckAt_opened detected moment]
    exact ensures_rescuing_putOff moment hundone (work_of_opened hcarry hstate)
  have hwrites : Effects Effect.writes (carried.following outcome) closing after := within_flush_writes hflush
  have hkept : (carried.following outcome).errorRecheckAt = carried.errorRecheckAt := by cases outcome <;> rfl
  have hstays : (c.opened detected moment).runState ≠ .idle := by
    rw [runState_opened, hstate]
    decide
  rw [hwrites.errorRecheckAt_eq rfl, hkept, hrescued]
  simp only [runState_eq_iff hcarry hflush hstays]

end Controller

/-- A later uptime sets no earlier deadline. -/
theorem recheckAfter_mono {uptime later : UInt64} (h : uptime.toNat ≤ later.toNat) :
    recheckAfter uptime ≤ recheckAfter later := by
  unfold recheckAfter
  omega

/-- In every run, once the ladder had nothing to offer, the error state is put off for an hour, or longer. -/
theorem Run.putOff {history : List Event} {last : Option Controller} {uptime : UInt64}
    (hrun : Run none history last) :
    ∀ c ∈ last, GaveUpAt uptime history → recheckAfter uptime ≤ c.errorRecheckAt := by
  induction history using List.reverseRecOn generalizing last with
  | nil => exact fun _ _ hgaveUp => absurd hgaveUp not_since_nil
  | append_singleton earlier event ih =>
    obtain ⟨between, hearlier, hleads⟩ := Run.concat_iff.mp hrun
    intro c hc hgaveUp
    have hlast := since_concat_iff.mp hgaveUp
    cases hleads with
    | boot hpath => rcases hlast with ⟨_, hnone, _⟩ | ⟨⟨_, hfalse⟩, _⟩ <;> [cases hnone; cases hfalse]
    | raise before alert now =>
      obtain rfl := Option.some.inj hc
      rcases hlast with ⟨_, hnone, _⟩ | ⟨_, hsince⟩
      · cases hnone
      · exact ih hearlier before rfl hsince
    | @tick before after trace control hpath =>
      obtain rfl : after = c := by
        cases control with
        | proceed => exact Option.some.inj hc
        | restart => cases hc
      obtain ⟨moment, rest, rfl⟩ := Controller.clock_of_tick hpath
      have hresets : ∀ resolution decided, before.decision = some (resolution, decided) → resolution ≠ .noAction := by
        intro resolution decided hdecision
        obtain ⟨_, _, _, _, _, _, ⟨_, hdecides⟩, _⟩ := hearlier.decided before rfl resolution decided hdecision
        exact hdecides.ne_noAction
      rcases hlast with ⟨found, hfound, rfl, herror, _, hidle⟩ | ⟨⟨hlater, _⟩, hsince⟩
      · obtain rfl := Option.some.inj hfound
        exact Nat.le_of_eq ((Controller.errorRecheckAt_of_rescue hpath herror hresets).trans (if_pos hidle)).symm
      · have hkept := ih hearlier before rfl hsince
        by_cases hstate : before.runState = .error
        · rw [Controller.errorRecheckAt_of_rescue hpath hstate hresets]
          split
          · exact recheckAfter_mono (hlater moment rfl)
          · exact hkept
        · rw [Controller.errorRecheckAt_of_tick hpath hstate]
          exact hkept

/-! ## Within the hour -/

/-- Within the hour the error state is entered only from sleeping, exactly where switching the radio off
fails in a stay that began earlier, or at the very end of the uptimes. -/
theorem entersError_early_iff {earlier : List Event} {before after : Controller} {moment : Moment}
    {rest : List Exchange} {control : Control} {last : Option Controller} {uptime : UInt64}
    (hrun : Run none (earlier ++ [.tick before (⟨.readClock, moment⟩ :: rest) control after]) last)
    (hgaveUp : GaveUpAt uptime earlier)
    (hearly : moment.uptimeMs.toNat < uptime.toNat + errorRecheckSecs * 1000) :
    before.runState ≠ .error ∧ after.runState = .error ↔
      (before.runState = .sleeping ∧ before.previous = some .sleeping ∧ before.TeardownFails moment rest) ∨
      (before.runState = .idle ∧ moment.uptimeMs.toNat = uptimeMax ∧ ⟨.takeButtonFlag, true⟩ ∉ rest ∧
        (before.alertToSupervise moment).isSome = true) := by
  obtain ⟨_, hearlier, hleads⟩ := Run.concat_iff.mp hrun
  cases hleads with
  | tick hpath =>
    have hput : recheckAfter uptime ≤ before.errorRecheckAt := hearlier.putOff before rfl hgaveUp
    cases hstate : before.runState with
    | idle =>
      have hatEnd : (before.alertToSupervise moment).isSome = true → moment.uptimeMs.toNat = uptimeMax := by
        intro hsupervised
        have hreached := (Controller.alertToSupervise_iff.mp hsupervised).2.2
        have hbound : moment.uptimeMs.toNat < 2 ^ 64 := moment.uptimeMs.toNat_lt
        unfold recheckAfter at hput
        unfold uptimeMax at hput ⊢
        omega
      rw [Controller.error_iff_of_idle hpath hstate]
      simp only [ne_eq, reduceCtorEq, not_false_eq_true, true_and, false_and, false_or]
      exact ⟨fun ⟨hpress, hsupervised⟩ => ⟨hatEnd hsupervised, hpress, hsupervised⟩, And.right⟩
    | sleeping =>
      rw [Controller.error_iff_of_sleeping hpath hstate]
      simp
    | error => simp
    | initialization | connecting | reporting | firmwareUpdate =>
      have hnever : after.runState ≠ .error := by
        intro herror
        cases Controller.entersError_of_tick hpath herror with
        | stayed hbefore => exact absurd (hstate.symm.trans hbefore) (by decide)
        | supervised hbefore => exact absurd (hstate.symm.trans hbefore) (by decide)
        | stuck hbefore => exact absurd (hstate.symm.trans hbefore) (by decide)
      simp [hnever]

/-- Stored settings by which the ladders came to their end: four resets were made. -/
def laddersSpent : Stage :=
  { controller := none
    store := Stage.blank.store.put .config (Record.encode { (default : DeviceConfig) with resetCount := 4 }) }

/-- The devices some seconds after noon, with a modem that never switches off. -/
def Devices.modemStuck (secs : Nat) : Devices
  | .isModemOff => false
  | call => Devices.afterNoon secs false call

/-- One evening the modem never switches off. Sleeping gives it up after its budget, and so does the error
state, where nothing is to be done about it; the device goes back to idling and from there to sleeping. -/
def radioTriedAgain : List Scene :=
  [.boot (.modemStuck 36100), .tick (.modemStuck 36100), .tick (.modemStuck 36101), .tick (.modemStuck 36102),
    .tick (.modemStuck 36148), .tick (.modemStuck 36149), .tick (.modemStuck 36195), .tick (.modemStuck 36196),
    .tick (.modemStuck 36197)]

/-- After another budget it is in the error state again, not a minute after there was nothing to be done. -/
theorem run_radioTriedAgain :
    ∃ earlier before moment rest control after last,
      Run none (earlier ++ [.tick before (⟨.readClock, moment⟩ :: rest) control after]) last ∧
      GaveUpAt 36195000 earlier ∧ moment.uptimeMs = 36243000 ∧ before.runState = .sleeping ∧
      after.runState = .error := by
  have hsome : (play radioTriedAgain laddersSpent).2.controller.isSome = true := by decide +kernel
  obtain ⟨before, hbefore⟩ := Option.isSome_iff_exists.mp hsome
  obtain ⟨hrun, _⟩ := run_play (radioTriedAgain ++ [.tick (.modemStuck 36243)]) laddersSpent
  rw [play_concat_tick hbefore] at hrun
  have hgaveUp : GaveUpAt 36195000 (play radioTriedAgain laddersSpent).1 := by decide +kernel
  have hstates : ∀ c ∈ (play radioTriedAgain laddersSpent).2.controller, c.runState = .sleeping ∧
      ((Controller.tick.run c).run (Store.environment (.modemStuck 36243))
        (play radioTriedAgain laddersSpent).2.store).1.2.runState = .error := by decide +kernel
  obtain ⟨hsleeping, herror⟩ := hstates before hbefore
  exact ⟨_, before, Devices.modemStuck 36243 .readClock, _, _, _, _, hrun, hgaveUp, rfl, hsleeping, herror⟩

/-- The teardown has failed in a stay that began before. -/
theorem entersError_early_iff_radioTriedAgain :
    ∃ earlier before moment rest control after last uptime,
      Run none (earlier ++ [.tick before (⟨.readClock, moment⟩ :: rest) control after]) last ∧
      GaveUpAt uptime earlier ∧ moment.uptimeMs.toNat < uptime.toNat + errorRecheckSecs * 1000 ∧
      after.runState = .error ∧ before.previous = some .sleeping ∧ before.TeardownFails moment rest := by
  obtain ⟨earlier, before, moment, rest, control, after, last, hrun, hgaveUp, huptime, hsleeping, herror⟩ :=
    run_radioTriedAgain
  have hearly : moment.uptimeMs.toNat < (36195000 : UInt64).toNat + errorRecheckSecs * 1000 := by
    rw [huptime]
    decide
  have henters := (entersError_early_iff hrun hgaveUp hearly).mp ⟨by rw [hsleeping]; decide, herror⟩
  obtain ⟨_, hprevious, hfails⟩ := henters.resolve_right fun hidle => by
    rw [hsleeping] at hidle
    cases hidle.1
  exact ⟨earlier, before, moment, rest, control, after, last, 36195000, hrun, hgaveUp, hearly, herror, hprevious,
    hfails⟩

/-- So it is not true of every run that the error state is entered only an hour after there was nothing to
be done. -/
theorem entersError_within_hour :
    ¬∀ earlier before moment rest control after last uptime,
      Run none (earlier ++ [.tick before (⟨.readClock, moment⟩ :: rest) control after]) last →
      GaveUpAt uptime earlier → uptime.toNat ≤ moment.uptimeMs.toNat →
      moment.uptimeMs.toNat < uptime.toNat + errorRecheckSecs * 1000 →
      ¬(before.runState ≠ .error ∧ after.runState = .error) := by
  intro hnever
  obtain ⟨earlier, before, moment, rest, control, after, last, hrun, hgaveUp, huptime, hsleeping, herror⟩ :=
    run_radioTriedAgain
  refine hnever earlier before moment rest control after last 36195000 hrun hgaveUp ?_ ?_ ⟨?_, herror⟩
  · rw [huptime]
    decide
  · rw [huptime]
    decide
  · rw [hsleeping]
    decide

end FieldCounter
