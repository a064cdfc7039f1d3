import Mathlib.Data.List.MinMax
import FieldCounter.Proofs.OnlineActions
import FieldCounter.Proofs.Script

/-!
# What the actions after a connection come to

Whatever the devices answer, each action is tried, and in the end the slot shows the most severe of the
alerts that were there to be shown: the one from before unless the connection cured it, and one for each
action that failed. A fresh webhook answer takes the alert for a silent one off show again, if that is what is
left. The count of resets is kept only under an alert that concerns the device as a whole.
-/

namespace FieldCounter

open Program

/-! ## The most severe of several alerts -/

namespace AlertSlot

variable {slot : AlertSlot} {candidates : List Alert}

/-- A slot that shows the most severe of several alerts shows the most severe of one more after that was
raised. -/
theorem current_raiseIf (h : slot.current = candidates.argmax Alert.severity) (due : Bool) (alert : Alert)
    (now : UInt32) : (slot.raiseIf due alert now).current =
      (candidates ++ if due then [alert] else []).argmax Alert.severity := by
  cases due with
  | false =>
    rw [if_neg Bool.false_ne_true, List.append_nil]
    exact h
  | true =>
    rw [if_pos rfl, List.argmax_concat, ← h, raiseIf_eq, Bool.true_and, accepts]
    cases hcurrent : slot.current with
    | none =>
      rw [Option.all_none, if_pos rfl]
      exact current_mk_code alert now
    | some existing =>
      rw [Option.all_some]
      dsimp only
      rcases Nat.lt_trichotomy existing.severity alert.severity with hless | hsame | hmore
      · rw [decide_eq_true (Nat.le_of_lt hless), if_pos rfl, if_pos hless]
        exact current_mk_code alert now
      · obtain rfl := Alert.severity_injective hsame
        rw [decide_eq_true (Nat.le_refl _), if_pos rfl, if_neg (Nat.lt_irrefl _)]
        exact current_mk_code existing now
      · rw [decide_eq_false (Nat.not_le.mpr hmore), if_neg Bool.false_ne_true, if_neg (Nat.lt_asymm hmore)]
        exact hcurrent

/-- The same is true of a fault that comes with a reading. -/
theorem current_afterReading (h : slot.current = candidates.argmax Alert.severity) (now : UInt32)
    (reading : BatteryReading) : (slot.afterReading now reading).current =
      (candidates ++ (reading.fault.map PowerFault.alert).toList).argmax Alert.severity := by
  unfold afterReading
  cases reading.fault with
  | none =>
    rw [Option.map_none, Option.toList_none, List.append_nil]
    exact h
  | some fault => exact current_raiseIf h true fault.alert now

/-- What is left on show after a clear is what it does not concern. -/
theorem current_clearIf (slot : AlertSlot) (p : Alert → Bool) :
    (slot.clearIf p).value.current = slot.current.filter fun alert => !p alert := by
  rw [value_clearIf, shows]
  cases hcurrent : slot.current with
  | none => exact hcurrent
  | some alert =>
    rw [Option.any_some, Option.filter_some]
    cases p alert
    · exact hcurrent
    · rfl

/-- A known alert that is raised leaves a known one on show. -/
theorem isKnown_raiseIf (h : slot.isKnown = true) (due : Bool) (alert : Alert) (now : UInt32) :
    (slot.raiseIf due alert now).isKnown = true := by
  cases due
  · exact h
  · exact isKnown_raise h alert now

/-- So does a reading. -/
theorem isKnown_afterReading (h : slot.isKnown = true) (now : UInt32) (reading : BatteryReading) :
    (slot.afterReading now reading).isKnown = true := by
  unfold afterReading
  cases reading.fault with
  | none => exact h
  | some fault => exact isKnown_raiseIf h true fault.alert now

/-- Nothing but a known alert is left on show by the actions after a connection. -/
theorem isKnown_afterOnline (h : slot.isKnown = true) (answers : OnlineAnswers) (applied : Bool) (now : UInt32) :
    (slot.afterOnline answers applied now).isKnown = true := by
  have hread := isKnown_afterReading (isKnown_clearIf h Alert.isConnectivity) now answers.reading
  have hfailed := isKnown_raiseIf (isKnown_raiseIf (isKnown_raiseIf hread (!applied) .configApplyFailed now)
    answers.dataFailed .dataPublishFailed now) (!answers.sent) .statusPublishFailed now
  unfold afterOnline
  extract_lets failed
  split
  · exact isKnown_clearIf hfailed _
  · exact hfailed

/-- A slot with a known code has the code of what it shows. -/
theorem code_eq (h : slot.isKnown = true) : slot.code = slot.current.elim 0 Alert.code := by
  unfold isKnown at h
  cases hcurrent : slot.current with
  | none => simpa [hcurrent] using h
  | some alert => exact Alert.ofCode?_eq_some_iff.mp hcurrent

end AlertSlot

/-! ## What is left -/

namespace OnlineAnswers

variable (answers : OnlineAnswers) (records : Records) (now : UInt32)

/-- The alerts that are there to be shown: the one from before unless it speaks of a lost connection, the
fault that comes with the reading, and one for each action that failed. -/
def candidates : List Alert :=
  (records.status.alert.current.filter fun alert => !alert.isConnectivity).toList ++
    (answers.reading.fault.map PowerFault.alert).toList ++
    (if records.config.acceptsAll answers.remote then [] else [.configApplyFailed]) ++
    (if answers.dataFailed then [.dataPublishFailed] else []) ++
    (if answers.sent then [] else [.statusPublishFailed])

/-- The alert that is left on show: the most severe one, but not the one for a silent webhook after a fresh
answer. -/
def shown : Option Alert :=
  ((answers.candidates records).argmax Alert.severity).filter fun alert =>
    !(answers.hookFresh now && alert == .webhookStale)

/-- With these answers, the actions after a connection make these calls and leave these records. -/
structure Leave (publish : Bool) (trace : List Exchange) (left : Records) : Prop where
  calls : trace = answers.calls
  published : answers.data.isSome = publish
  code : left.status.alert.code = (answers.shown records now).elim 0 Alert.code
  config : left.config = { records.config.leftByLoad answers.remote with
    resetCount := if (answers.shown records now).any Alert.isSystemic then records.config.resetCount else 0
    lastConnection := now
    lastHookResponse := answers.answered.getD records.config.lastHookResponse }

end OnlineAnswers

/-- What a slot shows after the actions with these answers. -/
theorem AlertSlot.current_afterOnline (records : Records) (answers : OnlineAnswers) (now : UInt32) :
    (records.status.alert.afterOnline answers (records.config.acceptsAll answers.remote) now).current =
      answers.shown records now := by
  have hspared : (records.status.alert.clearIf Alert.isConnectivity).value.current =
      ((records.status.alert.current.filter fun alert => !alert.isConnectivity).toList).argmax Alert.severity := by
    rw [current_clearIf]
    cases records.status.alert.current.filter fun alert => !alert.isConnectivity <;> rfl
  have hread := current_afterReading hspared now answers.reading
  have hfailed := current_raiseIf (current_raiseIf (current_raiseIf hread
    (!records.config.acceptsAll answers.remote) .configApplyFailed now)
    answers.dataFailed .dataPublishFailed now) (!answers.sent) .statusPublishFailed now
  have hcandidates : _ = (answers.candidates records).argmax Alert.severity := hfailed.trans (by
    unfold OnlineAnswers.candidates
    cases records.config.acceptsAll answers.remote <;> cases answers.sent <;> rfl)
  unfold afterOnline OnlineAnswers.shown
  extract_lets failed
  cases answers.hookFresh now
  · rw [if_neg Bool.false_ne_true]
    refine hcandidates.trans ?_
    cases (answers.candidates records).argmax Alert.severity <;> rfl
  · rw [if_pos rfl, current_clearIf]
    exact congrArg (Option.filter fun alert => !alert == Alert.webhookStale) hcandidates

/-- The actions after a connection, end to end. From records whose alert is absent or known, at any time and
whatever the devices answer: the settings are fetched once, the health is published once, and the figures
once where they are wanted and not at all elsewhere, whichever of these fails. The alert that is left is the
most severe one that was there to be shown, less the one for a silent webhook after a fresh answer. The count
of resets is cleared unless what is left concerns the device as a whole, and the times of the connection and
of the last webhook answer are taken over. -/
theorem actOnline_leaves {σ : Type} (env : Environment σ) (world : σ) (records : Records) (healthy publish : Bool)
    (now : UInt32) (hknown : records.status.alert.isKnown = true) :
    ∃ answers : OnlineAnswers, answers.Leave records now publish
      ((actOnline records healthy publish now).trace env world)
      ((actOnline records healthy publish now).run env world).1.2 := by
  obtain ⟨answers, hcalls, hdata, halert, hconfig⟩ :=
    ensures_actOnline records healthy publish now ((actOnline records healthy publish now).path_run env world)
  have hcurrent := AlertSlot.current_afterOnline records answers now
  rw [← halert] at hcurrent
  refine ⟨answers, hcalls, hdata, ?_, ?_⟩
  · rw [← hcurrent]
    apply AlertSlot.code_eq
    rw [halert]
    exact AlertSlot.isKnown_afterOnline hknown answers _ now
  · rw [hconfig, AlertSlot.shows, hcurrent]
    rfl

/-- A connection that comes after a timeout cures the alert for it, although that would have been the most severe.
One of two settings is refused and nothing can be published, so three alerts are there to be shown, and the
one for the settings is left. It does not concern the device as a whole, so the resets are forgotten. -/
theorem actOnline_leaves_nothingPublished :
    let devices : Devices
      | .loadRemote => some { timing := { openHour := some 24, closeHour := some 9 } }
      | .publishData _ | .publishStatus _ => false
      | .lastHookResponse => some 7
      | call => Devices.afterNoon 60 true call
    let records : Records := { config := { resetCount := 3 }, status := { alert := ⟨31, 5⟩ } }
    let left := ((actOnline records true true 100).run devices.environment ()).1.2
    records.status.alert.isKnown = true ∧ left.status.alert = ⟨41, 100⟩ ∧
      left.config = { records.config with
        closeHour := 9, resetCount := 0, lastConnection := 100, lastHookResponse := 7 } ∧
      ∃ answers : OnlineAnswers, answers.Leave records 100 true
        ((actOnline records true true 100).trace devices.environment ()) left := by
  intro devices records left
  have hknown : records.status.alert.isKnown = true := by decide
  exact ⟨hknown, by decide +kernel, by decide +kernel,
    actOnline_leaves devices.environment () records true true 100 hknown⟩

end FieldCounter
