import FieldCounter.Recovery

/-!
# What the ladder decides

The decision about the alert on show and the slot afterwards, without the notes, and what follows for
the number of resets: the ladder never decides on a fifth one.
-/

namespace FieldCounter

/-- An alert that is no fault in the present mode is cleared; every other one is put on its ladder. -/
theorem value_resolveAlert (slot : AlertSlot) (context : RecoveryContext) :
    (resolveAlert slot context).value =
      match slot.current with
      | none => (.noAction, slot)
      | some alert =>
        if alert.onlyInConnectedMode && context.mode != .connected then (.noAction, .empty)
        else (context.decide alert, slot) := by
  unfold resolveAlert
  split
  · rename_i alert hcurrent
    extract_lets rest
    have hrest : ∀ result, (rest result).value = result := by
      rintro ⟨resolution, slot⟩
      cases resolution <;> rfl
    rw [hcurrent]
    dsimp only
    split
    · simp only [Logged.value_bind, hrest, Logged.value_pure, AlertSlot.value_clear]
    · simp only [Logged.value_bind, hrest, Logged.value_pure]
  · rename_i hcurrent
    cases hslot : slot.current with
    | none => rfl
    | some alert => exact absurd hslot (hcurrent alert)

/-- The ladder leaves the slot as it is, or empties it. -/
theorem slot_resolveAlert (slot : AlertSlot) (context : RecoveryContext) :
    (resolveAlert slot context).value.2 = slot ∨ (resolveAlert slot context).value.2 = .empty := by
  rw [value_resolveAlert]
  split
  · exact .inl rfl
  · split
    · exact .inr rfl
    · exact .inl rfl

/-- A reset is decided on only for an alert on show that has a ladder. -/
theorem ladder_of_resolveAlert {slot : AlertSlot} {context : RecoveryContext}
    (h : (resolveAlert slot context).value.1 ≠ .noAction) :
    ∃ alert, slot.current = some alert ∧ alert.ladder ≠ .flat := by
  rw [value_resolveAlert] at h
  cases hcurrent : slot.current with
  | none =>
    rw [hcurrent] at h
    exact absurd rfl h
  | some alert =>
    refine ⟨alert, rfl, fun hflat => h ?_⟩
    rw [hcurrent]
    have hdecide : context.decide alert = .noAction := by simp [RecoveryContext.decide, hflat, Ladder.rung, Ladder.flat]
    dsimp only
    split
    · rfl
    · exact hdecide

/-- A reset is decided on only while fewer than four were made. -/
theorem lt_four_of_resolveAlert {slot : AlertSlot} {context : RecoveryContext}
    (h : (resolveAlert slot context).value.1 ≠ .noAction) : context.resetCount.toNat < 4 := by
  refine Nat.lt_of_not_le fun hfour => h ?_
  have hdecide : ∀ alert, context.decide alert = .noAction := by
    intro alert
    unfold RecoveryContext.decide
    split
    · rfl
    · exact Ladder.rung_eq_noAction alert hfour
  rw [value_resolveAlert]
  split
  · rfl
  · split
    · rfl
    · exact hdecide _

end FieldCounter
