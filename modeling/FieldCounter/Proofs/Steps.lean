/-!
# Runs of any step relation

A step leads from one state to another and has a label, which is an event of the device or an operation of one of its
parts. A run goes through a list of steps, each from where the one before left off. What holds of runs whatever the
steps are is said here, for the device as a whole and for the sessions and drivers that it keeps.
-/

namespace FieldCounter

variable {σ ε : Type} {leads : σ → ε → σ → Prop} {state last : σ} {steps earlier later : List ε} {step : ε}

/-- The steps can be taken one after the other, from the first state to the last. -/
inductive Steps (leads : σ → ε → σ → Prop) : σ → List ε → σ → Prop where
  | nil (state : σ) : Steps leads state [] state
  | cons {state between last : σ} {step : ε} {rest : List ε} :
      leads state step between → Steps leads between rest last → Steps leads state (step :: rest) last

namespace Steps

/-- A run falls into a run through the first part of its steps and one through the second. -/
theorem append_iff :
    Steps leads state (earlier ++ later) last ↔
      ∃ between, Steps leads state earlier between ∧ Steps leads between later last := by
  induction earlier generalizing state with
  | nil =>
    refine ⟨fun h => ⟨state, .nil state, h⟩, fun h => ?_⟩
    obtain ⟨between, hnil, hlater⟩ := h
    cases hnil
    exact hlater
  | cons step earlier ih =>
    refine ⟨fun h => ?_, fun h => ?_⟩
    · cases h with
      | cons hleads hrest =>
        obtain ⟨between, hearlier, hlater⟩ := ih.mp hrest
        exact ⟨between, .cons hleads hearlier, hlater⟩
    · obtain ⟨between, hearlier, hlater⟩ := h
      cases hearlier with
      | cons hleads hrest => exact .cons hleads (ih.mpr ⟨between, hrest, hlater⟩)

/-- A run ends with its last step. -/
theorem concat_iff :
    Steps leads state (earlier ++ [step]) last ↔
      ∃ between, Steps leads state earlier between ∧ leads between step last := by
  rw [append_iff]
  refine exists_congr fun between => and_congr_right fun _ => ?_
  constructor
  · intro h
    cases h with
    | cons hleads hnil =>
      cases hnil
      exact hleads
  · exact fun hleads => .cons hleads (.nil last)

/-- Each step of a run is taken where the steps before it lead, and the run goes on from where it leads itself. -/
theorem reach (h : Steps leads state (earlier ++ step :: later) last) :
    ∃ before after, Steps leads state earlier before ∧ leads before step after ∧ Steps leads after later last := by
  obtain ⟨before, hearlier, hrest⟩ := append_iff.mp h
  cases hrest with
  | cons hleads hlater => exact ⟨before, _, hearlier, hleads, hlater⟩

/-- Every step of a run can be taken. -/
theorem leads_of_mem (h : Steps leads state steps last) (hmem : step ∈ steps) :
    ∃ before after, leads before step after := by
  obtain ⟨earlier, later, rfl⟩ := List.append_of_mem hmem
  obtain ⟨before, after, _, hleads, _⟩ := h.reach
  exact ⟨before, after, hleads⟩

/-- What every step of a run carries on, with the steps up to it, the run carries on. -/
theorem invariant {I : List ε → σ → Prop} (h : Steps leads state steps last) (hstart : I earlier state)
    (hstep : ∀ earlier state step next, leads state step next → I earlier state → I (earlier ++ [step]) next) :
    I (earlier ++ steps) last := by
  induction h generalizing earlier with
  | nil state => rwa [List.append_nil]
  | cons hleads _ ih =>
    have hnext := ih (hstep earlier _ _ _ hleads hstart)
    rwa [List.append_assoc] at hnext

end Steps

end FieldCounter
