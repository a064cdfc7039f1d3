import FieldCounter.Proofs.ErrorState
import FieldCounter.Proofs.Run

/-!
# Visits to a state

A visit to a state begins with the first tick that carries it out after one of another state, or after the boot, and
lasts until a tick leads on. Seen from outside it is a stretch of the history; the controller knows of it by the note of
the state carried out last, by which it sets up what belongs to the visit.
-/

namespace FieldCounter

open Program (Path)

/-! ## The state before -/

/-- The state carried out last, once the event has happened. -/
def Event.carriedOut (last : Option RunState) : Event → Option RunState
  | .boot _ _ => none
  | .tick before _ _ _ => some before.runState
  | .raise _ _ => last

/-- The state that the last tick since the boot carried out. -/
def lastState (history : List Event) : Option RunState := history.foldl Event.carriedOut none

/-- The state carried out last is told from the last event, and from the ones before it. -/
theorem lastState_concat (history : List Event) (event : Event) :
    lastState (history ++ [event]) = event.carriedOut (lastState history) := by
  rw [lastState, List.foldl_append]
  rfl

/-- The controller knows which state that was. -/
theorem Run.previous_eq {history : List Event} {last : Option Controller} (hrun : Run none history last) :
    ∀ c ∈ last, c.previous = lastState history := by
  refine hrun.invariant_of_controller (I := fun history c => c.previous = lastState history) ?_ ?_ ?_
  · intro earlier trace c hpath
    obtain ⟨_, _, _, _, _, _, _, _, _, rfl⟩ := boot_cases hpath
    rw [lastState_concat]
    rfl
  · intro earlier before trace after hpath _
    rw [lastState_concat]
    exact Controller.previous_of_tick hpath
  · intro earlier c alert now h
    rw [lastState_concat]
    exact h

/-! ## Visits -/

/-- The event carries the state out, or it is an alert from outside in between. -/
def Event.CarriesOut (state : RunState) : Event → Prop
  | .tick before _ _ _ => before.runState = state
  | .raise _ _ => True
  | .boot _ _ => False

instance (state : RunState) : DecidablePred (Event.CarriesOut state)
  | .tick before _ _ _ => inferInstanceAs (Decidable (before.runState = state))
  | .raise _ _ => inferInstanceAs (Decidable True)
  | .boot _ _ => inferInstanceAs (Decidable False)

/-- After the earlier events the device comes to the state, and the events of the visit carry it out. -/
structure Visits (state : RunState) (earlier visit : List Event) : Prop where
  entered : lastState earlier ≠ some state
  stays : ∀ event ∈ visit, event.CarriesOut state

/-- The last events of a history visit the state, if there are any that do. -/
theorem exists_visits (state : RunState) (history : List Event) :
    ∃ earlier visit, history = earlier ++ visit ∧ Visits state earlier visit := by
  induction history using List.reverseRecOn with
  | nil => exact ⟨[], [], rfl, (Option.some_ne_none state).symm, List.forall_mem_nil _⟩
  | append_singleton history event ih =>
    by_cases hevent : event.CarriesOut state
    · obtain ⟨earlier, visit, rfl, hentered, hstays⟩ := ih
      refine ⟨earlier, visit ++ [event], List.append_assoc .., hentered, ?_⟩
      exact List.forall_mem_append.mpr ⟨hstays, List.forall_mem_singleton.mpr hevent⟩
    · refine ⟨history ++ [event], [], (List.append_nil _).symm, ?_, List.forall_mem_nil _⟩
      rw [lastState_concat]
      cases event with
      | boot => exact (Option.some_ne_none state).symm
      | tick => exact fun heq => hevent (Option.some.inj heq)
      | raise => exact absurd trivial hevent

/-- What holds as the state is entered, and its ticks and alerts from outside carry on, a visit carries on. -/
theorem Run.invariant_of_visit {I : List Event → Option Controller → Prop} {state : RunState}
    {earlier visit : List Event} {last : Option Controller} (hrun : Run none (earlier ++ visit) last)
    (hvisits : Visits state earlier visit) (hentered : ∀ left, (∀ c ∈ left, c.previous = lastState earlier) → I [] left)
    (htick : ∀ {visit before calls control after}, Path (Controller.tick.run before) calls (control, after) →
      before.runState = state → I visit (some before) →
      I (visit ++ [.tick before calls control after]) (control.leaves after))
    (hraise : ∀ {visit c} alert now, I visit (some c) →
      I (visit ++ [.raise alert now]) (some (c.setStatus (c.status.value.raiseAlert alert now).value))) :
    I visit last := by
  obtain ⟨_, hstays⟩ := hvisits
  induction visit using List.reverseRecOn generalizing last with
  | nil =>
    rw [List.append_nil] at hrun
    exact hentered last hrun.previous_eq
  | append_singleton visit event ih =>
    rw [← List.append_assoc] at hrun
    obtain ⟨between, hearlier, hleads⟩ := Run.concat_iff.mp hrun
    obtain ⟨hvisit, hlast⟩ := List.forall_mem_append.mp hstays
    have hevent := hlast event (List.mem_singleton_self event)
    have hknown := ih hearlier hvisit
    cases hleads with
    | boot => exact hevent.elim
    | raise _ alert now => exact hraise alert now hknown
    | tick hpath => exact htick hpath hevent hknown

end FieldCounter
