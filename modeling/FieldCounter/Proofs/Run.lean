import Mathlib.Data.List.Induction
import FieldCounter.Proofs.Steps
import FieldCounter.Proofs.Store
import FieldCounter.Proofs.Tick

/-!
# Runs across reboots

A run is a history of boots and ticks, with the calls each of them made and the answers it got, and
of alerts that were raised from outside between two ticks. The device may be booted at any time,
whether or not it was about to restart, and after a tick that restarts it nothing is left of the
controller. The answers are arbitrary; what the store answers is settled apart, for the history as a
whole.
-/

namespace FieldCounter

open Program

/-- One event in the life of the device. -/
inductive Event where
  | boot (calls : List Exchange) (controller : Controller)
  | tick (before : Controller) (calls : List Exchange) (control : Control) (after : Controller)
  /-- An alert is raised between two ticks. -/
  | raise (alert : Alert) (now : UInt32)

/-- The calls made in the event. -/
def Event.calls : Event → List Exchange
  | .boot calls _ => calls
  | .tick _ calls _ _ => calls
  | .raise _ _ => []

/-- The moment at which a tick begins, which is what it is told first. -/
def Event.moment : Event → Option Moment
  | .tick _ (⟨.readClock, moment⟩ :: _) _ _ => some moment
  | .tick _ _ _ _ | .boot _ _ | .raise _ _ => none

/-- The event is a boot. -/
def Event.isBoot : Event → Bool
  | .boot _ _ => true
  | .tick _ _ _ _ | .raise _ _ => false

/-- The calls made in a history. -/
def callsOf (history : List Event) : List Exchange := history.flatMap Event.calls

/-- The calls of a history are made part by part. -/
theorem callsOf_append (earlier later : List Event) :
    callsOf (earlier ++ later) = callsOf earlier ++ callsOf later :=
  List.flatMap_append

/-- The calls of a single event are its own. -/
theorem callsOf_singleton (event : Event) : callsOf [event] = event.calls := List.append_nil _

/-- What a tick leaves in memory. -/
def Control.leaves (control : Control) (after : Controller) : Option Controller :=
  match control with
  | .proceed => some after
  | .restart => none

/-- The event can happen to a device with the first controller in memory, or none, and leaves the
second one. -/
inductive Event.Leads : Event → Option Controller → Option Controller → Prop where
  | boot {state : Option Controller} {trace : List Exchange} {c : Controller} :
      Path Controller.boot trace c → Leads (.boot trace c) state (some c)
  | tick {before after : Controller} {trace : List Exchange} {control : Control} :
      Path (Controller.tick.run before) trace (control, after) →
      Leads (.tick before trace control after) (some before) (control.leaves after)
  | raise (c : Controller) (alert : Alert) (now : UInt32) :
      Leads (.raise alert now) (some c) (some (c.setStatus (c.status.value.raiseAlert alert now).value))

/-- The device can go through the history from one controller in memory, or none, to another. -/
abbrev Run : Option Controller → List Event → Option Controller → Prop :=
  Steps fun state event next => event.Leads state next

/-- A run falls into a run through the first part of its history and one through the second. -/
theorem Run.append_iff {state last : Option Controller} {earlier later : List Event} :
    Run state (earlier ++ later) last ↔ ∃ between, Run state earlier between ∧ Run between later last :=
  Steps.append_iff

/-- A run ends with its last event. -/
theorem Run.concat_iff {state last : Option Controller} {history : List Event} {event : Event} :
    Run state (history ++ [event]) last ↔ ∃ between, Run state history between ∧ event.Leads between last :=
  Steps.concat_iff

/-- Each event of a run happens where the events before it lead, and the run goes on from where it leads itself. -/
theorem Run.reach {state last : Option Controller} {earlier later : List Event} {event : Event}
    (hrun : Run state (earlier ++ event :: later) last) :
    ∃ before after, Run state earlier before ∧ event.Leads before after ∧ Run after later last :=
  Steps.reach hrun

/-- Without a controller in memory, nothing happens but a boot. -/
theorem Run.eq_nil_of_none {history : List Event} {last : Option Controller} (hrun : Run none history last)
    (hboots : ∀ event ∈ history, event.isBoot = false) : history = [] := by
  cases hrun with
  | nil => rfl
  | cons hleads _ =>
    cases hleads with
    | boot => cases hboots _ List.mem_cons_self

/-- What ticks and alerts from outside carry on, with the history still to come, holds before and after every tick
until the next boot. -/
theorem Run.within_boot {I : Controller → List Event → Prop} {c : Controller} {history : List Event}
    {last : Option Controller} (hrun : Run (some c) history last) (hboots : ∀ event ∈ history, event.isBoot = false)
    (hstart : I c history)
    (htick : ∀ before trace control after rest, .tick before trace control after ∈ history →
      Path (Controller.tick.run before) trace (control, after) → I before (.tick before trace control after :: rest) →
      I after rest)
    (hraise : ∀ c alert now rest, I c (.raise alert now :: rest) →
      I (c.setStatus (c.status.value.raiseAlert alert now).value) rest) :
    ∀ before calls control after, .tick before calls control after ∈ history →
      ∃ rest, I before (.tick before calls control after :: rest) ∧ I after rest := by
  generalize hstate : some c = state at hrun
  induction hrun generalizing c with
  | nil => exact fun _ _ _ _ hmem => absurd hmem List.not_mem_nil
  | @cons _ _ _ event rest hleads hrest ih =>
    obtain ⟨hboot, hlater⟩ := List.forall_mem_cons.mp hboots
    have htick' := fun before trace control after more hmem =>
      htick before trace control after more (List.mem_cons_of_mem event hmem)
    intro before calls control after hmem
    cases hleads with
    | boot => cases hboot
    | raise _ alert now =>
      obtain rfl := Option.some.inj hstate
      refine ih hlater (hraise _ alert now rest hstart) htick' rfl before calls control after ?_
      exact (List.mem_cons.mp hmem).resolve_left nofun
    | @tick ticked next trace ends hpath =>
      obtain rfl := Option.some.inj hstate
      have hnext := htick _ _ _ _ rest List.mem_cons_self hpath hstart
      rcases List.mem_cons.mp hmem with heq | hlaterTick
      · cases heq
        exact ⟨rest, hstart, hnext⟩
      · cases ends with
        | proceed => exact ih hlater hnext htick' rfl before calls control after hlaterTick
        | restart =>
          -- after a restart there would have to be a boot
          obtain rfl := Run.eq_nil_of_none hrest hlater
          exact absurd hlaterTick List.not_mem_nil

/-- What every boot establishes, and ticks and alerts from outside carry on, is known of the controller in
memory, whatever the devices answer. -/
theorem Run.invariant_of_controller {I : List Event → Controller → Prop} {history : List Event}
    {last : Option Controller} (hrun : Run none history last)
    (hboot : ∀ {earlier trace c}, Path Controller.boot trace c → I (earlier ++ [.boot trace c]) c)
    (htick : ∀ {earlier before trace after}, Path (Controller.tick.run before) trace (.proceed, after) →
      I earlier before → I (earlier ++ [.tick before trace .proceed after]) after)
    (hraise : ∀ {earlier c} alert now, I earlier c →
      I (earlier ++ [.raise alert now]) (c.setStatus (c.status.value.raiseAlert alert now).value)) :
    ∀ c ∈ last, I history c := by
  have hstart : ∀ c ∈ (none : Option Controller), I [] c := fun c hc => by cases hc
  refine hrun.invariant (I := fun history last => ∀ c ∈ last, I history c) hstart ?_
  intro earlier state event next hleads hstate c hc
  cases hleads with
  | boot hpath =>
    obtain rfl := Option.some.inj hc
    exact hboot hpath
  | @tick before after trace control hpath =>
    cases control with
    | proceed =>
      obtain rfl := Option.some.inj hc
      exact htick hpath (hstate before rfl)
    | restart => cases hc
  | raise before alert now =>
    obtain rfl := Option.some.inj hc
    exact hraise alert now (hstate before rfl)

/-- The same over a store that serves the run. -/
theorem Run.invariant_of_serves {I : List Event → Store → Option Controller → Prop}
    {state last : Option Controller} {earlier history : List Event} {initial store : Store}
    (hrun : Run state history last) (hserves : initial.Serves (callsOf history) store)
    (hstart : I earlier initial state)
    (hstep : ∀ earlier state event next before after, Event.Leads event state next →
      before.Serves event.calls after → I earlier before state → I (earlier ++ [event]) after next) :
    I (earlier ++ history) store last := by
  induction hrun generalizing earlier initial with
  | nil state =>
    rw [Store.serves_nil_iff.mp hserves, List.append_nil]
    exact hstart
  | cons hleads _ ih =>
    obtain ⟨between, hfirst, hlater⟩ := Store.serves_append_iff.mp hserves
    have hnext := ih hlater (hstep earlier _ _ _ initial between hleads hfirst hstart)
    rwa [List.append_assoc] at hnext

section
variable {α : Type} {starts goesOn : α → Prop} {earlier later : List α}

/-- An empty list has no start. -/
theorem not_exists_split_nil :
    ¬∃ before start after, [] = before ++ start :: after ∧ starts start ∧ ∀ x ∈ after, goesOn x := by
  rintro ⟨before, start, after, hsplit, _⟩
  exact absurd hsplit.symm (List.append_ne_nil_of_right_ne_nil _ (List.cons_ne_nil _ _))

/-- The last start is in the later part, or it is in the earlier one and all of the later part goes on from it. -/
theorem exists_split_append_iff :
    (∃ before start after, earlier ++ later = before ++ start :: after ∧ starts start ∧ ∀ x ∈ after, goesOn x) ↔
      (∃ before start after, later = before ++ start :: after ∧ starts start ∧ ∀ x ∈ after, goesOn x) ∨
      (∃ before start after, earlier = before ++ start :: after ∧ starts start ∧ ∀ x ∈ after, goesOn x) ∧
        ∀ x ∈ later, goesOn x := by
  constructor
  · rintro ⟨before, start, after, hsplit, hstarts, hafter⟩
    rcases List.append_eq_append_iff.mp hsplit with ⟨middle, rfl, rfl⟩ | ⟨middle, rfl, hmiddle⟩
    · exact .inl ⟨middle, start, after, rfl, hstarts, hafter⟩
    cases middle with
    | nil => exact .inl ⟨[], start, after, hmiddle.symm, hstarts, hafter⟩
    | cons first rest =>
      obtain ⟨rfl, rfl⟩ := List.cons.inj hmiddle
      obtain ⟨hrest, hlater⟩ := List.forall_mem_append.mp hafter
      exact .inr ⟨⟨before, start, rest, rfl, hstarts, hrest⟩, hlater⟩
  · rintro (⟨before, start, after, rfl, hstarts, hafter⟩ | ⟨⟨before, start, after, rfl, hstarts, hafter⟩, hlater⟩)
    · exact ⟨earlier ++ before, start, after, (List.append_assoc ..).symm, hstarts, hafter⟩
    · exact ⟨before, start, after ++ later, by simp, hstarts, List.forall_mem_append.mpr ⟨hafter, hlater⟩⟩

/-- The last one is a start itself, or it goes on from an earlier one. -/
theorem exists_split_concat_iff {last : α} :
    (∃ before start after, earlier ++ [last] = before ++ start :: after ∧ starts start ∧ ∀ x ∈ after, goesOn x) ↔
      starts last ∨ goesOn last ∧
        ∃ before start after, earlier = before ++ start :: after ∧ starts start ∧ ∀ x ∈ after, goesOn x := by
  refine exists_split_append_iff.trans (or_congr ⟨?_, fun h => ⟨[], last, [], rfl, h, by simp⟩⟩ ?_)
  · rintro ⟨before, start, after, hsplit, hstarts, _⟩
    rcases List.singleton_eq_append_iff.mp hsplit with ⟨_, hcons⟩ | ⟨_, hcons⟩
    · exact (List.cons.inj hcons).1 ▸ hstarts
    · cases hcons
  · rw [List.forall_mem_singleton, and_comm]

end

/-- Some event of the history is a start, and every later one goes on from it. -/
def Since (starts goesOn : Event → Prop) (history : List Event) : Prop :=
  ∃ earlier start later, history = earlier ++ start :: later ∧ starts start ∧ ∀ event ∈ later, goesOn event

section
variable {starts goesOn : Event → Prop}

/-- Nothing goes on before the first event. -/
theorem not_since_nil : ¬Since starts goesOn [] := not_exists_split_nil

/-- The last event is a start itself, or it goes on from an earlier one. -/
theorem since_concat_iff {history : List Event} {event : Event} :
    Since starts goesOn (history ++ [event]) ↔ starts event ∨ goesOn event ∧ Since starts goesOn history :=
  exists_split_concat_iff

/-- Both kinds of events being decidable, it is read off the history event by event. -/
instance [DecidablePred starts] [DecidablePred goesOn] : DecidablePred (Since starts goesOn) := fun history =>
  let check (since : Bool) (event : Event) : Bool := decide (starts event) || decide (goesOn event) && since
  have hcheck : history.foldl check false = true ↔ Since starts goesOn history := by
    induction history using List.reverseRecOn with
    | nil => exact ⟨fun h => absurd h Bool.false_ne_true, fun h => absurd h not_since_nil⟩
    | append_singleton history event ih =>
      rw [List.foldl_append, since_concat_iff, ← ih]
      simp [check]
  decidable_of_iff _ hcheck

/-- A history goes on since events of one kind only, where no event of either kind goes on from the other. -/
theorem Since.exclusive {others : Event → Prop} {history : List Event} (h : Since starts goesOn history)
    (hstarts : ∀ event, starts event → ¬others event ∧ ¬goesOn event)
    (hothers : ∀ event, others event → ¬goesOn event) : ¬Since others goesOn history := by
  induction history using List.reverseRecOn with
  | nil => exact not_since_nil
  | append_singleton history event ih =>
    rw [since_concat_iff] at h ⊢
    rcases h with hstart | ⟨hgoes, hsince⟩
    · obtain ⟨hother, hends⟩ := hstarts event hstart
      exact fun hsince => hsince.elim hother fun hrest => hends hrest.1
    · exact fun hrest => hrest.elim (fun hother => hothers event hother hgoes) fun hrest => ih hsince hrest.2

end

/-- A boot loads the settings and then the status. -/
theorem boot_cases {trace : List Exchange} {c : Controller} (h : Path Controller.boot trace c) :
    ∃ config configOutcome status statusOutcome first second,
      Path (Persisted.load DeviceConfig) first (config, configOutcome) ∧
        Path (Persisted.load RuntimeStatus) second (status, statusOutcome) ∧
        trace = first ++ second ∧ c = .ofRecords config status := by
  have hcases : Controller.boot.Ensures fun trace c =>
      ∃ config configOutcome status statusOutcome first second,
        Path (Persisted.load DeviceConfig) first (config, configOutcome) ∧
          Path (Persisted.load RuntimeStatus) second (status, statusOutcome) ∧
          trace = first ++ second ∧ c = .ofRecords config status := by
    refine ensures_bind.mpr fun first ⟨config, configOutcome⟩ hconfig => ?_
    refine ensures_bind.mpr fun second ⟨status, statusOutcome⟩ hstatus => ?_
    cases configOutcome <;> cases statusOutcome
    all_goals
      simp only [ensures_logged_bind, ensures_pure, List.append_nil]
      exact ⟨config, _, status, _, first, second, hconfig, hstatus, rfl, rfl⟩
  exact hcases h

/-- A boot reads and writes the records, and makes no other call. -/
theorem calls_boot : Controller.boot.Calls (·.touchesRecord = true) := by
  intro trace c hpath
  have hload : ∀ {α : Type} [Record α] [DecidableEq α],
      (Persisted.load α).Calls (·.touchesRecord = true) := by
    intro α _ _ trace result hload exchange hmem
    obtain ⟨answer, rest, rfl, ⟨_, _, rfl, _⟩ | ⟨_, written, hflush⟩⟩ := Persisted.load_cases hload
    · rw [List.mem_singleton.mp hmem]
      rfl
    · rcases List.mem_cons.mp hmem with rfl | hrest
      · rfl
      · have hwrite := Persisted.calls_flush _ hflush exchange hrest
        exact Call.touchesRecord_of_isWrite hwrite
  obtain ⟨_, _, _, _, first, second, hconfig, hstatus, rfl, _⟩ := boot_cases hpath
  intro exchange hmem
  rcases List.mem_append.mp hmem with hfirst | hsecond
  · exact hload hconfig exchange hfirst
  · exact hload hstatus exchange hsecond

/-- A boot comes to what is found in storage. -/
theorem found_of_boot {trace : List Exchange} {c : Controller} {store later : Store}
    (h : Path Controller.boot trace c) (hserves : store.Serves trace later) :
    c.config.value = store.found ∧ c.status.value = store.found := by
  obtain ⟨config, _, status, _, first, second, hconfig, hstatus, rfl, rfl⟩ := boot_cases h
  obtain ⟨between, hfirst, hsecond⟩ := Store.serves_append_iff.mp hserves
  obtain ⟨_, _, _, hothers⟩ := Persisted.stored_of_load hconfig hfirst
  have hsame : between.found = (store.found : RuntimeStatus) := Store.found_of_bytes_eq (hothers .status (by decide))
  exact ⟨Persisted.found_of_load hconfig hfirst, (Persisted.found_of_load hstatus hsecond).trans hsame⟩

end FieldCounter
