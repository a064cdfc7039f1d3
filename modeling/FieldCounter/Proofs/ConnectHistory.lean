import FieldCounter.Proofs.ConnectingStay
import FieldCounter.Proofs.Steps

/-!
# Connect sessions from the outside

A session keeps three marks: when it asked for a connection, whether it saw one in its last step, and whether it has
given up. From outside one sees, step by step, what a look at the radio finds and what is reported. The link may come
and go between two steps as it likes. The connection is asked for in the first step that finds none, and never again;
the session is given up in the first step that finds none once the budget is used up since then, and stays given up
without another look; and before that, a connection is reported as new where the step before did not find one.
-/

namespace FieldCounter

open Program (Path)

/-! ## What is seen of a session -/

/-- One step of a session: when it is taken, the calls it makes, and what it reports. -/
structure ConnectStep where
  uptimeMs : UInt64
  calls : List Exchange
  progress : ConnectProgress

/-- What the step finds at the radio, if it looks at it. -/
def ConnectStep.found (step : ConnectStep) : Option Bool := firstLook step.calls

/-- The step reports that the session is given up. -/
def ConnectStep.ReportsTimeout (step : ConnectStep) : Prop := ∃ secs, step.progress = .timedOut secs

/-- The step reports a new connection. -/
def ConnectStep.ReportsNew (step : ConnectStep) : Prop := ∃ secs, step.progress = .justConnected secs

/-- The uptime of the first of the steps that finds the radio not connected. -/
def offlineSince (steps : List ConnectStep) : Option UInt64 :=
  steps.findSome? fun step => if step.found = some false then some step.uptimeMs else none

/-- Whole seconds to the step from the first one that finds the radio not connected. -/
def secsOffline (steps : List ConnectStep) (step : ConnectStep) : Nat :=
  msBetween ((offlineSince steps).getD step.uptimeMs) step.uptimeMs / 1000

/-- The step finds the radio not connected, and the budget is used up. -/
def Overdue (budget : UInt32) (steps : List ConnectStep) (step : ConnectStep) : Prop :=
  step.found = some false ∧ budget.toNat < secsOffline steps step

instance (budget : UInt32) (steps : List ConnectStep) : DecidablePred (Overdue budget steps) := fun step =>
  inferInstanceAs (Decidable (step.found = some false ∧ budget.toNat < secsOffline steps step))

/-- The last of the steps finds the radio connected. -/
def EndsConnected (steps : List ConnectStep) : Prop := ∃ last, steps.getLast? = some last ∧ last.found = some true

/-- The requests and the reports over the steps of a session with this budget are as they should be. -/
structure OrderlyConnect (budget : UInt32) (steps : List ConnectStep) : Prop where
  /-- As long as no step was overdue, every step looks at the radio. -/
  looks : ∀ before step after, steps = before ++ step :: after →
    (∀ earlier ∈ before, ¬Overdue budget steps earlier) → step.found.isSome = true
  /-- After an overdue step none makes any call. -/
  quiet : ∀ before step after, steps = before ++ step :: after →
    (∃ earlier ∈ before, Overdue budget steps earlier) → step.calls = []
  /-- A connection is asked for once at most. -/
  once : connectRequests (steps.flatMap (·.calls)) ≤ 1
  /-- It is asked for in the first step that finds the radio not connected, and in no other. -/
  request : ∀ before step after, steps = before ++ step :: after →
    (⟨.requestConnect, ()⟩ ∈ step.calls ↔
      step.found = some false ∧ ∀ earlier ∈ before, earlier.found ≠ some false)
  /-- The session is reported as given up from the first overdue step on. -/
  timedOut : ∀ before step after, steps = before ++ step :: after →
    (step.ReportsTimeout ↔ ∃ overdue ∈ before ++ [step], Overdue budget steps overdue)
  /-- A connection is reported as new in the steps before that find one where the step before did not. -/
  justConnected : ∀ before step after, steps = before ++ step :: after →
    (step.ReportsNew ↔
      (∀ earlier ∈ before, ¬Overdue budget steps earlier) ∧ step.found = some true ∧ ¬EndsConnected before)

/-- Without a call nothing is looked at. -/
@[simp] theorem firstLook_nil : firstLook [] = none := rfl

/-- A look that comes first is the first look. -/
@[simp] theorem firstLook_cons_isConnected (connected : Bool) (rest : List Exchange) :
    firstLook (⟨.isConnected, connected⟩ :: rest) = some connected := rfl

/-! ## The first step that finds no connection -/

section
variable {steps rest : List ConnectStep} {step : ConnectStep} {budget : UInt32}

/-- The first step that finds no connection is among the earlier steps, or else among the later ones. -/
theorem offlineSince_append : offlineSince (steps ++ rest) = (offlineSince steps).or (offlineSince rest) :=
  List.findSome?_append

/-- A single step is the first one if it finds no connection. -/
theorem offlineSince_singleton :
    offlineSince [step] = if step.found = some false then some step.uptimeMs else none := by
  rw [offlineSince, List.findSome?_cons]
  split <;> simp_all

/-- There is no first step just where all find a connection or do not look. -/
theorem offlineSince_eq_none_iff : offlineSince steps = none ↔ ∀ step ∈ steps, step.found ≠ some false := by
  simp [offlineSince, List.findSome?_eq_none_iff]

/-- Where one of the steps finds no connection, there is a first one. -/
theorem isSome_offlineSince (hmem : step ∈ steps) (hoffline : step.found = some false) :
    ∃ since, offlineSince steps = some since :=
  Option.ne_none_iff_exists'.mp fun hnone => offlineSince_eq_none_iff.mp hnone step hmem hoffline

/-- What comes later changes nothing about a step that finds the radio not connected. -/
theorem overdue_append_iff (hmem : step ∈ steps) : Overdue budget (steps ++ rest) step ↔ Overdue budget steps step := by
  refine and_congr_right fun hoffline => ?_
  obtain ⟨since, hsince⟩ := isSome_offlineSince hmem hoffline
  rw [secsOffline, secsOffline, offlineSince_append, hsince, Option.some_or]

/-- Whether one of the earlier steps is overdue does not depend on the later ones. -/
theorem exists_overdue_append_iff :
    (∃ overdue ∈ steps, Overdue budget (steps ++ rest) overdue) ↔ ∃ overdue ∈ steps, Overdue budget steps overdue :=
  exists_congr fun _ => and_congr_right overdue_append_iff

/-- The step that asks for the connection is not overdue itself. -/
theorem overdue_concat_iff : Overdue budget (steps ++ [step]) step ↔
    step.found = some false ∧ ∃ since, offlineSince steps = some since ∧
      budget.toNat < msBetween since step.uptimeMs / 1000 := by
  refine and_congr_right fun hoffline => ?_
  rw [secsOffline, offlineSince_append, offlineSince_singleton, if_pos hoffline]
  cases offlineSince steps with
  | none => simp [msBetween]
  | some since => simp

/-- In steps of less than 2³² seconds of uptime, the seconds since an earlier one are told exactly. -/
theorem lt_uptimeSecs_iff {requested uptimeMs : UInt64} (h : uptimeMs.toNat / 1000 ≤ wordMax) :
    budget < uptimeSecs requested uptimeMs ↔ budget.toNat < msBetween requested uptimeMs / 1000 := by
  rw [UInt32.lt_iff_toNat_lt, toNat_uptimeSecs]
  refine Nat.le_trans (Nat.div_le_div_right ?_) h
  simp [msBetween]

end

namespace ConnectSession

variable {session next last : ConnectSession} {budget : UInt32} {past steps : List ConnectStep} {step : ConnectStep}

/-- The session can take the steps one after the other, with this budget. -/
abbrev Runs (budget : UInt32) : ConnectSession → List ConnectStep → ConnectSession → Prop :=
  Steps fun session step next => Path (session.step budget step.uptimeMs) step.calls (step.progress, next)

/-- The marks of the session say what its steps found. -/
structure Tracks (budget : UInt32) (session : ConnectSession) (past : List ConnectStep) : Prop where
  requested : session.requestedAt = offlineSince past
  timedOut : session.timedOut = true ↔ ∃ step ∈ past, Overdue budget past step
  connected : session.timedOut = false → (session.connected = true ↔ EndsConnected past)

/-- A new session has found nothing yet. -/
theorem tracks_nil : Tracks budget {} [] where
  requested := rfl
  timedOut := by simp
  connected := by simp [EndsConnected]

/-- One of the steps is overdue if an earlier one is, or if it is the last. -/
theorem exists_overdue_concat_iff :
    (∃ overdue ∈ past ++ [step], Overdue budget (past ++ [step]) overdue) ↔
      (∃ overdue ∈ past, Overdue budget past overdue) ∨ Overdue budget (past ++ [step]) step := by
  have hpast : (∃ overdue ∈ past, Overdue budget (past ++ [step]) overdue) ↔
      ∃ overdue ∈ past, Overdue budget past overdue := exists_overdue_append_iff
  simp [or_and_right, exists_or, hpast]

/-- Whether the steps end connected is told from the last one. -/
theorem endsConnected_concat_iff : EndsConnected (past ++ [step]) ↔ step.found = some true := by simp [EndsConnected]

/-! ## One step -/

variable {uptimeMs : UInt64} {calls : List Exchange} {progress : ConnectProgress}

/-- A step looks at the radio unless the session has given up, and then makes no call. -/
theorem Advances.looks (h : session.Advances budget uptimeMs calls progress next) :
    if session.timedOut = true then calls = [] else (firstLook calls).isSome = true := by
  cases h with
  | gaveUp hgaveUp => rw [if_pos hgaveUp]
  | stays hwaiting | comesUp hwaiting | asks hwaiting | waits hwaiting | givesUp hwaiting =>
    rw [if_neg (Bool.eq_false_iff.mp hwaiting)]
    rfl

/-- A step asks for a connection where none was asked for and it finds none. -/
theorem Advances.request_iff (h : session.Advances budget uptimeMs calls progress next) :
    ⟨.requestConnect, ()⟩ ∈ calls ↔ firstLook calls = some false ∧ session.requestedAt = none := by
  cases h with
  | gaveUp | stays | comesUp => simp
  | asks _ hnone => simp [hnone]
  | waits _ hsome | givesUp _ hsome => simp [hsome]

/-- A step asks for a connection just where it marks the session as begun. -/
theorem Advances.requests (h : session.Advances budget uptimeMs calls progress next) :
    session.requestedAt.toList.length + connectRequests calls = next.requestedAt.toList.length := by
  cases h with
  | gaveUp | stays | comesUp => rfl
  | asks _ hnone =>
    rw [hnone]
    rfl
  | waits _ hsome | givesUp _ hsome =>
    rw [hsome]
    rfl

/-- A step reports that the session is given up just where the session is marked so afterwards. -/
theorem Advances.timedOut_iff (h : session.Advances budget uptimeMs calls progress next) :
    (∃ secs, progress = .timedOut secs) ↔ next.timedOut = true := by
  cases h with
  | gaveUp hgaveUp => exact iff_of_true ⟨_, rfl⟩ hgaveUp
  | givesUp => exact iff_of_true ⟨_, rfl⟩ rfl
  | stays hwaiting | comesUp hwaiting => simp [hwaiting]
  | asks | waits => simp

/-- A connection is reported as new where the radio is found connected and was not marked so, before the session is
given up. -/
theorem Advances.justConnected_iff (h : session.Advances budget uptimeMs calls progress next) :
    (∃ secs, progress = .justConnected secs) ↔
      session.timedOut = false ∧ firstLook calls = some true ∧ session.connected = false := by
  cases h with
  | gaveUp hgaveUp => simp [hgaveUp]
  | stays _ hconnected => simp [hconnected]
  | comesUp hwaiting hdown => exact iff_of_true ⟨_, rfl⟩ ⟨hwaiting, rfl, hdown⟩
  | asks | waits | givesUp => simp

/-- The session gives up where it finds no connection and the budget is used up since it asked for one. -/
theorem Advances.givesUp_iff (h : session.Advances budget uptimeMs calls progress next) :
    next.timedOut = true ↔ session.timedOut = true ∨ firstLook calls = some false ∧
      ∃ requested, session.requestedAt = some requested ∧ budget < uptimeSecs requested uptimeMs := by
  cases h with
  | gaveUp hgaveUp => exact iff_of_true hgaveUp (.inl hgaveUp)
  | stays hwaiting | comesUp hwaiting => simp [hwaiting]
  | asks hwaiting hnone => simp [hwaiting, hnone]
  | waits hwaiting hsome hlasts => simpa [hwaiting, hsome] using hlasts
  | givesUp hwaiting hsome hover => exact iff_of_true rfl (.inr ⟨rfl, _, hsome, hover⟩)

/-- It remembers when it asked for the connection. -/
theorem Advances.requestedAt (h : session.Advances budget uptimeMs calls progress next) :
    next.requestedAt =
      session.requestedAt.or (if firstLook calls = some false then some uptimeMs else none) := by
  cases h with
  | gaveUp | stays | comesUp => simp
  | asks _ hnone => simp [hnone]
  | waits _ hsome | givesUp _ hsome => simp [hsome]

/-- Unless it gives up, it remembers what it found. -/
theorem Advances.connected_iff (h : session.Advances budget uptimeMs calls progress next)
    (hwaits : next.timedOut = false) : next.connected = true ↔ firstLook calls = some true := by
  cases h with
  | gaveUp hgaveUp =>
    rw [hgaveUp] at hwaits
    cases hwaits
  | givesUp => cases hwaits
  | stays _ hconnected => exact iff_of_true hconnected rfl
  | comesUp => exact iff_of_true rfl rfl
  | asks | waits => exact iff_of_false nofun nofun

/-! ## All steps -/

/-- One more step is tracked, too. -/
theorem Tracks.advance (h : session.Tracks budget past)
    (hstep : session.Advances budget step.uptimeMs step.calls step.progress next)
    (hspan : step.uptimeMs.toNat / 1000 ≤ wordMax) : next.Tracks budget (past ++ [step]) where
  requested := by
    rw [hstep.requestedAt, h.requested, offlineSince_append, offlineSince_singleton]
    rfl
  timedOut := by
    rw [hstep.givesUp_iff, exists_overdue_concat_iff, h.timedOut, overdue_concat_iff, h.requested]
    simp only [lt_uptimeSecs_iff hspan]
    rfl
  connected := fun hwaits => (hstep.connected_iff hwaits).trans endsConnected_concat_iff.symm

/-- Over a run, the session goes on tracking its steps. -/
theorem Runs.tracks (h : Runs budget session steps last) (htracks : session.Tracks budget past)
    (hspan : ∀ step ∈ steps, step.uptimeMs.toNat / 1000 ≤ wordMax) : last.Tracks budget (past ++ steps) := by
  induction h generalizing past with
  | nil session => rwa [List.append_nil]
  | @cons session next last step rest hstep _ ih =>
    obtain ⟨hnow, hlater⟩ := List.forall_mem_cons.mp hspan
    have hrest := ih (htracks.advance (ensures_advances hstep) hnow) hlater
    rwa [List.append_assoc] at hrest

/-- A session asks for a connection once at most. -/
theorem Runs.requests (h : Runs budget session steps last) :
    session.requestedAt.toList.length + connectRequests (steps.flatMap (·.calls)) =
      last.requestedAt.toList.length := by
  induction h with
  | nil session => rfl
  | cons hstep _ ih =>
    rw [List.flatMap_cons, connectRequests_append, ← Nat.add_assoc, (ensures_advances hstep).requests, ih]

/-- In a run from the start, the session tracks the steps before each of its steps. -/
theorem Runs.reach {before after : List ConnectStep} (h : Runs budget {} (before ++ step :: after) last)
    (hspan : ∀ other ∈ before ++ step :: after, other.uptimeMs.toNat / 1000 ≤ wordMax) :
    ∃ middle next : ConnectSession, middle.Tracks budget before ∧
      middle.Advances budget step.uptimeMs step.calls step.progress next ∧
      next.Tracks budget (before ++ [step]) := by
  obtain ⟨middle, next, hbefore, hstep, _⟩ := Steps.reach h
  obtain ⟨hearlier, hlater⟩ := List.forall_mem_append.mp hspan
  have htracks := Runs.tracks hbefore tracks_nil hearlier
  have hnow := hlater step List.mem_cons_self
  exact ⟨middle, next, htracks, ensures_advances hstep, htracks.advance (ensures_advances hstep) hnow⟩

/-- Whether the session has given up before a step, by all the steps. -/
theorem Tracks.timedOut_iff (h : session.Tracks budget past) (rest : List ConnectStep) :
    session.timedOut = true ↔ ∃ step ∈ past, Overdue budget (past ++ rest) step := by
  rw [h.timedOut, exists_overdue_append_iff]

/-- Nor had it given up where none of the steps before was overdue. -/
theorem Tracks.timedOut_eq_false_iff (h : session.Tracks budget past) (rest : List ConnectStep) :
    session.timedOut = false ↔ ∀ step ∈ past, ¬Overdue budget (past ++ rest) step := by
  rw [← Bool.not_eq_true, h.timedOut_iff rest]
  simp

/-- Whatever the radio answers, a session is orderly from its start on, as long as the uptime stays below 2³²
seconds. -/
theorem orderlyConnect_of_runs (h : Runs budget {} steps last)
    (hspan : ∀ step ∈ steps, step.uptimeMs.toNat / 1000 ≤ wordMax) : OrderlyConnect budget steps where
  looks := by
    rintro before step after rfl hnone
    obtain ⟨middle, next, htracks, hstep, _⟩ := h.reach hspan
    have hlooks := hstep.looks
    rwa [if_neg (Bool.eq_false_iff.mp ((htracks.timedOut_eq_false_iff _).mpr hnone))] at hlooks
  quiet := by
    rintro before step after rfl hearlier
    obtain ⟨middle, next, htracks, hstep, _⟩ := h.reach hspan
    have hlooks := hstep.looks
    rwa [if_pos ((htracks.timedOut_iff _).mpr hearlier)] at hlooks
  once := by
    have hrequests := h.requests
    have hlast : last.requestedAt.toList.length ≤ 1 := by cases last.requestedAt <;> simp
    simp only [Option.toList_none, List.length_nil, Nat.zero_add] at hrequests
    omega
  request := by
    rintro before step after rfl
    obtain ⟨middle, next, htracks, hstep, _⟩ := h.reach hspan
    rw [hstep.request_iff, htracks.requested, offlineSince_eq_none_iff]
    rfl
  timedOut := by
    rintro before step after rfl
    obtain ⟨middle, next, _, hstep, hnext⟩ := h.reach hspan
    have hsplit : before ++ step :: after = (before ++ [step]) ++ after := List.append_cons ..
    rw [hsplit, ← hnext.timedOut_iff after]
    exact hstep.timedOut_iff
  justConnected := by
    rintro before step after rfl
    obtain ⟨middle, next, htracks, hstep, _⟩ := h.reach hspan
    rw [← htracks.timedOut_eq_false_iff (step :: after)]
    refine hstep.justConnected_iff.trans (and_congr_right fun hwaiting => and_congr_right fun _ => ?_)
    rw [← htracks.connected hwaiting, Bool.not_eq_true]

/-- The connection comes up, drops and comes back within the budget of fifteen seconds; when it drops again, the
budget is used up, and the session does not look any more. -/
theorem orderlyConnect_of_runs_linkLost :
    let steps : List ConnectStep := [
      ⟨1000, [⟨.isConnected, false⟩, ⟨.requestConnect, ()⟩], .pending⟩,
      ⟨9000, [⟨.isConnected, true⟩], .justConnected 8⟩,
      ⟨10000, [⟨.isConnected, true⟩], .connected⟩,
      ⟨11000, [⟨.isConnected, false⟩], .pending⟩,
      ⟨12000, [⟨.isConnected, true⟩], .justConnected 11⟩,
      ⟨20000, [⟨.isConnected, false⟩], .timedOut 19⟩,
      ⟨30000, [], .timedOut 29⟩]
    Runs 15 {} steps { requestedAt := some 1000, timedOut := true } ∧
      (∀ step ∈ steps, step.uptimeMs.toNat / 1000 ≤ wordMax) ∧ OrderlyConnect 15 steps := by
  intro steps
  have hruns : Runs 15 {} steps { requestedAt := some 1000, timedOut := true } := by
    refine .cons (.ask (.log (.ask (.done _)))) ?_
    refine .cons (.ask (.done _)) ?_
    refine .cons (.ask (.done _)) ?_
    refine .cons (.ask (.done _)) ?_
    refine .cons (.ask (.done _)) ?_
    refine .cons (.ask (.log (.done _))) ?_
    exact .cons (.done _) (.nil _)
  have hspan : ∀ step ∈ steps, step.uptimeMs.toNat / 1000 ≤ wordMax := by decide
  exact ⟨hruns, hspan, orderlyConnect_of_runs hruns hspan⟩

end ConnectSession

end FieldCounter
