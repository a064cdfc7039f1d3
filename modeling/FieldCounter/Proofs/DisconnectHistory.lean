import FieldCounter.Proofs.Path
import FieldCounter.Proofs.Steps
import FieldCounter.Radio.Disconnect

/-!
# Disconnect sessions from the outside

A session is stepped through some phases by what the radio answers and by two clocks. From outside one sees, step by
step, what the radio is asked to do and what is reported. Over all steps that is at most one request to close the
cloud session, then at most one to switch the modem off, then one final report. The answers may contradict each other
and any time may pass between two steps: once both budgets are used up, two more steps are enough.
-/

namespace FieldCounter

open Program (Path)

/-! ## What is seen of a session -/

/-- The call asks the radio to go off. -/
def Call.isSwitchOff : Call → Bool
  | .requestDisconnect | .requestModemOff => true
  | _ => false

/-- What the radio is asked to do, in order. -/
def requestsOf (calls : List Exchange) : List Call := (calls.map (·.call)).filter Call.isSwitchOff

/-- The requests are listed part by part. -/
theorem requestsOf_append (calls rest : List Exchange) :
    requestsOf (calls ++ rest) = requestsOf calls ++ requestsOf rest := by
  simp [requestsOf]

/-- The reports say the same, but for the time that has passed. -/
def DisconnectProgress.SameKind : DisconnectProgress → DisconnectProgress → Prop
  | .pending, .pending | .done, .done | .timedOut _, .timedOut _ => True
  | _, _ => False

/-- One step of a session: when it is taken, the calls it makes, and what it reports. -/
structure DisconnectStep where
  uptimeMs : UInt64
  calls : List Exchange
  progress : DisconnectProgress

/-- What the radio is asked to do over the steps. -/
def requestsIn (steps : List DisconnectStep) : List Call := steps.flatMap fun step => requestsOf step.calls

/-- The time of the first step. -/
def beganAt (steps : List DisconnectStep) : UInt64 := (steps.head?.map (·.uptimeMs)).getD 0

/-- Later steps do not change when the session began. -/
theorem beganAt_append {steps : List DisconnectStep} (h : steps ≠ []) (rest : List DisconnectStep) :
    beganAt (steps ++ rest) = beganAt steps := by
  cases steps with
  | nil => exact absurd rfl h
  | cons first steps => rfl

/-- Whole seconds from the first of the steps to this one. -/
def secsInto (steps : List DisconnectStep) (step : DisconnectStep) : Nat :=
  msBetween (beganAt steps) step.uptimeMs / 1000

/-- As long as whole seconds fit into a word, the saturating sum of two budgets is used up where their sum is. -/
theorem addSat_lt_uptimeSecs_iff {cloudBudget modemBudget : UInt32} {earlier later : UInt64}
    (h : msBetween earlier later / 1000 ≤ wordMax) :
    addSat cloudBudget modemBudget < uptimeSecs earlier later ↔
      cloudBudget.toNat + modemBudget.toNat < msBetween earlier later / 1000 := by
  rw [UInt32.lt_iff_toNat_lt, toNat_addSat, toNat_uptimeSecs h]
  omega

/-- The requests and the reports over the steps of a session with these budgets are as they should be. -/
structure OrderlyDisconnect (cloudBudget modemBudget : UInt32) (steps : List DisconnectStep) : Prop where
  /-- The cloud session is asked to close once at most, the modem to go off once at most, and in this order. -/
  requests : (requestsIn steps).Sublist [.requestDisconnect, .requestModemOff]
  /-- The first report other than that the session goes on is final, and nothing is asked for any more. -/
  final : ∀ before step after, steps = before ++ step :: after → step.progress ≠ .pending →
    requestsIn (step :: after) = [] ∧ ∀ later ∈ after, step.progress.SameKind later.progress
  /-- That the radio is off is first reported when the modem is found off. -/
  done : ∀ before step after, steps = before ++ step :: after → (∀ earlier ∈ before, earlier.progress = .pending) →
    step.progress = .done → ⟨.isModemOff, true⟩ ∈ step.calls
  /-- The session is given up only once the modem was asked to go off and both budgets are used up. -/
  timedOut : ∀ before step after secs, steps = before ++ step :: after →
    (∀ earlier ∈ before, earlier.progress = .pending) → step.progress = .timedOut secs →
    .requestModemOff ∈ requestsIn before ∧ secs.toNat = secsInto steps step ∧
      cloudBudget.toNat + modemBudget.toNat < secsInto steps step
  /-- Of two steps in a row after the first that both come later than that, the second ends the session. -/
  ceiling : ∀ before first second after, steps = before ++ first :: second :: after → before ≠ [] →
    cloudBudget.toNat + modemBudget.toNat < secsInto steps first →
    cloudBudget.toNat + modemBudget.toNat < secsInto steps second → second.progress ≠ .pending

/-- What a session in this phase may still ask of the radio. -/
def DisconnectPhase.requestsLeft : DisconnectPhase → List Call
  | .notStarted => [.requestDisconnect, .requestModemOff]
  | .cloudTeardown _ => [.requestModemOff]
  | .modemOff | .done | .timedOut => []

namespace DisconnectSession

variable {session next last : DisconnectSession} {cloudBudget modemBudget : UInt32} {uptimeMs : UInt64}
  {calls : List Exchange} {progress : DisconnectProgress}

/-- The session can take the steps one after the other, with these budgets. -/
abbrev Runs (cloudBudget modemBudget : UInt32) : DisconnectSession → List DisconnectStep → DisconnectSession → Prop :=
  Steps fun session step next =>
    Path (session.step cloudBudget modemBudget step.uptimeMs) step.calls (step.progress, next)

/-! ## One step -/

/-- What one step of a session comes to. -/
inductive Advances (session : DisconnectSession) (cloudBudget modemBudget : UInt32) (uptimeMs : UInt64) :
    List Exchange → DisconnectProgress → DisconnectSession → Prop where
  /-- Offline and with the modem off, there is nothing to do. -/
  | alreadyOff : session.phase = .notStarted →
      Advances session cloudBudget modemBudget uptimeMs [⟨.isConnected, false⟩, ⟨.isModemOff, true⟩] .done
        ⟨.done, uptimeMs⟩
  /-- The cloud session is to be closed first. -/
  | disconnects {looking : List Exchange} : session.phase = .notStarted → requestsOf looking = [] →
      Advances session cloudBudget modemBudget uptimeMs (looking ++ [⟨.requestDisconnect, ()⟩]) .pending
        ⟨.cloudTeardown uptimeMs, uptimeMs⟩
  /-- Only the modem is to be switched off. -/
  | switchesOff {looking : List Exchange} : session.phase = .notStarted → requestsOf looking = [] →
      Advances session cloudBudget modemBudget uptimeMs (looking ++ [⟨.requestModemOff, ()⟩]) .pending
        ⟨.modemOff, uptimeMs⟩
  | awaitsCloud {since : UInt64} : session.phase = .cloudTeardown since → ¬cloudBudget < uptimeSecs since uptimeMs →
      Advances session cloudBudget modemBudget uptimeMs [⟨.isDisconnected, false⟩] .pending session
  /-- The cloud session is closed, or has taken too long. -/
  | leavesCloud {since : UInt64} (closed : Bool) : session.phase = .cloudTeardown since →
      closed = true ∨ cloudBudget < uptimeSecs since uptimeMs →
      Advances session cloudBudget modemBudget uptimeMs [⟨.isDisconnected, closed⟩, ⟨.requestModemOff, ()⟩] .pending
        { session with phase := .modemOff }
  | off : session.phase = .modemOff →
      Advances session cloudBudget modemBudget uptimeMs [⟨.isModemOff, true⟩] .done { session with phase := .done }
  | givesUp : session.phase = .modemOff →
      addSat cloudBudget modemBudget < uptimeSecs session.startedAt uptimeMs →
      Advances session cloudBudget modemBudget uptimeMs [⟨.isModemOff, false⟩]
        (.timedOut (uptimeSecs session.startedAt uptimeMs)) { session with phase := .timedOut }
  | awaitsModem : session.phase = .modemOff →
      ¬addSat cloudBudget modemBudget < uptimeSecs session.startedAt uptimeMs →
      Advances session cloudBudget modemBudget uptimeMs [⟨.isModemOff, false⟩] .pending session
  | wasOff : session.phase = .done → Advances session cloudBudget modemBudget uptimeMs [] .done session
  | wasGivenUp : session.phase = .timedOut →
      Advances session cloudBudget modemBudget uptimeMs [] (.timedOut (uptimeSecs session.startedAt uptimeMs)) session

/-- The first step of a session advances it in one of these ways. -/
theorem ensures_start (hphase : session.phase = .notStarted) :
    (start uptimeMs).Ensures fun trace result =>
      session.Advances cloudBudget modemBudget uptimeMs trace result.1 result.2 := by
  have hlooks : (((not <$> call .isConnected) <&&> call .isModemOff) : Program Bool).Ensures fun trace off =>
      requestsOf trace = [] ∧ (off = true → trace = [⟨.isConnected, false⟩, ⟨.isModemOff, true⟩]) := by
    refine Program.ensures_and.mpr (Program.ensures_map.mpr (Program.ensures_call.mpr fun connected => ?_))
    cases connected with
    | true => exact ⟨rfl, nofun⟩
    | false =>
      rw [Bool.not_false, if_pos rfl]
      refine Program.ensures_call.mpr fun off => ⟨rfl, ?_⟩
      rintro rfl
      rfl
  have hasks : ((call .isConnected <||> (not <$> call .isDisconnected)) : Program Bool).Ensures fun trace _ =>
      requestsOf trace = [] := by
    refine Program.ensures_or.mpr (Program.ensures_call.mpr fun connected => ?_)
    cases connected with
    | true => rfl
    | false => exact Program.ensures_map.mpr (Program.ensures_call.mpr fun disconnected => rfl)
  refine Program.ensures_bind.mpr (hlooks.mono fun looked off hlooked => ?_)
  obtain ⟨hquiet, hoff⟩ := hlooked
  refine Program.ensures_ite.mpr ⟨fun hdown => ?_, fun _ => ?_⟩
  · rw [hoff hdown]
    exact Program.ensures_pure.mpr (.alreadyOff hphase)
  refine Program.ensures_bind.mpr (hasks.mono fun asked up hasked => ?_)
  have hquiet : requestsOf (looked ++ asked) = [] := by rw [requestsOf_append, hquiet, hasked, List.append_nil]
  refine Program.ensures_ite.mpr ⟨fun _ => Program.ensures_logged_bind.mpr ?_,
    fun _ => Program.ensures_logged_bind.mpr ?_⟩
  · refine Program.ensures_bind.mpr (Program.ensures_call.mpr fun _ => Program.ensures_pure.mpr ?_)
    simpa using Advances.disconnects hphase hquiet
  · refine Program.ensures_bind.mpr (Program.ensures_call.mpr fun _ => Program.ensures_pure.mpr ?_)
    simpa using Advances.switchesOff hphase hquiet

/-- So does a step that waits for the cloud session to close. -/
theorem ensures_awaitCloud {since : UInt64} (hphase : session.phase = .cloudTeardown since) :
    (session.awaitCloud since cloudBudget uptimeMs).Ensures fun trace result =>
      session.Advances cloudBudget modemBudget uptimeMs trace result.1 result.2 := by
  unfold awaitCloud
  extract_lets secs rest
  refine Program.ensures_bind.mpr (Program.ensures_call.mpr fun closed => ?_)
  have hrest (hleaves : closed = true ∨ cloudBudget < secs) : (rest ()).Ensures fun trace result =>
      session.Advances cloudBudget modemBudget uptimeMs ([⟨.isDisconnected, closed⟩] ++ trace) result.1 result.2 := by
    refine Program.ensures_bind.mpr (Program.ensures_call.mpr fun _ => Program.ensures_pure.mpr ?_)
    exact .leavesCloud closed hphase hleaves
  refine Program.ensures_ite.mpr
    ⟨fun hclosed => Program.ensures_logged_bind.mpr (hrest (.inl hclosed)), fun hopen => ?_⟩
  refine Program.ensures_ite.mpr
    ⟨fun hover => Program.ensures_logged_bind.mpr (hrest (.inr hover)), fun hbudget => ?_⟩
  rw [Bool.not_eq_true] at hopen
  rw [hopen]
  exact Program.ensures_pure.mpr (.awaitsCloud hphase hbudget)

/-- So does a step that waits for the modem to go off. -/
theorem ensures_awaitModem (hphase : session.phase = .modemOff) :
    (session.awaitModem cloudBudget modemBudget uptimeMs).Ensures fun trace result =>
      session.Advances cloudBudget modemBudget uptimeMs trace result.1 result.2 := by
  refine Program.ensures_bind.mpr (Program.ensures_call.mpr fun off => Program.ensures_ite.mpr ⟨fun hoff => ?_, ?_⟩)
  · rw [hoff]
    exact Program.ensures_logged_bind.mpr (Program.ensures_pure.mpr (.off hphase))
  intro hon
  rw [Bool.not_eq_true] at hon
  rw [hon]
  refine Program.ensures_ite.mpr ⟨fun hbudget => ?_, fun hbudget => ?_⟩
  · exact Program.ensures_logged_bind.mpr (Program.ensures_pure.mpr (.givesUp hphase hbudget))
  · exact Program.ensures_pure.mpr (.awaitsModem hphase hbudget)

/-- Whatever the radio answers, a step comes to one of these. -/
theorem advances_of_step (h : Path (session.step cloudBudget modemBudget uptimeMs) calls (progress, next)) :
    session.Advances cloudBudget modemBudget uptimeMs calls progress next := by
  unfold step at h
  cases hphase : session.phase with
  | notStarted =>
    rw [hphase] at h
    exact ensures_start hphase h
  | cloudTeardown since =>
    rw [hphase] at h
    exact ensures_awaitCloud hphase h
  | modemOff =>
    rw [hphase] at h
    exact ensures_awaitModem hphase h
  | done =>
    rw [hphase] at h
    obtain ⟨rfl, heq⟩ := Program.path_done_iff.mp h
    cases heq
    exact .wasOff hphase
  | timedOut =>
    rw [hphase] at h
    obtain ⟨rfl, heq⟩ := Program.path_done_iff.mp h
    cases heq
    exact .wasGivenUp hphase

/-! ## Requests -/

/-- A step asks for no more than was left, and leaves the rest. -/
theorem Advances.requests (h : session.Advances cloudBudget modemBudget uptimeMs calls progress next) :
    (requestsOf calls ++ next.phase.requestsLeft).Sublist session.phase.requestsLeft := by
  cases h with
  | alreadyOff hphase => simp [hphase, requestsOf, Call.isSwitchOff, DisconnectPhase.requestsLeft]
  | disconnects hphase hquiet =>
    rw [hphase, requestsOf_append, hquiet]
    exact .refl _
  | switchesOff hphase hquiet =>
    rw [hphase, requestsOf_append, hquiet]
    exact .cons _ (.refl _)
  | awaitsCloud => exact .refl _
  | leavesCloud closed hphase =>
    rw [hphase]
    exact .refl _
  | off | givesUp => exact List.nil_sublist _
  | awaitsModem | wasOff | wasGivenUp => exact .refl _

/-- What a run asks for and what it leaves to ask make up no more than what was left before it. -/
theorem Runs.requests {steps : List DisconnectStep} (h : Runs cloudBudget modemBudget session steps last) :
    (requestsIn steps ++ last.phase.requestsLeft).Sublist session.phase.requestsLeft := by
  induction h with
  | nil session => exact .refl _
  | @cons session next last step rest hstep _ ih =>
    have hrest := (List.Sublist.refl (requestsOf step.calls)).append ih
    rw [requestsIn, List.flatMap_cons, List.append_assoc]
    exact hrest.trans (advances_of_step hstep).requests

/-! ## Reports -/

/-- The report is final, and the phase holds it. -/
inductive Ends : DisconnectProgress → DisconnectPhase → Prop where
  | done : Ends .done .done
  | timedOut (secs : UInt32) : Ends (.timedOut secs) .timedOut

/-- A session that has ended asks for nothing any more. -/
theorem Ends.requestsLeft_eq {phase : DisconnectPhase} (h : Ends progress phase) : phase.requestsLeft = [] := by
  cases h <;> rfl

/-- A step either reports that it goes on, in a phase that is not final, or asks for nothing and ends the session. -/
theorem Advances.pending_or_ends (h : session.Advances cloudBudget modemBudget uptimeMs calls progress next) :
    progress = .pending ∧ (∀ report, ¬Ends report next.phase) ∨ Ends progress next.phase ∧ requestsOf calls = [] := by
  cases h with
  | alreadyOff | off => exact .inr ⟨.done, rfl⟩
  | givesUp => exact .inr ⟨.timedOut _, rfl⟩
  | wasOff hphase =>
    rw [hphase]
    exact .inr ⟨.done, rfl⟩
  | wasGivenUp hphase =>
    rw [hphase]
    exact .inr ⟨.timedOut _, rfl⟩
  | disconnects | switchesOff | leavesCloud => exact .inl ⟨rfl, nofun⟩
  | awaitsCloud hphase | awaitsModem hphase =>
    rw [hphase]
    exact .inl ⟨rfl, nofun⟩

/-- Before the session has ended, that the radio is off is reported when the modem is found off. -/
theorem Advances.modem_off (h : session.Advances cloudBudget modemBudget uptimeMs calls .done next)
    (hgoesOn : ∀ report, ¬Ends report session.phase) : ⟨.isModemOff, true⟩ ∈ calls := by
  cases h with
  | alreadyOff => exact List.mem_cons_of_mem _ List.mem_cons_self
  | off => exact List.mem_cons_self
  | wasOff hphase =>
    rw [hphase] at hgoesOn
    exact absurd .done (hgoesOn .done)

/-- Before the session has ended, it is given up where it waits for the modem and both budgets are used up. -/
theorem Advances.gives_up {secs : UInt32}
    (h : session.Advances cloudBudget modemBudget uptimeMs calls (.timedOut secs) next)
    (hgoesOn : ∀ report, ¬Ends report session.phase) :
    session.phase = .modemOff ∧ secs = uptimeSecs session.startedAt uptimeMs ∧
      addSat cloudBudget modemBudget < uptimeSecs session.startedAt uptimeMs := by
  cases h with
  | givesUp hphase hbudget => exact ⟨hphase, rfl, hbudget⟩
  | wasGivenUp hphase =>
    rw [hphase] at hgoesOn
    exact absurd (.timedOut 0) (hgoesOn (.timedOut 0))

/-- In a final phase nothing changes any more. -/
theorem Advances.stays (h : session.Advances cloudBudget modemBudget uptimeMs calls progress next)
    {report : DisconnectProgress} (hends : Ends report session.phase) : report.SameKind progress ∧ next = session := by
  cases h with
  | wasOff hphase | wasGivenUp hphase =>
    rw [hphase] at hends
    cases hends
    exact ⟨trivial, rfl⟩
  | alreadyOff hphase | disconnects hphase | switchesOff hphase | awaitsCloud hphase | leavesCloud _ hphase
  | off hphase | givesUp hphase | awaitsModem hphase =>
    rw [hphase] at hends
    cases hends

/-- Once a session has ended, all its later reports say the same. -/
theorem Runs.stays {steps : List DisconnectStep} (h : Runs cloudBudget modemBudget session steps last)
    {report : DisconnectProgress} (hends : Ends report session.phase) :
    ∀ step ∈ steps, report.SameKind step.progress := by
  induction h with
  | nil session => exact fun step hmem => absurd hmem List.not_mem_nil
  | cons hstep _ ih =>
    obtain ⟨hsame, rfl⟩ := (advances_of_step hstep).stays hends
    exact List.forall_mem_cons.mpr ⟨hsame, ih hends⟩

/-! ## What a session knows of its past -/

/-- The session is about to take a step after those of the past. -/
structure Tracks (session : DisconnectSession) (past : List DisconnectStep) : Prop where
  fresh : session.phase = .notStarted ↔ past = []
  began : past ≠ [] → session.startedAt = beganAt past
  cloud : ∀ since, session.phase = .cloudTeardown since → since = session.startedAt
  modem : session.phase = .modemOff → .requestModemOff ∈ requestsIn past
  goesOn : (∀ step ∈ past, step.progress = .pending) → ∀ report, ¬Ends report session.phase

/-- A new session has no past. -/
theorem tracks_nil : ({} : DisconnectSession).Tracks [] where
  fresh := iff_of_true rfl rfl
  began := nofun
  cloud := nofun
  modem := nofun
  goesOn := fun _ _ hends => nomatch hends

/-- After any step the session has begun, and it keeps the time of the first one. -/
theorem Advances.startedAt (h : session.Advances cloudBudget modemBudget uptimeMs calls progress next) :
    next.phase ≠ .notStarted ∧
      next.startedAt = if session.phase = .notStarted then uptimeMs else session.startedAt := by
  cases h with
  | alreadyOff hphase | disconnects hphase | switchesOff hphase => exact ⟨nofun, (if_pos hphase).symm⟩
  | leavesCloud _ hphase | off hphase | givesUp hphase => exact ⟨nofun, by simp [hphase]⟩
  | awaitsCloud hphase | awaitsModem hphase | wasOff hphase | wasGivenUp hphase => simp [hphase]

/-- A session that closes the cloud session does so since it began, or goes on doing so. -/
theorem Advances.cloud (h : session.Advances cloudBudget modemBudget uptimeMs calls progress next) {since : UInt64}
    (hphase : next.phase = .cloudTeardown since) : since = next.startedAt ∨ next = session := by
  cases h with
  | disconnects =>
    cases hphase
    exact .inl rfl
  | awaitsCloud => exact .inr rfl
  | alreadyOff | switchesOff | leavesCloud | off | givesUp => cases hphase
  | awaitsModem hother | wasOff hother | wasGivenUp hother => exact .inr rfl

/-- A session that waits for the modem has just asked it to go off, or goes on waiting. -/
theorem Advances.modem (h : session.Advances cloudBudget modemBudget uptimeMs calls progress next)
    (hphase : next.phase = .modemOff) : .requestModemOff ∈ requestsOf calls ∨ next = session := by
  cases h with
  | switchesOff =>
    rw [requestsOf_append]
    exact .inl (List.mem_append_right _ List.mem_cons_self)
  | leavesCloud => exact .inl List.mem_cons_self
  | alreadyOff | disconnects | off | givesUp => cases hphase
  | awaitsCloud | awaitsModem | wasOff | wasGivenUp => exact .inr rfl

/-- One more step becomes part of the past. -/
theorem Tracks.advance {past : List DisconnectStep} (h : session.Tracks past)
    (hstep : session.Advances cloudBudget modemBudget uptimeMs calls progress next) :
    next.Tracks (past ++ [⟨uptimeMs, calls, progress⟩]) where
  fresh := iff_of_false hstep.startedAt.1 (by simp)
  began := by
    intro _
    rw [hstep.startedAt.2]
    split
    next hphase =>
      rw [h.fresh.mp hphase]
      rfl
    next hphase =>
      have hpast : past ≠ [] := mt h.fresh.mpr hphase
      rw [beganAt_append hpast, h.began hpast]
  cloud := by
    intro since hphase
    rcases hstep.cloud hphase with hbegan | rfl
    · exact hbegan
    · exact h.cloud since hphase
  modem := by
    intro hphase
    rw [requestsIn, List.flatMap_append, List.mem_append]
    rcases hstep.modem hphase with hasked | rfl
    · exact .inr (by simpa using hasked)
    · exact .inl (h.modem hphase)
  goesOn := by
    intro hpending report
    rcases hstep.pending_or_ends with ⟨_, hnever⟩ | ⟨hends, _⟩
    · exact hnever report
    · have hreport : progress = .pending := hpending ⟨uptimeMs, calls, progress⟩ (by simp)
      rw [hreport] at hends
      cases hends

/-- The session measures its time from the first step on. -/
theorem Tracks.secsInto_eq {past : List DisconnectStep} (h : session.Tracks past) (hpast : past ≠ [])
    (rest : List DisconnectStep) (step : DisconnectStep) :
    secsInto (past ++ rest) step = msBetween session.startedAt step.uptimeMs / 1000 := by
  rw [secsInto, beganAt_append hpast, h.began hpast]

/-- A run goes on tracking the steps. -/
theorem Runs.tracks {past steps : List DisconnectStep} (h : Runs cloudBudget modemBudget session steps last)
    (htracks : session.Tracks past) : last.Tracks (past ++ steps) :=
  h.invariant (I := fun past session => session.Tracks past) htracks fun _ _ _ _ hstep htracks =>
    htracks.advance (advances_of_step hstep)

/-- In a run from the start, the session that takes a step tracks the steps before it. -/
theorem Runs.reach {before after : List DisconnectStep} {step : DisconnectStep}
    (h : Runs cloudBudget modemBudget {} (before ++ step :: after) last) :
    ∃ middle next : DisconnectSession, middle.Tracks before ∧
      middle.Advances cloudBudget modemBudget step.uptimeMs step.calls step.progress next ∧
      Runs cloudBudget modemBudget next after last := by
  obtain ⟨middle, next, hbefore, hstep, hafter⟩ := Steps.reach h
  exact ⟨middle, next, Runs.tracks hbefore tracks_nil, advances_of_step hstep, hafter⟩

/-! ## The ceiling -/

/-- A step that comes after the cloud's budget does not leave the session in the first part. -/
theorem Advances.leaves_cloud (h : session.Advances cloudBudget modemBudget uptimeMs calls progress next)
    (hstarted : session.phase ≠ .notStarted)
    (hbudget : ∀ since, session.phase = .cloudTeardown since → cloudBudget < uptimeSecs since uptimeMs)
    (since : UInt64) : next.phase ≠ .cloudTeardown since := by
  cases h with
  | disconnects hphase => exact absurd hphase hstarted
  | awaitsCloud hphase hwaits => exact absurd (hbudget _ hphase) hwaits
  | alreadyOff | switchesOff | leavesCloud | off | givesUp => nofun
  | awaitsModem hphase | wasOff hphase | wasGivenUp hphase =>
    rw [hphase]
    nofun

/-- Once the session waits for the modem, a step that comes after both budgets ends it. -/
theorem Advances.ends (h : session.Advances cloudBudget modemBudget uptimeMs calls progress next)
    (hstarted : session.phase ≠ .notStarted) (hcloud : ∀ since, session.phase ≠ .cloudTeardown since)
    (hbudget : addSat cloudBudget modemBudget < uptimeSecs session.startedAt uptimeMs) : progress ≠ .pending := by
  cases h with
  | disconnects hphase | switchesOff hphase => exact absurd hphase hstarted
  | awaitsCloud hphase | leavesCloud _ hphase => exact absurd hphase (hcloud _)
  | awaitsModem _ hwaits => exact absurd hbudget hwaits
  | alreadyOff | off | givesUp | wasOff | wasGivenUp => nofun

/-- Whatever the radio answers and however the steps lie in time, a session from its start on is orderly. -/
theorem orderly_of_runs {steps : List DisconnectStep} (h : Runs cloudBudget modemBudget {} steps last)
    (hspan : ∀ step ∈ steps, secsInto steps step ≤ wordMax) : OrderlyDisconnect cloudBudget modemBudget steps where
  requests := (List.sublist_append_left _ _).trans h.requests
  final := by
    rintro before step after rfl hreport
    obtain ⟨middle, next, _, hstep, hafter⟩ := h.reach
    rcases hstep.pending_or_ends with ⟨hpending, _⟩ | ⟨hends, hquiet⟩
    · exact absurd hpending hreport
    refine ⟨?_, hafter.stays hends⟩
    have hrequests := hafter.requests
    rw [hends.requestsLeft_eq, List.sublist_nil, List.append_eq_nil_iff] at hrequests
    rw [requestsIn, List.flatMap_cons, hquiet]
    exact hrequests.1
  done := by
    rintro before step after rfl hpending hreport
    obtain ⟨middle, next, htracks, hstep, _⟩ := h.reach
    rw [hreport] at hstep
    exact hstep.modem_off (htracks.goesOn hpending)
  timedOut := by
    rintro before step after secs rfl hpending hreport
    obtain ⟨middle, next, htracks, hstep, _⟩ := h.reach
    rw [hreport] at hstep
    obtain ⟨hphase, rfl, hbudget⟩ := hstep.gives_up (htracks.goesOn hpending)
    have hpast : before ≠ [] := by
      apply mt htracks.fresh.mpr
      rw [hphase]
      nofun
    have hsecs := hspan step (by simp)
    rw [htracks.secsInto_eq hpast] at hsecs ⊢
    exact ⟨htracks.modem hphase, toNat_uptimeSecs hsecs, (addSat_lt_uptimeSecs_iff hsecs).mp hbudget⟩
  ceiling := by
    rintro before first second after rfl hpast hfirst hsecond
    obtain ⟨middle, next, htracks, hstep, hrest⟩ := h.reach
    have hfirstSecs := hspan first (by simp)
    have hsecondSecs := hspan second (by simp)
    have hstarted : middle.phase ≠ .notStarted := mt htracks.fresh.mp hpast
    rw [htracks.secsInto_eq hpast] at hfirst hsecond hfirstSecs hsecondSecs
    have hcloud : ∀ since, middle.phase = .cloudTeardown since → cloudBudget < uptimeSecs since first.uptimeMs := by
      intro since hphase
      rw [htracks.cloud since hphase, UInt32.lt_iff_toNat_lt, toNat_uptimeSecs hfirstSecs]
      omega
    cases hrest with
    | cons hlast _ =>
      obtain ⟨hgoing, hbegan⟩ := hstep.startedAt
      rw [if_neg hstarted] at hbegan
      apply (advances_of_step hlast).ends hgoing (hstep.leaves_cloud hstarted hcloud)
      rw [hbegan]
      exact (addSat_lt_uptimeSecs_iff hsecondSecs).mpr hsecond

/-- The radio is first found offline and then connected, and its modem never goes off. Ten minutes pass before the
second step, which asks the modem to go off, and the third one gives up. -/
theorem orderly_of_runs_stuckRadio :
    let steps : List DisconnectStep := [
      ⟨1000, [⟨.isConnected, false⟩, ⟨.isModemOff, false⟩, ⟨.isConnected, true⟩, ⟨.requestDisconnect, ()⟩], .pending⟩,
      ⟨601000, [⟨.isDisconnected, false⟩, ⟨.requestModemOff, ()⟩], .pending⟩,
      ⟨602000, [⟨.isModemOff, false⟩], .timedOut 601⟩,
      ⟨700000, [], .timedOut 699⟩]
    Runs 15 30 {} steps ⟨.timedOut, 1000⟩ ∧ (∀ step ∈ steps, secsInto steps step ≤ wordMax) ∧
      OrderlyDisconnect 15 30 steps := by
  intro steps
  have hruns : Runs 15 30 {} steps ⟨.timedOut, 1000⟩ := by
    refine .cons (.ask (.ask (.ask (.log (.ask (.done _)))))) ?_
    refine .cons (.ask (.log (.ask (.done _)))) ?_
    refine .cons (.ask (.log (.done _))) ?_
    exact .cons (.done _) (.nil _)
  have hspan : ∀ step ∈ steps, secsInto steps step ≤ wordMax := by decide
  exact ⟨hruns, hspan, orderly_of_runs hruns hspan⟩

end DisconnectSession

end FieldCounter
