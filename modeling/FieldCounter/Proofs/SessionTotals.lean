import Mathlib.Algebra.GroupWithZero.Nat
import FieldCounter.Proofs.Counting
import FieldCounter.Proofs.Ledger
import FieldCounter.Proofs.Service

/-!
# What sessions add up to

A session that is open in a report is credited up to it and goes on from there. After that the status does not say any
more when it began, and what is recorded at its end is only the last part. Seen from outside, the sessions can be told
all the same, by what is returned to each call and by the wall clock at it. Their whole lengths are what the day grows
by, through any number of reports, and what was returned comes to the same.

The wall clock must not go back, and the day is not begun anew here.
-/

namespace FieldCounter

/-! ## Sessions seen from outside -/

/-- What may be asked of the counting and of the status, in the mode that has sessions. -/
inductive SessionCall where
  | serve (debounceMs : UInt32) (service : Service)
  | credit (now : UInt32)
  | close (now : UInt32)
  | newPeriod
deriving DecidableEq, Repr

/-- What came of the call: what it returned, and when. -/
inductive SessionEvent where
  | served (now : UInt32) (event : Option CountEvent)
  | credited (now : UInt32) (secs : UInt32)
  | closed (now : UInt32) (secs : Option UInt32)
  | periodBegun
deriving DecidableEq, Repr

/-- The wall clock at the call; a new period begins at no time of its own. -/
def SessionCall.now? : SessionCall → Option UInt32
  | .serve _ service => some service.moment.now
  | .credit now | .close now => some now
  | .newPeriod => none

/-- What was returned, as an entry. -/
def SessionEvent.entry : SessionEvent → Ledger
  | .served _ event => event.elim 0 CountEvent.entry
  | .credited _ secs => ⟨0, secs.toNat⟩
  | .closed _ ended => .ofSession ended
  | .periodBegun => 0

/-- A session from its first detection to its end, or to where it was last credited while it goes on. -/
structure Session where
  began : UInt32
  upTo : UInt32
deriving DecidableEq, Repr

/-- How long it is by the wall clock. -/
def Session.secs (session : Session) : Nat := secsBetween session.began session.upTo

/-- The sessions that ended, and the one that goes on. -/
structure Sessions where
  ended : List Session := []
  running : Option Session := none
deriving DecidableEq, Repr

namespace Sessions

/-- The sessions that ended are counted, and all are as long as they are. -/
def total (sessions : Sessions) : Ledger :=
  ⟨sessions.ended.length, (sessions.ended.map Session.secs).sum + sessions.running.elim 0 Session.secs⟩

/-- The running session ends; where there is none, one has begun only now. -/
def finish (sessions : Sessions) (now : UInt32) : Sessions :=
  { ended := sessions.ended ++ [⟨(sessions.running.map (·.began)).getD now, now⟩] }

/-- What an event says of the sessions. -/
def see (sessions : Sessions) : SessionEvent → Sessions
  | .served now (some .occupancyStarted) => { sessions with running := some ⟨now, now⟩ }
  | .served now (some (.occupancyEnded _)) | .closed now (some _) => sessions.finish now
  | .credited now _ => { sessions with running := sessions.running.map fun session => { session with upTo := now } }
  | _ => sessions

/-- The sessions of a history. -/
def ofHistory (history : List SessionEvent) : Sessions := history.foldl see {}

end Sessions

namespace Counting

/-- What comes of a call, and the counting after it. -/
def perform (counting : Counting) : SessionCall → SessionEvent × Counting
  | .serve debounceMs service =>
    (.served service.moment.now (counting.serve debounceMs service).1, (counting.serve debounceMs service).2)
  | .credit now =>
    (.credited now (counting.status.creditOpenOccupancy now).1,
      { counting with status := (counting.status.creditOpenOccupancy now).2 })
  | .close now =>
    let closed := (counting.engine.closeOccupancy counting.status now).value
    (.closed now closed.1, ⟨closed.2.1, closed.2.2⟩)
  | .newPeriod => (.periodBegun, { counting with status := counting.status.resetHourly })

/-- The counting after the calls. -/
def performAll (counting : Counting) (calls : List SessionCall) : Counting :=
  calls.foldl (fun counting call => (counting.perform call).2) counting

/-- What came of the calls, one event for each. -/
def history (counting : Counting) : List SessionCall → List SessionEvent
  | [] => []
  | call :: rest => (counting.perform call).1 :: (counting.perform call).2.history rest

end Counting

/-! ## The running session -/

namespace Sessions

variable {sessions : Sessions} {session : Session} {latest now : UInt32} {status : RuntimeStatus}

/-- The status holds the running session, with the time up to which it was credited. -/
structure HeldBy (sessions : Sessions) (latest : UInt32) (status : RuntimeStatus) : Prop where
  occupied : status.occupied = sessions.running.isSome
  start : ∀ session ∈ sessions.running, status.occupancyStart = session.upTo
  ordered : ∀ session ∈ sessions.running, session.began ≤ session.upTo ∧ session.upTo ≤ latest

/-- A status without a session holds that none is running. -/
theorem heldBy_vacant (hrunning : sessions.running = none) (hvacant : status.occupied = false) :
    sessions.HeldBy latest status where
  occupied := by rw [hvacant, hrunning]; rfl
  start := by rw [hrunning]; nofun
  ordered := by rw [hrunning]; nofun

/-- Where no session is open, none is running. -/
theorem HeldBy.running_eq_none (h : sessions.HeldBy latest status) (hvacant : status.occupied = false) :
    sessions.running = none := by
  rw [← Option.isNone_iff_eq_none, ← Option.not_isSome, ← h.occupied, hvacant]
  rfl

/-- Else the running session is longer, up to now, by the seconds that are open. -/
theorem HeldBy.running_eq_some (h : sessions.HeldBy latest status) (hopen : status.occupied = true)
    (hlatest : latest ≤ now) :
    ∃ session, sessions.running = some session ∧ session.began ≤ now ∧
      secsBetween session.began now = session.secs + (status.openSecs now).toNat := by
  have hsome : sessions.running.isSome = true := h.occupied.symm.trans hopen
  obtain ⟨session, hrunning⟩ := Option.isSome_iff_exists.mp hsome
  obtain ⟨hbegan, hupTo⟩ := h.ordered session hrunning
  have hlater := UInt32.le_trans hupTo hlatest
  refine ⟨session, hrunning, UInt32.le_trans hbegan hlater, ?_⟩
  rw [RuntimeStatus.openSecs, toNat_subSat, h.start session hrunning]
  rw [UInt32.le_iff_toNat_le] at hbegan hlater
  unfold Session.secs secsBetween
  omega

/-- A session that ends is as long as it was credited, and what is credited at its end. -/
theorem HeldBy.total_finish (h : sessions.HeldBy latest status) (hopen : status.occupied = true)
    (hlatest : latest ≤ now) : (sessions.finish now).total = sessions.total + ⟨1, (status.openSecs now).toNat⟩ := by
  obtain ⟨session, hrunning, _, hlonger⟩ := h.running_eq_some hopen hlatest
  have hwhole : Session.secs ⟨session.began, now⟩ = session.secs + (status.openSecs now).toNat := hlonger
  ext
  · simp [finish, total]
  · simp [finish, total, hrunning, hwhole, Nat.add_assoc]

/-- A session that is credited is that much longer. -/
theorem HeldBy.credit (h : sessions.HeldBy latest status) (hlatest : latest ≤ now) (secs : UInt32) :
    (sessions.see (.credited now secs)).HeldBy now (status.creditOpenOccupancy now).2 ∧
      (sessions.see (.credited now secs)).total =
        sessions.total + ⟨0, (status.creditOpenOccupancy now).1.toNat⟩ := by
  cases hopen : status.occupied with
  | false =>
    have hrunning := h.running_eq_none hopen
    rw [RuntimeStatus.creditOpenOccupancy, hopen]
    refine ⟨heldBy_vacant (by rw [see, hrunning]; rfl) hopen, ?_⟩
    rw [see, total, hrunning, total, hrunning]
    rfl
  | true =>
    obtain ⟨session, hrunning, hbegan, hlonger⟩ := h.running_eq_some hopen hlatest
    rw [RuntimeStatus.creditOpenOccupancy, hopen, see, hrunning]
    refine ⟨⟨hopen, ?_, ?_⟩, ?_⟩
    · rintro _ ⟨⟩
      rfl
    · rintro _ ⟨⟩
      exact ⟨hbegan, UInt32.le_refl now⟩
    · have hwhole : Session.secs ⟨session.began, now⟩ = session.secs + (status.openSecs now).toNat := hlonger
      ext
      · rfl
      · simp [total, hrunning, hwhole, Nat.add_assoc]

/-- What is held stays held as the wall clock goes on. -/
theorem HeldBy.later (h : sessions.HeldBy latest status) (hlatest : latest ≤ now) : sessions.HeldBy now status where
  occupied := h.occupied
  start := h.start
  ordered := fun session hrunning =>
    ⟨(h.ordered session hrunning).1, UInt32.le_trans (h.ordered session hrunning).2 hlatest⟩

/-- A session begins with nothing to credit. -/
theorem HeldBy.begin (h : sessions.HeldBy latest status) (hvacant : status.occupied = false) (now : UInt32) :
    ({ sessions with running := some ⟨now, now⟩ } : Sessions).HeldBy now (status.beginOccupancy now) ∧
      ({ sessions with running := some ⟨now, now⟩ } : Sessions).total = sessions.total := by
  have hnone : Session.secs ⟨now, now⟩ = 0 := Nat.sub_self _
  refine ⟨⟨rfl, ?_, ?_⟩, ?_⟩
  · rintro _ ⟨⟩
    rfl
  · rintro _ ⟨⟩
    exact ⟨UInt32.le_refl now, UInt32.le_refl now⟩
  · rw [total, total, h.running_eq_none hvacant]
    exact congrArg (Ledger.mk _) (congrArg _ hnone)

/-- A service makes the sessions longer by what it returns. -/
theorem HeldBy.serve {counting after : Counting} {debounceMs : UInt32} {service : Service} {event : Option CountEvent}
    (h : sessions.HeldBy latest counting.status) (hserves : counting.Serves debounceMs service event after)
    (hlatest : latest ≤ service.moment.now) :
    (sessions.see (.served service.moment.now event)).HeldBy service.moment.now after.status ∧
      (sessions.see (.served service.moment.now event)).total = sessions.total + event.elim 0 CountEvent.entry := by
  cases hserves with
  | vacant _ _ => exact ⟨h.later hlatest, rfl⟩
  | begins _ hvacant _ => exact h.begin hvacant _
  | passes _ hvacant _ =>
    -- The session is seen to end only, but it began as well.
    obtain ⟨hbegun, htotal⟩ := h.begin hvacant service.moment.now
    have hfinish : sessions.finish service.moment.now =
        ({ sessions with running := some ⟨service.moment.now, service.moment.now⟩ } : Sessions).finish
          service.moment.now := by
      rw [finish, finish, h.running_eq_none hvacant]
      rfl
    rw [see, hfinish, hbegun.total_finish rfl (UInt32.le_refl _), htotal]
    exact ⟨heldBy_vacant rfl rfl, rfl⟩
  | goesOn _ _ =>
    cases service.detected with
    | false => exact ⟨h.later hlatest, rfl⟩
    | true => exact ⟨h.later hlatest, rfl⟩
  | ends hopen _ => exact ⟨heldBy_vacant rfl rfl, h.total_finish hopen hlatest⟩

/-- Closing ends the running session, if there is one. -/
theorem HeldBy.close {engine : CountingEngine} (h : sessions.HeldBy latest status) (hlatest : latest ≤ now) :
    let closed := (engine.closeOccupancy status now).value
    (sessions.see (.closed now closed.1)).HeldBy now closed.2.2 ∧
      (sessions.see (.closed now closed.1)).total = sessions.total + .ofSession closed.1 := by
  intro closed
  have hclosed : closed.1 = if status.occupied then some (status.openSecs now) else none :=
    engine.fst_closeOccupancy status now
  have hvacant : closed.2.2.occupied = false := engine.occupied_closeOccupancy status now
  rw [hclosed]
  cases hopen : status.occupied with
  | false => exact ⟨heldBy_vacant (h.running_eq_none hopen) hvacant, rfl⟩
  | true => exact ⟨heldBy_vacant rfl hvacant, h.total_finish hopen hlatest⟩

/-- Whatever is asked, the sessions get longer by what is returned. -/
theorem HeldBy.perform {counting : Counting} (h : sessions.HeldBy latest counting.status) (call : SessionCall)
    (hlatest : latest ≤ call.now?.getD latest) :
    (sessions.see (counting.perform call).1).HeldBy (call.now?.getD latest) (counting.perform call).2.status ∧
      (sessions.see (counting.perform call).1).total = sessions.total + (counting.perform call).1.entry := by
  cases call with
  | serve debounceMs service => exact h.serve (Counting.serves_serve counting debounceMs service) hlatest
  | credit now => exact h.credit hlatest _
  | close now => exact h.close hlatest
  | newPeriod => exact ⟨⟨h.occupied, h.start, h.ordered⟩, rfl⟩

end Sessions

/-! ## What is recorded -/

namespace Counting

variable {counting : Counting} {call : SessionCall} {calls : List SessionCall} {sessions : Sessions} {latest : UInt32}

/-- What a call returns is what the ledgers of the status grow by. -/
theorem grownBy_perform (counting : Counting) (hcall : call ≠ .newPeriod) :
    counting.status.GrownBy (counting.perform call).1.entry (counting.perform call).2.status := by
  cases call with
  | serve debounceMs service =>
    exact counting.engine.grownBy_service counting.status service.moment service.detected .occupancy debounceMs
  | credit now => exact counting.status.grownBy_creditOpenOccupancy now
  | close now => exact counting.engine.grownBy_closeOccupancy counting.status now
  | newPeriod => exact absurd rfl hcall

/-- A new period does not begin the day anew. -/
theorem day_perform (counting : Counting) (call : SessionCall) :
    (counting.perform call).2.status.day = (counting.status.day + (counting.perform call).1.entry).capped := by
  by_cases hcall : call = .newPeriod
  · subst hcall
    exact (RuntimeStatus.capped_day counting.status).symm
  · exact (counting.grownBy_perform hcall).day

/-- What was returned to the calls. -/
def returned (counting : Counting) (calls : List SessionCall) : Ledger :=
  ((counting.history calls).map SessionEvent.entry).sum

/-- What is returned adds up call by call. -/
theorem returned_cons (counting : Counting) (call : SessionCall) (rest : List SessionCall) :
    counting.returned (call :: rest) =
      (counting.perform call).1.entry + (counting.perform call).2.returned rest := rfl

/-- The calls are carried out one after the other. -/
theorem performAll_cons (counting : Counting) (call : SessionCall) (rest : List SessionCall) :
    counting.performAll (call :: rest) = (counting.perform call).2.performAll rest := rfl

/-- Over any calls, the day grows by what is returned. -/
theorem day_performAll (counting : Counting) (calls : List SessionCall) :
    (counting.performAll calls).status.day = (counting.status.day + counting.returned calls).capped := by
  induction calls generalizing counting with
  | nil => exact (RuntimeStatus.capped_day counting.status).symm
  | cons call rest ih =>
    rw [performAll_cons, ih, day_perform, Ledger.capped_capped_add, returned_cons, add_assoc]

/-- So does the period, as long as no new one begins. -/
theorem period_performAll (counting : Counting) (hperiod : .newPeriod ∉ calls) :
    (counting.performAll calls).status.period = (counting.status.period + counting.returned calls).capped := by
  induction calls generalizing counting with
  | nil => exact (RuntimeStatus.capped_period counting.status).symm
  | cons call rest ih =>
    rw [List.mem_cons, not_or] at hperiod
    have hcall := (counting.grownBy_perform (Ne.symm hperiod.1)).period
    rw [performAll_cons, ih _ hperiod.2, hcall, Ledger.capped_capped_add, returned_cons, add_assoc]

/-- If it has room at the end, the day holds all that was returned. -/
theorem day_eq_of_hasRoom (hroom : (counting.performAll calls).status.day.HasRoom) :
    (counting.performAll calls).status.day = counting.status.day + counting.returned calls := by
  rw [day_performAll] at hroom ⊢
  exact Ledger.capped_eq_self hroom

/-- So does the period, if it was not begun anew. -/
theorem period_eq_of_hasRoom (hperiod : .newPeriod ∉ calls)
    (hroom : (counting.performAll calls).status.period.HasRoom) :
    (counting.performAll calls).status.period = counting.status.period + counting.returned calls := by
  rw [period_performAll counting hperiod] at hroom ⊢
  exact Ledger.capped_eq_self hroom

/-- As long as the wall clock does not go back, the sessions come to what is returned. -/
theorem heldBy_performAll (h : sessions.HeldBy latest counting.status)
    (honward : (latest :: calls.filterMap SessionCall.now?).Pairwise (· ≤ ·)) :
    ∃ latest, ((counting.history calls).foldl Sessions.see sessions).HeldBy latest (counting.performAll calls).status ∧
      ((counting.history calls).foldl Sessions.see sessions).total = sessions.total + counting.returned calls := by
  induction calls generalizing counting sessions latest with
  | nil => exact ⟨latest, h, (add_zero _).symm⟩
  | cons call rest ih =>
    have honward : latest ≤ call.now?.getD latest ∧
        (call.now?.getD latest :: rest.filterMap SessionCall.now?).Pairwise (· ≤ ·) := by
      rw [List.filterMap_cons] at honward
      cases hnow : call.now? with
      | none =>
        rw [hnow] at honward
        exact ⟨UInt32.le_refl latest, honward⟩
      | some now =>
        rw [hnow] at honward
        obtain ⟨hlatest, hrest⟩ := List.pairwise_cons.mp honward
        exact ⟨hlatest now List.mem_cons_self, hrest⟩
    obtain ⟨hheld, htotal⟩ := h.perform call honward.1
    obtain ⟨last, hlast, hsum⟩ := ih hheld honward.2
    refine ⟨last, hlast, ?_⟩
    rw [history, List.foldl_cons, hsum, htotal, returned_cons, add_assoc]

/-- The calls are carried out part by part. -/
theorem performAll_append (counting : Counting) (calls rest : List SessionCall) :
    counting.performAll (calls ++ rest) = (counting.performAll calls).performAll rest := List.foldl_append

/-- From where no session is open, and as long as the wall clock does not go back and the counters have room, the day
grows by the sessions: by one count for each that ended, and by their lengths, with the running one as far as it was
credited. What the calls return comes to the same, and the period holds the part since it was begun. -/
theorem sessions_add_up (start : Counting) (calls : List SessionCall) (hvacant : start.status.occupied = false)
    (honward : (calls.filterMap SessionCall.now?).Pairwise (· ≤ ·))
    (hperiod : (start.performAll calls).status.period.HasRoom) (hday : (start.performAll calls).status.day.HasRoom) :
    let last := (start.performAll calls).status
    let sessions := Sessions.ofHistory (start.history calls)
    last.occupied = sessions.running.isSome ∧ last.day = start.status.day + sessions.total ∧
      ((start.history calls).map SessionEvent.entry).sum = sessions.total ∧
      (.newPeriod ∉ calls → last.period = start.status.period + sessions.total) ∧
      ∀ before rest, calls = before ++ .newPeriod :: rest → .newPeriod ∉ rest →
        last.day = (start.performAll before).status.day + last.period := by
  intro last sessions
  have hnew : ({} : Sessions).HeldBy 0 start.status := Sessions.heldBy_vacant rfl hvacant
  have hzero : (0 :: calls.filterMap SessionCall.now?).Pairwise (· ≤ ·) :=
    List.pairwise_cons.mpr ⟨fun now _ => UInt32.zero_le, honward⟩
  obtain ⟨_, hheld, htotal⟩ := heldBy_performAll hnew hzero
  have hreturned : start.returned calls = sessions.total := (zero_add (start.returned calls)).symm.trans htotal.symm
  rw [← hreturned]
  refine ⟨hheld.occupied, day_eq_of_hasRoom hday, rfl, fun hnone => period_eq_of_hasRoom hnone hperiod, ?_⟩
  rintro before rest rfl hnone
  have hlast : start.performAll (before ++ .newPeriod :: rest) =
      ((start.performAll before).perform .newPeriod).2.performAll rest := by
    rw [performAll_append, performAll_cons]
  rw [hlast] at hday hperiod
  have hgrown := day_eq_of_hasRoom hday
  have hsince := period_eq_of_hasRoom hnone hperiod
  have hbegun : ((start.performAll before).perform .newPeriod).2.status.period = 0 := rfl
  rw [hbegun, zero_add] at hsince
  show (start.performAll (before ++ .newPeriod :: rest)).status.day = (start.performAll before).status.day +
    (start.performAll (before ++ .newPeriod :: rest)).status.period
  rw [hlast, hgrown, hsince]
  rfl

/-- A session of two hours and a half is credited in two reports, and closed; one of ten seconds is over before the
next period; and one without a debounce time takes no time at all. A last one is credited while it goes on. -/
theorem sessions_add_up_acrossReports :
    let serve : UInt32 → Bool → UInt32 → UInt64 → SessionCall := fun debounceMs detected now ms =>
      .serve debounceMs ⟨detected, ⟨now, ms, true, 0⟩⟩
    let calls : List SessionCall := [
      serve 5000 true 1000 0, .credit 3600, .newPeriod, .credit 7200, .newPeriod, .close 10000,
      serve 5000 true 10100 1000, serve 5000 false 10110 11000, .newPeriod,
      serve 0 true 10200 20000, serve 5000 true 10300 30000, .credit 10340, serve 5000 true 10350 40000]
    let start : Counting := { status := { dailyCount := 7, dailyOccupancy := 60, hourlyOccupancy := 30 } }
    let last := (start.performAll calls).status
    let sessions := Sessions.ofHistory (start.history calls)
    start.status.occupied = false ∧ (calls.filterMap SessionCall.now?).Pairwise (· ≤ ·) ∧ last.period.HasRoom ∧
      last.day.HasRoom ∧
      sessions = ⟨[⟨1000, 10000⟩, ⟨10100, 10110⟩, ⟨10200, 10200⟩], some ⟨10300, 10340⟩⟩ ∧
      last.day = start.status.day + sessions.total ∧ sessions.total = ⟨3, 9050⟩ ∧
      ((start.history calls).map SessionEvent.entry).sum = sessions.total ∧ last.period = ⟨1, 40⟩ := by
  intro serve calls start last sessions
  have hvacant : start.status.occupied = false := by decide
  have honward : (calls.filterMap SessionCall.now?).Pairwise (· ≤ ·) := by decide
  have hperiod : (start.performAll calls).status.period.HasRoom := by decide
  have hday : (start.performAll calls).status.day.HasRoom := by decide
  obtain ⟨_, hgrown, hreturned, _, _⟩ := sessions_add_up start calls hvacant honward hperiod hday
  exact ⟨hvacant, honward, hperiod, hday, by decide, hgrown, by decide, hreturned, by decide⟩

end Counting

end FieldCounter
