import FieldCounter.Proofs.Service
import FieldCounter.SleepPlan

/-!
# The end of a session

How long an open session has still to go is worked out for the planner, and whether it is over is tested by the service
of the counting, from the same remembered detection but apart from each other. Here both are compared over all services
that the counting may have had before: the time left is the one after which a service without a detection ends the
session, and no service does so earlier. A sleep for the seconds that cover it is therefore long enough.

The debounce time stays the same throughout; settings that arrive in between may change it.
-/

namespace FieldCounter

namespace Counting

variable {counting after : Counting} {debounceMs : UInt32} {service latest : Service} {services rest : List Service}
  {event : Option CountEvent} {last uptimeMs : UInt64}

/-- The counting after the services. -/
def serveAll (counting : Counting) (debounceMs : UInt32) (services : List Service) : Counting :=
  services.foldl (fun counting service => (counting.serve debounceMs service).2) counting

/-- The services are carried out one after the other. -/
theorem serveAll_cons (counting : Counting) (debounceMs : UInt32) (service : Service) (rest : List Service) :
    counting.serveAll debounceMs (service :: rest) = (counting.serve debounceMs service).2.serveAll debounceMs rest := rfl

/-- The services are carried out part by part. -/
theorem serveAll_append (counting : Counting) (debounceMs : UInt32) (services rest : List Service) :
    counting.serveAll debounceMs (services ++ rest) =
      (counting.serveAll debounceMs services).serveAll debounceMs rest := List.foldl_append

/-- The uptime does not go back from the detection that is remembered to the services, nor from one of them to the
next. -/
structure Timely (counting : Counting) (services : List Service) : Prop where
  remembered : ∀ last ∈ counting.engine.lastEvent, ∀ service ∈ services, last ≤ service.moment.uptimeMs
  onward : services.Pairwise (·.moment.uptimeMs ≤ ·.moment.uptimeMs)

/-! ## What is remembered -/

/-- The detection that is remembered is the one from before the service, or it is taken to be then. -/
theorem Serves.lastEvent_eq (h : counting.Serves debounceMs service event after) :
    after.engine.lastEvent = counting.engine.lastEvent ∨ after.engine.lastEvent = some service.moment.uptimeMs := by
  have hsince : some (counting.quietSince service) = counting.engine.lastEvent ∨
      some (counting.quietSince service) = some service.moment.uptimeMs := by
    unfold quietSince CountingEngine.debounceStart
    cases service.detected with
    | true => exact .inr rfl
    | false =>
      cases counting.engine.lastEvent with
      | none => exact .inr rfl
      | some last => exact .inl rfl
  cases h with
  | vacant => exact .inl rfl
  | begins | passes => exact .inr rfl
  | goesOn | ends => exact hsince

/-- After a service, the later ones are still timely. -/
theorem Timely.serve (h : counting.Timely (service :: rest)) (debounceMs : UInt32) :
    (counting.serve debounceMs service).2.Timely rest where
  remembered := by
    intro last hlast later hlater
    rcases (serves_serve counting debounceMs service).lastEvent_eq with hsame | hnow
    · rw [hsame] at hlast
      exact h.remembered last hlast later (List.mem_cons_of_mem _ hlater)
    · rw [hnow] at hlast
      obtain rfl := Option.some.inj hlast
      exact (List.pairwise_cons.mp h.onward).1 later hlater
  onward := (List.pairwise_cons.mp h.onward).2

/-- So they are after any number of services. -/
theorem Timely.serveAll (h : counting.Timely (services ++ rest)) (debounceMs : UInt32) :
    (counting.serveAll debounceMs services).Timely rest := by
  induction services generalizing counting with
  | nil => exact h
  | cons service services ih => exact ih (h.serve debounceMs)

/-- A service that leaves a session open remembers a detection less than the debounce time ago. -/
theorem Serves.remembers (h : counting.Serves debounceMs service event after) (hopen : after.status.occupied = true) :
    ∃ last, after.engine.lastEvent = some last ∧ msBetween last service.moment.uptimeMs < debounceMs.toNat := by
  cases h with
  | vacant _ hvacant =>
    rw [hvacant] at hopen
    cases hopen
  | begins _ _ hpos => exact ⟨_, rfl, Nat.lt_of_le_of_lt (Nat.le_of_eq (Nat.sub_self _)) hpos⟩
  | goesOn _ hearly => exact ⟨_, rfl, hearly⟩
  | passes | ends => cases hopen

/-! ## Quiet services -/

/-- With no detection, an open session goes on unchanged until it was quiet for the debounce time, and then it ends. -/
theorem serve_of_quiet_open (hlast : counting.engine.lastEvent = some last) (hopen : counting.status.occupied = true)
    (hquiet : service.detected = false) :
    msBetween last service.moment.uptimeMs < debounceMs.toNat ∧ counting.serve debounceMs service = (none, counting) ∨
      debounceMs.toNat ≤ msBetween last service.moment.uptimeMs ∧
        (∃ secs, (counting.serve debounceMs service).1 = some (.occupancyEnded secs)) ∧
        (counting.serve debounceMs service).2.status.occupied = false := by
  have hsince : counting.quietSince service = last := by
    rw [quietSince, hquiet, CountingEngine.debounceStart, hlast]
    rfl
  have hserves := serves_serve counting debounceMs service
  generalize counting.serve debounceMs service = result at hserves ⊢
  obtain ⟨event, after⟩ := result
  dsimp only at hserves ⊢
  cases hserves with
  | vacant _ hvacant =>
    rw [hvacant] at hopen
    cases hopen
  | begins hdetected | passes hdetected =>
    rw [hquiet] at hdetected
    cases hdetected
  | goesOn _ hearly =>
    rw [quietMs, hsince] at hearly
    rw [hquiet, hsince, ← hlast]
    exact .inl ⟨hearly, rfl⟩
  | ends _ hlate =>
    rw [quietMs, hsince] at hlate
    exact .inr ⟨hlate, ⟨_, rfl⟩, rfl⟩

/-- With no detection, none is begun where no session is open. -/
theorem serve_of_quiet_vacant (hvacant : counting.status.occupied = false) (hquiet : service.detected = false) :
    counting.serve debounceMs service = (none, counting) := by
  rw [serve_of_quiet hquiet, CountingEngine.checkDebounce_of_vacant hvacant]
  rfl

/-- Without a session and without a detection nothing changes. -/
theorem serveAll_of_quiet_vacant (hvacant : counting.status.occupied = false)
    (hquiet : ∀ service ∈ services, service.detected = false) :
    counting.serveAll debounceMs services = counting := by
  induction services with
  | nil => rfl
  | cons service services ih =>
    obtain ⟨hfirst, hrest⟩ := List.forall_mem_cons.mp hquiet
    rw [serveAll_cons, serve_of_quiet_vacant hvacant hfirst]
    exact ih hrest

/-- However often the counting is serviced without a detection, the session is over when it was quiet for the debounce
time, and not before. -/
theorem occupied_serveAll_of_quiet (hlast : counting.engine.lastEvent = some last)
    (hopen : counting.status.occupied = true) (hquiet : ∀ service ∈ services ++ [latest], service.detected = false)
    (honward : (services ++ [latest]).Pairwise (·.moment.uptimeMs ≤ ·.moment.uptimeMs)) :
    (counting.serveAll debounceMs (services ++ [latest])).status.occupied = false ↔
      debounceMs.toNat ≤ msBetween last latest.moment.uptimeMs := by
  induction services with
  | nil =>
    rw [List.nil_append, serveAll_cons]
    rcases serve_of_quiet_open hlast hopen (hquiet latest List.mem_cons_self) with ⟨hearly, hsame⟩ | ⟨hlate, _, hended⟩
    · rw [hsame]
      exact iff_of_false (fun hended => Bool.false_ne_true (hended.symm.trans hopen)) (Nat.not_le.mpr hearly)
    · exact iff_of_true hended hlate
  | cons service services ih =>
    rw [List.cons_append] at hquiet honward ⊢
    obtain ⟨hfirst, hrest⟩ := List.forall_mem_cons.mp hquiet
    obtain ⟨hlater, honward⟩ := List.pairwise_cons.mp honward
    rw [serveAll_cons]
    rcases serve_of_quiet_open hlast hopen hfirst with ⟨_, hsame⟩ | ⟨hlate, _, hended⟩
    · rw [hsame]
      exact ih hrest honward
    · have hle := UInt64.le_iff_toNat_le.mp (hlater latest (List.mem_append_right _ List.mem_cons_self))
      rw [serveAll_of_quiet_vacant hended hrest]
      exact iff_of_true hended (Nat.le_trans hlate (Nat.sub_le_sub_right hle _))

/-! ## The time left -/

/-- A service at the moment ends the session, if there is no detection. -/
def EndsAt (counting : Counting) (debounceMs : UInt32) (moment : Moment) : Prop :=
  ∃ secs, (counting.serve debounceMs ⟨false, moment⟩).1 = some (.occupancyEnded secs)

/-- Seen from this uptime, the open session has so many milliseconds to go. -/
structure Expires (counting : Counting) (debounceMs : UInt32) (uptimeMs : UInt64) (remaining : Nat) : Prop where
  /-- The last detection is remembered, and the debounce time since then is not over. -/
  detected : ∃ last, counting.engine.lastEvent = some last ∧ last ≤ uptimeMs ∧
    msBetween last uptimeMs < debounceMs.toNat
  /-- The planner is told so. -/
  told : counting.engine.debounceRemaining debounceMs counting.status uptimeMs = some remaining
  pos : 0 < remaining
  le : remaining ≤ debounceMs.toNat
  /-- A service without a detection then ends the session, and one before does not. -/
  ends : ∀ moment, uptimeMs ≤ moment.uptimeMs →
    (counting.EndsAt debounceMs moment ↔ remaining ≤ msBetween uptimeMs moment.uptimeMs)
  /-- So it is after any number of services without a detection. -/
  endsAfter : ∀ services latest, (∀ service ∈ services ++ [latest], service.detected = false) →
    (∀ service ∈ services ++ [latest], uptimeMs ≤ service.moment.uptimeMs) →
    (services ++ [latest]).Pairwise (·.moment.uptimeMs ≤ ·.moment.uptimeMs) →
    ((counting.serveAll debounceMs (services ++ [latest])).status.occupied = false ↔
      remaining ≤ msBetween uptimeMs latest.moment.uptimeMs)
  /-- The whole seconds that cover the time left are long enough to sleep. -/
  slept : coverSecs remaining = (remaining + 999) / 1000 ∧ ∀ moment,
    coverSecs remaining * 1000 ≤ msBetween uptimeMs moment.uptimeMs → counting.EndsAt debounceMs moment

/-- An open session ends without a detection where it was quiet for the debounce time. -/
theorem endsAt_iff (hlast : counting.engine.lastEvent = some last) (hopen : counting.status.occupied = true)
    (debounceMs : UInt32) (moment : Moment) :
    counting.EndsAt debounceMs moment ↔ debounceMs.toNat ≤ msBetween last moment.uptimeMs := by
  have hquiet : (⟨false, moment⟩ : Service).detected = false := rfl
  rcases serve_of_quiet_open hlast hopen hquiet with ⟨hearly, hsame⟩ | ⟨hlate, hended, _⟩
  · rw [EndsAt, hsame]
    exact iff_of_false nofun (Nat.not_le.mpr hearly)
  · exact iff_of_true hended hlate

/-- The debounce time since the last detection is over once what is left of it now has gone by. -/
theorem debounce_le_iff {later : UInt64} (hlast : last ≤ uptimeMs) (hlater : uptimeMs ≤ later)
    (hearly : msBetween last uptimeMs < debounceMs.toNat) :
    debounceMs.toNat ≤ msBetween last later ↔
      debounceMs.toNat - msBetween last uptimeMs ≤ msBetween uptimeMs later := by
  have hbefore := UInt64.le_iff_toNat_le.mp hlast
  have hafter := UInt64.le_iff_toNat_le.mp hlater
  unfold msBetween at *
  omega

/-- The seconds that cover some milliseconds are these rounded up. -/
theorem coverSecs_eq {ms : Nat} (hpos : 0 < ms) : coverSecs ms = (ms + 999) / 1000 := by
  unfold coverSecs
  omega

/-- An open session whose last detection is remembered has the rest of the debounce time to go. -/
theorem expires_of_remembered (hlast : counting.engine.lastEvent = some last) (hle : last ≤ uptimeMs)
    (hopen : counting.status.occupied = true) (hearly : msBetween last uptimeMs < debounceMs.toNat) :
    counting.Expires debounceMs uptimeMs (debounceMs.toNat - msBetween last uptimeMs) where
  detected := ⟨last, hlast, hle, hearly⟩
  told := by
    rw [CountingEngine.debounceRemaining, hopen, CountingEngine.debounceStart, hlast]
    rfl
  pos := Nat.sub_pos_of_lt hearly
  le := Nat.sub_le _ _
  ends := by
    intro moment hlater
    rw [endsAt_iff hlast hopen, debounce_le_iff hle hlater hearly]
  endsAfter := by
    intro services latest hquiet hlater honward
    rw [occupied_serveAll_of_quiet hlast hopen hquiet honward,
      debounce_le_iff hle (hlater latest (List.mem_append_right _ List.mem_cons_self)) hearly]
  slept := by
    have hcover := coverSecs_eq (Nat.sub_pos_of_lt hearly)
    refine ⟨hcover, fun moment hslept => ?_⟩
    have hbefore := UInt64.le_iff_toNat_le.mp hle
    rw [endsAt_iff hlast hopen]
    unfold msBetween at *
    omega

/-- Whatever the status was before the first of the services, a service that leaves a session open remembers a
detection less than the debounce time ago; the planner is told that some of the debounce time is left, and when that is
over, but not before, a service without a detection ends the session. -/
theorem expires_of_occupied (debounceMs : UInt32) (earlier : List Service) (latest : Service)
    (htimely : counting.Timely (earlier ++ [latest]))
    (hopen : (counting.serveAll debounceMs (earlier ++ [latest])).status.occupied = true) :
    ∃ remaining, (counting.serveAll debounceMs (earlier ++ [latest])).Expires debounceMs latest.moment.uptimeMs
      remaining := by
  have hbefore := htimely.serveAll debounceMs
  rw [serveAll_append, serveAll_cons] at hopen ⊢
  have hserves := serves_serve (counting.serveAll debounceMs earlier) debounceMs latest
  obtain ⟨last, hlast, hearly⟩ := hserves.remembers hopen
  have hle : last ≤ latest.moment.uptimeMs := by
    rcases hserves.lastEvent_eq with hsame | hnow
    · rw [hsame] at hlast
      exact hbefore.remembered last hlast latest List.mem_cons_self
    · rw [hnow] at hlast
      exact UInt64.le_of_eq (Option.some.inj hlast).symm
  exact ⟨_, expires_of_remembered hlast hle hopen hearly⟩

/-- A session from before the boot, with half a second of debounce time: it goes on from the first service, and by the
detection at the third, and at the last one it has 350 milliseconds to go. -/
theorem expires_of_occupied_acrossBoot :
    let service : Bool → UInt64 → Service := fun detected ms => ⟨detected, ⟨1699963300, ms, true, 0⟩⟩
    let booted : Counting := { status := { occupied := true, occupancyStart := 1699963200 } }
    let earlier : List Service := [service false 50, service false 400, service true 450]
    booted.Timely (earlier ++ [service false 600]) ∧
      (booted.serveAll 500 (earlier ++ [service false 600])).status.occupied = true ∧
      (booted.serveAll 500 (earlier ++ [service false 600])).Expires 500 600 350 ∧
      (booted.serveAll 500 (earlier ++ [service false 600])).EndsAt 500 ⟨1699963301, 950, true, 0⟩ ∧
      ¬(booted.serveAll 500 (earlier ++ [service false 600])).EndsAt 500 ⟨1699963301, 949, true, 0⟩ := by
  intro service booted earlier
  have htimely : booted.Timely (earlier ++ [service false 600]) := ⟨nofun, by decide⟩
  have hopen : (booted.serveAll 500 (earlier ++ [service false 600])).status.occupied = true := by decide
  have hleft : (booted.serveAll 500 (earlier ++ [service false 600])).engine.debounceRemaining 500
      (booted.serveAll 500 (earlier ++ [service false 600])).status 600 = some 350 := by decide
  obtain ⟨remaining, hexpires⟩ := expires_of_occupied 500 earlier (service false 600) htimely hopen
  have hlast : (service false 600).moment.uptimeMs = 600 := rfl
  rw [hlast] at hexpires
  obtain rfl : remaining = 350 := Option.some.inj (hexpires.told.symm.trans hleft)
  refine ⟨htimely, hopen, hexpires, (hexpires.ends _ ?_).mpr ?_, fun hends => ?_⟩
  · decide
  · decide
  · exact absurd ((hexpires.ends _ (by decide)).mp hends) (by decide)

end Counting

end FieldCounter
