import FieldCounter.Proofs.Crediting
import FieldCounter.Proofs.FailureRecognition

/-!
# Occupied time and the time that went by

Over a run between two boots, what is credited is what the stretches come to on the wall clock, and the stretches
take no more of the uptime than went by. So the occupied time is no more than the time that went by, but for a
second for each stretch, as long as over none of them the wall clock gains more than that on the uptime. Where the
clock is set while a session is open, the stretch goes from the one clock to the other, and what is credited is
no time that went by.
-/

namespace FieldCounter

open Program (Path)

/-! ## Events -/

namespace Event

/-- The stretches that are credited in the event. A tick credits one that the service of the counting ends, with a
detection or without one, and those that are seen at the calls that follow. -/
def stretches (watch : Watch) : Event → List Stretch × Watch
  | .tick before (⟨.readClock, moment⟩ :: ⟨.takeSensorFlag, marked⟩ :: calls) _ _ =>
    match before.sensors.poll.along calls with
    | some (polled, rest) => watch.through before (marked || polled) moment rest
    | none => ([], watch)
  | _ => ([], watch)

/-- By how much the event makes the occupied time of the day go on. -/
def dayGrowth : Event → Nat
  | .tick before _ _ after => after.status.value.day.secs - before.status.value.day.secs
  | .boot _ _ | .raise _ _ => 0

/-- The tick counts in the mode. -/
def CountsIn (mode : CountingMode) : Event → Prop
  | .tick before _ _ _ => before.config.value.countingMode = mode
  | .boot _ _ | .raise _ _ => True

instance (mode : CountingMode) : DecidablePred (CountsIn mode)
  | .tick _ _ _ _ => inferInstanceAs (Decidable (_ = _))
  | .boot _ _ | .raise _ _ => isTrue trivial

end Event

section

variable {c before after : Controller} {next : Option Controller} {calls : List Exchange} {control : Control}
  {event : Event} {watch : Watch}

/-- Looking at the sensor does not read the clock. -/
theorem reading_of_isLook {exchange : Exchange} (h : exchange.call.isLook = true) : exchange.reading = none := by
  unfold Exchange.reading
  split
  · cases h
  · rfl

/-- The calls of a tick are those that its stretches are read off. -/
theorem stretches_of_tick (h : Path (Controller.tick.run before) calls (control, after)) (watch : Watch) :
    ∃ moment marked polling polled rest, Path before.sensors.poll polling polled ∧
      calls = ⟨.readClock, moment⟩ :: ⟨.takeSensorFlag, marked⟩ :: (polling ++ rest) ∧
      (Event.tick before calls control after).stretches watch =
        watch.through before (marked || polled) moment rest := by
  obtain ⟨moment, marked, polling, polled, rest, hpoll, rfl⟩ := Controller.opening_of_tick h
  refine ⟨moment, marked, polling, polled, rest, hpoll, rfl, ?_⟩
  rw [Event.stretches, hpoll.along]

/-- An event records what its stretches come to. -/
theorem Event.Leads.credits (h : event.Leads (some c) next) (hboot : event.isBoot = false)
    (hmode : event.CountsIn .occupancy) (htracks : watch.Tracks c.status.value) :
    event.Books (Stretch.booked (event.stretches watch).1) ∧
      event.dayGrowth ≤ (Stretch.booked (event.stretches watch).1).secs ∧
      ∀ c ∈ next, (event.stretches watch).2.Tracks c.status.value := by
  cases h with
  | boot => cases hboot
  | raise _ alert now =>
    refine ⟨.raise alert now, Nat.zero_le _, fun raised hraised => ?_⟩
    obtain rfl := Option.some.inj hraised
    exact htracks.of_figures rfl
  | @tick _ after calls control hpath =>
    obtain ⟨moment, marked, polling, polled, rest, hpoll, rfl, hstretches⟩ := stretches_of_tick hpath watch
    obtain ⟨hbooked, hafter⟩ := Controller.follows_of_tick hpath hpoll htracks hmode
    have hday := Controller.day_secs_of_tick hpath hpoll
    rw [hstretches, ← hbooked]
    refine ⟨.tick hpoll, Nat.sub_le_iff_le_add'.mpr hday, fun ended hended => ?_⟩
    cases control with
    | proceed =>
      obtain rfl := Option.some.inj hended
      exact hafter
    | restart => cases hended

/-- The stretches of an event are no longer than its calls take. -/
theorem Event.Leads.spends_stretches (h : event.Leads (some c) next) (hboot : event.isBoot = false)
    (hordered : watch.Ordered) (honward : Onward (watch.latest :: readings event.calls)) :
    watch.Spends (event.stretches watch).1 (event.stretches watch).2 ∧
      (event.stretches watch).2.latest = (readings event.calls).getLastD watch.latest := by
  cases h with
  | boot => cases hboot
  | raise _ alert now => exact ⟨Watch.spends_nil hordered, rfl⟩
  | @tick _ after calls control hpath =>
    obtain ⟨moment, marked, polling, polled, rest, hpoll, rfl, hstretches⟩ := stretches_of_tick hpath watch
    have hreadings : readings (⟨.readClock, moment⟩ :: ⟨.takeSensorFlag, marked⟩ :: (polling ++ rest)) =
        moment :: readings rest := by
      have hpolling : readings polling = [] := List.filterMap_eq_nil_iff.mpr fun exchange hmem =>
        reading_of_isLook (c.sensors.calls_poll hpoll exchange hmem)
      rw [readings_cons, readings_cons, readings_append, hpolling]
      rfl
    have hcalls : (Event.tick c (⟨.readClock, moment⟩ :: ⟨.takeSensorFlag, marked⟩ :: (polling ++ rest)) control
        after).calls = ⟨.readClock, moment⟩ :: ⟨.takeSensorFlag, marked⟩ :: (polling ++ rest) := rfl
    rw [hcalls, hreadings] at honward ⊢
    rw [hstretches, List.getLastD_cons]
    exact Watch.spends_through hordered honward

end

/-! ## Runs -/

/-- The stretches that are credited in the history. -/
def stretches (watch : Watch) : List Event → List Stretch × Watch
  | [] => ([], watch)
  | event :: rest =>
    let (first, between) := event.stretches watch
    let (more, last) := stretches between rest
    (first ++ more, last)

/-- By how much the occupied time of the day went on in the history. -/
def dayGrowth : List Event → Nat
  | [] => 0
  | event :: rest => event.dayGrowth + dayGrowth rest

/-- The uptime from the start to the last reading. -/
def elapsedMs (start : Moment) (calls : List Exchange) : Nat :=
  msBetween start.uptimeMs ((readings calls).getLastD start).uptimeMs

/-- The stretches of a history are credited event by event. -/
theorem stretches_cons (watch : Watch) (event : Event) (rest : List Event) :
    stretches watch (event :: rest) = ((event.stretches watch).1 ++ (stretches (event.stretches watch).2 rest).1,
      (stretches (event.stretches watch).2 rest).2) := rfl

section

variable {c : Controller} {history : List Event} {last : Option Controller} {watch : Watch}

/-- What is recorded in the history is what its stretches come to, and they take no more time than goes by. -/
structure Credited (watch : Watch) (history : List Event) : Prop where
  booked : Booked history (Stretch.booked (stretches watch history).1)
  growth : dayGrowth history ≤ (Stretch.booked (stretches watch history).1).secs
  spends : watch.Spends (stretches watch history).1 (stretches watch history).2
  latest : (stretches watch history).2.latest = (readings (callsOf history)).getLastD watch.latest

/-- Without an event nothing is recorded and no time goes by. -/
theorem credited_nil (h : watch.Ordered) : Credited watch [] where
  booked := ⟨[], .nil, rfl⟩
  growth := Nat.zero_le _
  spends := Watch.spends_nil h
  latest := rfl

/-- So it is between two boots, from where the status holds the session that is open. -/
theorem Run.credited (hrun : Run (some c) history last) (hboots : ∀ event ∈ history, event.isBoot = false)
    (hmode : ∀ event ∈ history, event.CountsIn .occupancy) (htracks : watch.Tracks c.status.value)
    (hordered : watch.Ordered) (honward : Onward (watch.latest :: readings (callsOf history))) :
    Credited watch history := by
  induction history generalizing c watch with
  | nil => exact credited_nil hordered
  | cons event rest ih =>
    cases hrun with
    | @cons _ between _ _ _ hleads hrest =>
      obtain ⟨hboot, hboots⟩ := List.forall_mem_cons.mp hboots
      obtain ⟨hevent, hmode⟩ := List.forall_mem_cons.mp hmode
      have hreadings : readings (callsOf (event :: rest)) = readings event.calls ++ readings (callsOf rest) :=
        readings_append event.calls (callsOf rest)
      rw [hreadings] at honward
      obtain ⟨hfirst, hlater⟩ := honward.append
      obtain ⟨hbooks, hday, hafter⟩ := hleads.credits hboot hevent htracks
      obtain ⟨hspends, hlatest⟩ := hleads.spends_stretches hboot hordered hfirst
      rw [← hlatest] at hlater
      have hmore : Credited (event.stretches watch).2 rest := by
        cases between with
        | none =>
          obtain rfl := Run.eq_nil_of_none hrest hboots
          exact credited_nil hspends.ordered
        | some c => exact ih hrest hboots hmode (hafter c rfl) hspends.ordered hlater
      obtain ⟨entries, hentries, htotal⟩ := hmore.booked
      refine ⟨⟨_ :: entries, .cons hbooks hentries, ?_⟩, ?_, ?_, ?_⟩
      · rw [stretches_cons, Stretch.booked_append, List.sum_cons, htotal]
      · rw [stretches_cons, Stretch.booked_append]
        exact Nat.add_le_add hday hmore.growth
      · rw [stretches_cons]
        exact hspends.trans hmore.spends
      · rw [stretches_cons, hreadings, getLastD_append, ← hlatest]
        exact hmore.latest

/-- Between two boots, from where no session is open, what is recorded of occupied time is what its stretches come
to on the wall clock; and if over none of them the wall clock gains more than a second on the uptime, the occupied
time of the day goes on by no more than the time that went by, and a second for each session that is counted and for
each report in which a session that goes on is credited. -/
theorem Run.occupied_le_elapsed {start : Moment} (hrun : Run (some c) history last)
    (hboots : ∀ event ∈ history, event.isBoot = false) (hmode : ∀ event ∈ history, event.CountsIn .occupancy)
    (hopen : c.status.value.occupied = false) (honward : Onward (start :: readings (callsOf history))) :
    let credited := (stretches { latest := start } history).1
    Booked history (Stretch.booked credited) ∧ dayGrowth history ≤ (Stretch.booked credited).secs ∧
      ((∀ stretch ∈ credited, stretch.Paced) →
        (Stretch.booked credited).secs ≤ elapsedMs start (callsOf history) / 1000 +
          ((Stretch.booked credited).counts + credited.countP fun stretch => !stretch.ended)) := by
  intro credited
  have hcredited := hrun.credited hboots hmode (Watch.tracks_closed start hopen) nofun honward
  refine ⟨hcredited.booked, hcredited.growth, fun hpaced => ?_⟩
  have hspent := hcredited.spends.spent
  rw [hcredited.latest] at hspent
  have huptime : Stretch.uptime credited ≤ elapsedMs start (callsOf history) := calc
    Stretch.uptime credited ≤ Stretch.uptime credited + _ := Nat.le_add_right _ _
    _ ≤ 0 + elapsedMs start (callsOf history) := hspent
    _ = elapsedMs start (callsOf history) := Nat.zero_add _
  have hkinds : credited.length =
      (Stretch.booked credited).counts + credited.countP fun stretch => !stretch.ended := by
    rw [Stretch.counts_booked, List.length_eq_countP_add_countP (·.ended)]
    simp only [Bool.not_eq_true, Bool.decide_eq_false]
  rw [← hkinds]
  exact Nat.le_trans (Stretch.secs_booked_le hpaced) (Nat.add_le_add_right (Nat.div_le_div_right huptime) _)

end

/-- Devices so many milliseconds after noon, whose wall clock goes on in the middle of a second of the uptime. -/
def Devices.outOfStep (ms : Nat) : Devices :=
  .ordinary { now := 1699963200 + UInt32.ofNat ((ms + 500) / 1000), uptimeMs := UInt64.ofNat ms, valid := true,
              utcOffset := 0 } true

/-- Devices with stored settings by which sessions are counted, which end after five and a half seconds. -/
def Devices.countingSessions (devices : Devices) : Devices
  | .readRecord .config =>
    .ok (Record.encode { (default : DeviceConfig) with countingMode := .occupancy, occupancyDebounce := 5500 })
  | call => devices call

/-- A device just booted with these settings. -/
def sessionCounter : Controller :=
  (Controller.boot.run (Devices.countingSessions (.unsynchronised 0)).environment ()).1

/-- A session goes on for six seconds, and it is credited in a report while it does. -/
def reportedSession : List Scene :=
  [.tick (Devices.outOfStep 2499).detecting, .tick (.outOfStep 3000), .tick (.outOfStep 4501), .tick (.outOfStep 8500)]

/-- In two stretches it comes to seven seconds. -/
theorem occupied_le_elapsed_reportedSession :
    let history := (live reportedSession (some sessionCounter)).1
    let start : Moment := Devices.outOfStep 2499 .readClock
    let credited := (stretches { latest := start } history).1
    (∃ last, Run (some sessionCounter) history last) ∧ (∀ event ∈ history, event.isBoot = false) ∧
      (∀ event ∈ history, event.CountsIn .occupancy) ∧ sessionCounter.status.value.occupied = false ∧
      Onward (start :: readings (callsOf history)) ∧ (∀ stretch ∈ credited, stretch.Paced) ∧
      Booked history ⟨1, 7⟩ ∧ dayGrowth history = 7 ∧ elapsedMs start (callsOf history) = 6001 ∧
      (credited.countP fun stretch => !stretch.ended) = 1 ∧
      dayGrowth history ≤ elapsedMs start (callsOf history) / 1000 +
        ((Stretch.booked credited).counts + credited.countP fun stretch => !stretch.ended) := by
  intro history start credited
  have hrun : Run (some sessionCounter) history _ := run_live reportedSession (some sessionCounter)
  have hboots : ∀ event ∈ history, event.isBoot = false := by decide +kernel
  have hmode : ∀ event ∈ history, event.CountsIn .occupancy := by decide +kernel
  have honward : Onward (start :: readings (callsOf history)) := by decide +kernel
  have hpaced : ∀ stretch ∈ credited, stretch.Paced := by decide +kernel
  obtain ⟨hbooked, hday, helapsed⟩ := hrun.occupied_le_elapsed hboots hmode (by decide +kernel) honward
  have htotal : Stretch.booked credited = ⟨1, 7⟩ := by decide +kernel
  exact ⟨⟨_, hrun⟩, hboots, hmode, by decide +kernel, honward, hpaced, htotal ▸ hbooked, by decide +kernel,
    by decide +kernel, by decide +kernel, Nat.le_trans hday (helapsed hpaced)⟩

/-- A session begins a second after the device was switched on, and six seconds later, when it ends, the wall clock
was set. -/
def clockSet : List Scene :=
  [.tick (.unsynchronised 0), .tick (Devices.unsynchronised 1).detecting, .tick (.afterNoon 7 true)]

/-- Whatever the wall clock does, there is no such bound: where it is set while a session is open, all the time between
the two clocks is credited to the session, here some fifty years. -/
theorem not_occupied_le_elapsed_clockSet :
    ¬∀ (calls : List Exchange) (c : Controller) (history : List Event) (last : Option Controller) (start : Moment),
      Run none (.boot calls c :: history) last → (∀ event ∈ history, event.isBoot = false) →
      (∀ event ∈ history, event.CountsIn .occupancy) → c.status.value.occupied = false →
      Onward (start :: readings (callsOf history)) →
      dayGrowth history ≤ elapsedMs start (callsOf history) / 1000 +
        ((Stretch.booked (stretches { latest := start } history).1).counts +
          (stretches { latest := start } history).1.countP fun stretch => !stretch.ended) := by
  intro h
  have hrun := run_live (.boot (Devices.countingSessions (.unsynchronised 0)) :: clockSet) none
  have hle := h _ sessionCounter (live clockSet (some sessionCounter)).1 _ (Devices.unsynchronised 0 .readClock) hrun
    (by decide +kernel) (by decide +kernel) (by decide +kernel) (by decide +kernel)
  exact absurd hle (by decide +kernel)

end FieldCounter
