import FieldCounter.Proofs.Ledger
import FieldCounter.Proofs.OpenSleep

/-!
# Stretches of occupied time

Occupied time is credited in stretches. A stretch goes from the detection that begins a session, or from the
report at which the session was last credited, to the next report, or to the end of the session, and it is
measured on the wall clock as that is read at both ends, whether or not the clock was set in between. Which
stretches there are is read off the calls of a tick; and as each of them goes on where the one before ended, or
later, they take no more of the uptime together than went by, as long as it does not go back.
-/

namespace FieldCounter

/-- A part of a session that is credited at once. -/
structure Stretch where
  since : Moment
  upTo : Moment
  /-- The session ends with it, and is not only credited in a report. -/
  ended : Bool
deriving DecidableEq, Repr

namespace Stretch

/-- By how much the wall clock went on. -/
def wallSecs (stretch : Stretch) : Nat := secsBetween stretch.since.now stretch.upTo.now

/-- How long it took. -/
def uptimeMs (stretch : Stretch) : Nat := msBetween stretch.since.uptimeMs stretch.upTo.uptimeMs

/-- The wall clock gained no more than a second on the uptime, as two clocks may that show whole seconds. -/
def Paced (stretch : Stretch) : Prop := stretch.wallSecs ≤ stretch.uptimeMs / 1000 + 1

instance : DecidablePred Paced := fun _ => inferInstanceAs (Decidable (_ ≤ _))

/-- What it is recorded as. -/
def entry (stretch : Stretch) : Ledger := ⟨if stretch.ended then 1 else 0, stretch.wallSecs⟩

/-- What stretches are recorded as together. -/
def booked (stretches : List Stretch) : Ledger := (stretches.map entry).sum

/-- How long stretches took together. -/
def uptime : List Stretch → Nat
  | [] => 0
  | stretch :: rest => stretch.uptimeMs + uptime rest

/-- No stretches take no time. -/
@[simp] theorem uptime_nil : uptime [] = 0 := rfl

/-- Stretches are added up in parts. -/
theorem booked_append (first more : List Stretch) : booked (first ++ more) = booked first + booked more := by
  simp only [booked, List.map_append, List.sum_append]

/-- The time they take adds up part by part. -/
theorem uptime_append (first more : List Stretch) : uptime (first ++ more) = uptime first + uptime more := by
  induction first with
  | nil => exact (Nat.zero_add _).symm
  | cons stretch first ih => rw [List.cons_append, uptime, uptime, ih, Nat.add_assoc]

/-- The sessions that ended are counted. -/
theorem counts_booked (stretches : List Stretch) : (booked stretches).counts = stretches.countP (·.ended) := by
  induction stretches with
  | nil => rfl
  | cons stretch stretches ih =>
    rw [List.countP_cons, ← ih]
    show (stretch.entry + booked stretches).counts = _
    rw [Ledger.counts_add, entry, Nat.add_comm]

/-- Stretches that are paced come to no more seconds than they took, and one more for each of them. -/
theorem secs_booked_le {stretches : List Stretch} (h : ∀ stretch ∈ stretches, stretch.Paced) :
    (booked stretches).secs ≤ uptime stretches / 1000 + stretches.length := by
  induction stretches with
  | nil => exact Nat.zero_le _
  | cons stretch stretches ih =>
    obtain ⟨hfirst, hrest⟩ := List.forall_mem_cons.mp h
    have hmore := ih hrest
    show stretch.wallSecs + (booked stretches).secs ≤
      (stretch.uptimeMs + uptime stretches) / 1000 + (stretches.length + 1)
    unfold Paced at hfirst
    omega

end Stretch

/-! ## Watching the calls -/

/-- The latest reading of the clocks, and the one since which the open session was not credited. -/
structure Watch where
  latest : Moment
  since : Option Moment := none

namespace Watch

/-- The open session, if there is one, is credited up to the latest reading. -/
def stretch (watch : Watch) (ended : Bool) : List Stretch :=
  watch.since.toList.map fun since => { since, upTo := watch.latest, ended }

/-- A detection begins a session where none is open. -/
def detect (watch : Watch) : Watch := { watch with since := some (watch.since.getD watch.latest) }

/-- A call may read the clocks, take the mark of a detection that ended a sleep, hand over a report or begin a
deep sleep. -/
def see (watch : Watch) : Exchange → List Stretch × Watch
  | ⟨.readClock, moment⟩ => ([], { watch with latest := moment })
  | ⟨.takeSensorFlag, _⟩ => ([], watch.detect)
  | ⟨.enqueue _, _⟩ => (watch.stretch false, { watch with since := watch.since.map fun _ => watch.latest })
  | ⟨.deepSleep _ _, _⟩ => (watch.stretch true, { watch with since := none })
  | _ => ([], watch)

/-- The stretches that are credited at the calls. -/
def follow (watch : Watch) : List Exchange → List Stretch × Watch
  | [] => ([], watch)
  | exchange :: rest =>
    let (first, next) := watch.see exchange
    let (more, last) := next.follow rest
    (first ++ more, last)

/-- What became of a detection, or of the lack of one, when the counting was serviced. -/
def serve (watch : Watch) : Option CountEvent → List Stretch × Watch
  | some .occupancyStarted => ([], watch.detect)
  | some (.occupancyEnded _) => (watch.detect.stretch true, { watch with since := none })
  | _ => ([], watch)

/-- A watch follows the calls one after the other. -/
theorem follow_cons (watch : Watch) (exchange : Exchange) (rest : List Exchange) :
    watch.follow (exchange :: rest) =
      ((watch.see exchange).1 ++ ((watch.see exchange).2.follow rest).1, ((watch.see exchange).2.follow rest).2) := rfl

/-- The calls are watched in parts. -/
theorem follow_append (watch : Watch) (first rest : List Exchange) :
    watch.follow (first ++ rest) =
      ((watch.follow first).1 ++ ((watch.follow first).2.follow rest).1, ((watch.follow first).2.follow rest).2) := by
  induction first generalizing watch with
  | nil => rfl
  | cons exchange first ih => rw [List.cons_append, follow_cons, ih, follow_cons, List.append_assoc]

end Watch

/-! ## The time that goes by -/

/-- What the calls say of the clocks. -/
def readings (calls : List Exchange) : List Moment := calls.filterMap Exchange.reading

/-- The uptime does not go back from one reading to a later one. -/
def Onward (moments : List Moment) : Prop := moments.Pairwise (·.uptimeMs ≤ ·.uptimeMs)

instance : DecidablePred Onward := fun _ => inferInstanceAs (Decidable (List.Pairwise _ _))

/-- Readings are listed part by part. -/
theorem readings_append (first rest : List Exchange) : readings (first ++ rest) = readings first ++ readings rest :=
  List.filterMap_append

/-- Readings are listed call by call. -/
theorem readings_cons (exchange : Exchange) (rest : List Exchange) :
    readings (exchange :: rest) = exchange.reading.toList ++ readings rest := by
  unfold readings
  cases hread : exchange.reading with
  | none => rw [List.filterMap_cons_none hread]; rfl
  | some moment => rw [List.filterMap_cons_some hread]; rfl

/-- The latest of all is the latest of the rest, if there is one. -/
theorem getLastD_append (first rest : List Moment) (start : Moment) :
    (first ++ rest).getLastD start = rest.getLastD (first.getLastD start) := by
  simp only [List.getLastD_eq_getLast?, List.getLast?_append, Option.getD_or]

/-- It goes on from the last of the first readings to those that follow. -/
theorem Onward.append {start : Moment} {first rest : List Moment} (h : Onward (start :: (first ++ rest))) :
    Onward (start :: first) ∧ Onward (first.getLastD start :: rest) := by
  induction first generalizing start with
  | nil => exact ⟨List.pairwise_singleton _ _, h⟩
  | cons moment first ih =>
    obtain ⟨hstart, hlater⟩ := List.pairwise_cons.mp h
    obtain ⟨hfirst, hrest⟩ := ih hlater
    refine ⟨List.pairwise_cons.mpr ⟨fun other hmem => hstart other (List.mem_append_left rest hmem), hfirst⟩, ?_⟩
    rw [List.getLastD_cons]
    exact hrest

namespace Watch

/-- How long the open session was not credited. -/
def openMs (watch : Watch) : Nat := watch.since.elim 0 fun since => msBetween since.uptimeMs watch.latest.uptimeMs

/-- The open session was credited before. -/
def Ordered (watch : Watch) : Prop := ∀ since ∈ watch.since, since.uptimeMs ≤ watch.latest.uptimeMs

/-- The stretches took no more time than went by, and what was open before. -/
structure Spends (watch : Watch) (stretches : List Stretch) (after : Watch) : Prop where
  ordered : after.Ordered
  forward : watch.latest.uptimeMs ≤ after.latest.uptimeMs
  spent : Stretch.uptime stretches + after.openMs ≤
    watch.openMs + msBetween watch.latest.uptimeMs after.latest.uptimeMs

variable {watch between after : Watch} {stretches more : List Stretch}

/-- What one part leaves open is left to the next. -/
theorem Spends.trans (h : watch.Spends stretches between) (hrest : between.Spends more after) :
    watch.Spends (stretches ++ more) after where
  ordered := hrest.ordered
  forward := UInt64.le_trans h.forward hrest.forward
  spent := by
    have hfirst := h.spent
    have hsecond := hrest.spent
    have hforward := UInt64.le_iff_toNat_le.mp h.forward
    have hlater := UInt64.le_iff_toNat_le.mp hrest.forward
    rw [Stretch.uptime_append]
    unfold msBetween at *
    omega

/-- Where no time is spent, the watch stays as it is. -/
theorem spends_nil (h : watch.Ordered) : watch.Spends [] watch where
  ordered := h
  forward := UInt64.le_refl _
  spent := by
    rw [Stretch.uptime_nil]
    omega

/-- The clocks are read. -/
theorem spends_read (h : watch.Ordered) {moment : Moment} (hforward : watch.latest.uptimeMs ≤ moment.uptimeMs) :
    watch.Spends [] { watch with latest := moment } where
  ordered := fun since hsince => UInt64.le_trans (h since hsince) hforward
  forward := hforward
  spent := by
    have hlatest := UInt64.le_iff_toNat_le.mp hforward
    rw [Stretch.uptime_nil, Nat.zero_add]
    unfold openMs
    cases hsince : watch.since with
    | none => exact Nat.zero_le _
    | some since =>
      have hbefore := UInt64.le_iff_toNat_le.mp (h since hsince)
      simp only [Option.elim_some, msBetween]
      omega

/-- A session that is begun was not open for any time yet. -/
theorem spends_detect (h : watch.Ordered) : watch.Spends [] watch.detect where
  ordered := by
    unfold detect
    intro since hsince
    obtain rfl := Option.some.inj hsince
    cases hopen : watch.since with
    | none => exact UInt64.le_refl _
    | some since => exact h since hopen
  forward := UInt64.le_refl _
  spent := by
    rw [Stretch.uptime_nil, Nat.zero_add]
    unfold openMs detect
    cases watch.since with
    | none => simp [msBetween]
    | some since => exact Nat.le_add_right _ _

/-- What is credited is not open any more. -/
theorem spends_stretch (ended : Bool) {since : Option Moment} (hsince : ∀ moment ∈ since, moment = watch.latest) :
    watch.Spends (watch.stretch ended) { watch with since } where
  ordered := by
    intro moment hmem
    rw [hsince moment hmem]
    exact UInt64.le_refl _
  forward := UInt64.le_refl _
  spent := by
    have hopen : ({ watch with since } : Watch).openMs = 0 := by
      unfold openMs
      cases since with
      | none => rfl
      | some moment => simp [hsince moment rfl, msBetween]
    rw [hopen]
    unfold stretch openMs
    cases watch.since with
    | none => exact Nat.zero_le _
    | some moment => exact Nat.le_add_right _ _

/-- At no call is more credited than was open. -/
theorem spends_see (h : watch.Ordered) {exchange : Exchange}
    (hforward : ∀ moment ∈ exchange.reading, watch.latest.uptimeMs ≤ moment.uptimeMs) :
    watch.Spends (watch.see exchange).1 (watch.see exchange).2 := by
  unfold see
  split
  · exact spends_read h (hforward _ rfl)
  · exact spends_detect h
  · refine spends_stretch false fun moment hmem => ?_
    obtain ⟨_, _, rfl⟩ := Option.map_eq_some_iff.mp hmem
    rfl
  · exact spends_stretch true nofun
  · exact spends_nil h

/-- A service does not read the clocks. -/
theorem latest_serve (watch : Watch) (event : Option CountEvent) : (watch.serve event).2.latest = watch.latest := by
  unfold serve
  split <;> rfl

/-- Only a look at the clock makes another reading the latest. -/
theorem latest_see (watch : Watch) (exchange : Exchange) :
    (watch.see exchange).2.latest = exchange.reading.getD watch.latest := by
  unfold see
  split
  · rfl
  · rfl
  · rfl
  · rfl
  · rename_i hread _ _ _
    unfold Exchange.reading
    split
    · exact absurd rfl (hread _)
    · rfl

/-- The stretches that are credited at the calls are no longer than the calls take. -/
theorem spends_follow {calls : List Exchange} (h : watch.Ordered) (honward : Onward (watch.latest :: readings calls)) :
    watch.Spends (watch.follow calls).1 (watch.follow calls).2 ∧
      (watch.follow calls).2.latest = (readings calls).getLastD watch.latest := by
  induction calls generalizing watch with
  | nil => exact ⟨spends_nil h, rfl⟩
  | cons exchange rest ih =>
    rw [readings_cons] at honward ⊢
    obtain ⟨hfirst, hrest⟩ := honward.append
    have hlatest : (watch.see exchange).2.latest = exchange.reading.toList.getLastD watch.latest := by
      rw [latest_see]
      cases exchange.reading <;> rfl
    have hsee := spends_see h fun moment hmem =>
      (List.pairwise_cons.mp hfirst).1 moment (Option.mem_toList.mpr hmem)
    rw [← hlatest] at hrest
    obtain ⟨hspends, hlast⟩ := ih hsee.ordered hrest
    refine ⟨hsee.trans hspends, ?_⟩
    rw [getLastD_append, ← hlatest]
    exact hlast

/-- Nor is there when the counting is serviced. -/
theorem spends_serve (h : watch.Ordered) (event : Option CountEvent) :
    watch.Spends (watch.serve event).1 (watch.serve event).2 := by
  unfold serve
  split
  · exact spends_detect h
  · have hdetect := spends_detect h
    exact hdetect.trans (spends_stretch true nofun)
  · exact spends_nil h

end Watch

end FieldCounter
