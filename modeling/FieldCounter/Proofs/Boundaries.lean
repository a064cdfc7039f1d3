import FieldCounter.Schedule
import Mathlib.Order.Bounds.Defs

/-!
# Sleeping to a boundary

The length of a sleep is worked out from what is left of the running interval, with a margin past the boundary and
with a least length. Whether an instant is a boundary is tested by how far it lies in its interval, on either side.
Here both are measured against the multiples of the interval themselves, so that they cannot disagree: the sleep is
the shortest that may be taken to just past a multiple, and the test asks for a multiple within the tolerance.

Nothing is said of a sleep that would end after the last instant which the clock can show.
-/

namespace FieldCounter

variable {now instant interval secs boundary later : Nat}

/-- One boundary after another, an interval lies between them. -/
theorem add_interval_le_of_lt (hboundary : interval ∣ boundary) (hlater : interval ∣ later) (hlt : boundary < later) :
    boundary + interval ≤ later := by
  have hapart : interval ≤ later - boundary := Nat.le_of_dvd (Nat.sub_pos_of_lt hlt) (Nat.dvd_sub hlater hboundary)
  omega

/-- The lengths of sleep that may be taken to just past a boundary. -/
def boundarySleeps (now interval : Nat) : Set Nat :=
  {secs | minTimedSleep ≤ secs ∧ ∃ boundary, interval ∣ boundary ∧ now + secs = boundary + sleepMargin}

/-- A sleep to just past a boundary is the shortest one if it would be too short to the boundary before. -/
theorem isLeast_boundarySleeps (hboundary : interval ∣ boundary) (hlong : minTimedSleep ≤ secs)
    (hends : now + secs = boundary + interval + sleepMargin)
    (hshort : boundary + sleepMargin < now + minTimedSleep) : IsLeast (boundarySleeps now interval) secs := by
  refine ⟨⟨hlong, boundary + interval, Nat.dvd_add hboundary (Nat.dvd_refl interval), hends⟩, ?_⟩
  rintro other ⟨hother, later, hlater, heq⟩
  have hnext : boundary + interval ≤ later := add_interval_le_of_lt hboundary hlater (by omega)
  omega

/-- An instant is taken for a boundary where there is one within the tolerance. -/
theorem isBoundaryAligned_iff (hinterval : 0 < interval) :
    isBoundaryAligned instant interval = true ↔ ∃ boundary, interval ∣ boundary ∧
      instant ≤ boundary + alignmentTolerance ∧ boundary ≤ instant + alignmentTolerance := by
  have hlatest : interval ∣ instant - instant % interval := Nat.dvd_sub_mod instant
  have hoffset : instant % interval < interval := Nat.mod_lt instant hinterval
  have hle : instant % interval ≤ instant := Nat.mod_le instant interval
  rw [isBoundaryAligned, if_neg (Nat.ne_of_gt hinterval), Bool.or_eq_true, decide_eq_true_iff, decide_eq_true_iff]
  constructor
  · rintro (hafter | hbefore)
    · exact ⟨instant - instant % interval, hlatest, by omega, by omega⟩
    · exact ⟨instant - instant % interval + interval, Nat.dvd_add hlatest (Nat.dvd_refl interval), by omega, by omega⟩
  · rintro ⟨boundary, hboundary, hafter, hbefore⟩
    rcases Nat.lt_or_ge (instant - instant % interval) boundary with hlater | hearlier
    · have hnext := add_interval_le_of_lt hlatest hboundary hlater
      exact .inr (by omega)
    · exact .inl (by omega)

/-- Where the next boundary is far enough away, the sleep ends just past it. -/
theorem intervalSleep_of_far (hinterval : 1 ≤ interval)
    (hfar : minTimedSleep ≤ interval - now % interval + sleepMargin) :
    intervalSleep now interval true = interval - now % interval + sleepMargin := by
  simp only [intervalSleep, Nat.max_eq_left hinterval, Bool.not_true, Bool.false_eq_true, if_false]
  exact if_neg (Nat.not_lt.mpr hfar)

/-- Else it goes on to the one after that. -/
theorem intervalSleep_of_near (hinterval : 1 ≤ interval)
    (hnear : interval - now % interval + sleepMargin < minTimedSleep) :
    intervalSleep now interval true = min (interval - now % interval + sleepMargin + interval) wordMax := by
  simp only [intervalSleep, Nat.max_eq_left hinterval, Bool.not_true, Bool.false_eq_true, if_false]
  exact if_pos hnear

/-- The sleep to a boundary is the shortest one that may be taken, if its length was not cut off. It is shorter than
the least length by itself and the interval. -/
theorem isLeast_intervalSleep (hinterval : minTimedSleep ≤ interval)
    (hrange : now + intervalSleep now interval true ≤ wordMax) :
    IsLeast (boundarySleeps now interval) (intervalSleep now interval true) ∧
      intervalSleep now interval true < interval + minTimedSleep := by
  have hpos : 1 ≤ interval := Nat.le_trans (by decide) hinterval
  have hlatest : interval ∣ now - now % interval := Nat.dvd_sub_mod now
  have hoffset : now % interval < interval := Nat.mod_lt now hpos
  have hle : now % interval ≤ now := Nat.mod_le now interval
  have hmargin : sleepMargin = 5 := rfl
  have hminimum : minTimedSleep = 10 := rfl
  rcases Nat.lt_or_ge (interval - now % interval + sleepMargin) minTimedSleep with hnear | hfar
  · rw [intervalSleep_of_near hpos hnear] at hrange ⊢
    have hnext : interval ∣ now - now % interval + interval := Nat.dvd_add hlatest (Nat.dvd_refl interval)
    exact ⟨isLeast_boundarySleeps hnext (by omega) (by omega) (by omega), by omega⟩
  · rw [intervalSleep_of_far hpos hfar]
    exact ⟨isLeast_boundarySleeps hlatest hfar (by omega) (by omega), by omega⟩

/-- By a clock that is right, the sleep to a boundary of an interval of a minute or more is the shortest of at least
ten seconds that ends five seconds past a multiple of the interval, as long as the clock can show its end. So it is at
most nine seconds longer than the interval, and it ends where a boundary is recognised; and, whatever the interval, one
is recognised exactly within half a minute of a multiple. -/
theorem intervalSleep_meets_boundary (hinterval : 60 ≤ interval)
    (hrange : now + intervalSleep now interval true ≤ wordMax) :
    IsLeast (boundarySleeps now interval) (intervalSleep now interval true) ∧
      intervalSleep now interval true ≤ interval + 9 ∧
      isBoundaryAligned (now + intervalSleep now interval true) interval = true ∧
      ∀ instant interval, 0 < interval →
        (isBoundaryAligned instant interval = true ↔ ∃ boundary, interval ∣ boundary ∧
          instant ≤ boundary + alignmentTolerance ∧ boundary ≤ instant + alignmentTolerance) := by
  obtain ⟨hleast, hbound⟩ := isLeast_intervalSleep (Nat.le_trans (by decide) hinterval) hrange
  obtain ⟨_, boundary, hboundary, hends⟩ := hleast.1
  refine ⟨hleast, Nat.le_of_lt_succ hbound, ?_, fun instant interval => isBoundaryAligned_iff⟩
  rw [hends, isBoundaryAligned_iff (Nat.lt_of_lt_of_le (by decide) hinterval)]
  exact ⟨boundary, hboundary, Nat.add_le_add_left (by decide) boundary, by omega⟩

/-- Two seconds before eleven o'clock, a sleep to the full hour goes on to twelve. -/
theorem intervalSleep_meets_boundary_nearTheHour :
    60 ≤ 3600 ∧ 39598 + intervalSleep 39598 3600 true ≤ wordMax ∧ intervalSleep 39598 3600 true = 3607 ∧
      IsLeast (boundarySleeps 39598 3600) (intervalSleep 39598 3600 true) ∧
      isBoundaryAligned (39598 + intervalSleep 39598 3600 true) 3600 = true := by
  have hrange : 39598 + intervalSleep 39598 3600 true ≤ wordMax := by decide
  have hlong : 60 ≤ 3600 := by decide
  obtain ⟨hleast, _, haligned, _⟩ := intervalSleep_meets_boundary hlong hrange
  exact ⟨hlong, hrange, by decide, hleast, haligned⟩

end FieldCounter
