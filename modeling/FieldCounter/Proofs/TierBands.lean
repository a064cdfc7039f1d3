import FieldCounter.Proofs.Reporting
import Mathlib.Data.List.Forall2

/-!
# Tiers that do not thrash

A charge alone does not say which tier the device is in. It leaves a band of tiers open, from the one that is
entered at this charge down to the one that the lowest tier rises to, and a reading moves the tier into the band of
its charge, no further than it must. The bands of charges that lie within five percent of each other overlap, and
their ends are at most one tier apart. So once a reading has settled the tier, charges that close to it and to each
other move the tier in one direction only, and once at most.

Nothing is said here about charges that lie further apart; there a tier may be left and entered again.
-/

namespace FieldCounter

namespace BatteryTier

variable {tier other : BatteryTier} {soc first moving last : Nat} {charges others : List Nat}

/-! ## Bands -/

/-- The lowest tier that is kept at `soc` percent. -/
def lowest (soc : Nat) : BatteryTier := survival.next soc

/-- The tier to which a charge falls, by its depth. -/
theorem depth_entry (soc : Nat) :
    (entry soc).depth = if soc < 30 then 3 else if soc ≤ 50 then 2 else if soc ≤ 70 then 1 else 0 := by
  simp only [entry, apply_ite depth]
  rfl

/-- Three steps up lead as far as the charge lets the lowest tier rise. -/
theorem depth_rise (tier : BatteryTier) (soc : Nat) :
    (rise soc (rise soc (rise soc tier))).depth =
      min tier.depth (if soc ≤ 35 then 3 else if soc ≤ 55 then 2 else if soc ≤ 75 then 1 else 0) := by
  cases tier <;> grind [rise, depth]

/-- The lowest tier that is kept at a charge, by its depth. -/
theorem depth_lowest (soc : Nat) :
    (lowest soc).depth = if soc ≤ 35 then 3 else if soc ≤ 55 then 2 else if soc ≤ 75 then 1 else 0 := by
  have hentry := depth_entry soc
  rw [lowest, next, if_neg, depth_rise]
  · grind [depth]
  · grind [depth]

/-- A reading moves the tier into the band of its charge, and no further than it must. -/
theorem depth_next (tier : BatteryTier) (soc : Nat) :
    (tier.next soc).depth = max (entry soc).depth (min tier.depth (lowest soc).depth) := by
  have hentry := depth_entry soc
  rw [next, depth_lowest, apply_ite depth, depth_rise]
  grind

/-- More charge opens better tiers and closes worse ones. -/
theorem band_antitone (h : first ≤ last) :
    (entry last).depth ≤ (entry first).depth ∧ (lowest last).depth ≤ (lowest first).depth := by
  rw [depth_entry, depth_entry, depth_lowest, depth_lowest]
  grind

/-- The bands of two charges within five percent of each other overlap, and their ends are at most one tier
apart. -/
theorem bands_close (hleft : first ≤ last + 5) (hright : last ≤ first + 5) :
    (entry first).depth ≤ (lowest last).depth ∧ (entry first).depth ≤ (entry last).depth + 1 ∧
      (lowest first).depth ≤ (lowest last).depth + 1 := by
  rw [depth_entry, depth_entry, depth_lowest, depth_lowest]
  grind

/-- A charge does not fall below the lowest tier that it keeps. -/
theorem entry_le_lowest (soc : Nat) : (entry soc).depth ≤ (lowest soc).depth :=
  (bands_close (Nat.le_add_right soc 5) (Nat.le_add_right soc 5)).1

/-- The tier lies in the band of the charge. -/
def Fits (tier : BatteryTier) (soc : Nat) : Prop :=
  (entry soc).depth ≤ tier.depth ∧ tier.depth ≤ (lowest soc).depth

/-- A reading leaves the tier in the band of its charge. -/
theorem fits_next (tier : BatteryTier) (soc : Nat) : (tier.next soc).Fits soc := by
  have hband := entry_le_lowest soc
  have hnext := depth_next tier soc
  constructor <;> omega

/-- A reading whose band the tier lies in already does not move it. -/
theorem next_of_fits (h : tier.Fits soc) : tier.next soc = tier := by
  have hnext := depth_next tier soc
  obtain ⟨hentry, hlowest⟩ := h
  apply depth_injective
  omega

/-! ## Courses -/

/-- The tiers after each of the charges. -/
def course (tier : BatteryTier) : List Nat → List BatteryTier
  | [] => []
  | soc :: rest => tier.next soc :: (tier.next soc).course rest

/-- How often the tier changes from one entry to the next. -/
def changes : List BatteryTier → Nat
  | tier :: next :: rest => (if next = tier then 0 else 1) + changes (next :: rest)
  | _ => 0

/-- The charges lie within six consecutive percentages. -/
def Near (charges : List Nat) : Prop := ∀ a ∈ charges, ∀ b ∈ charges, a ≤ b + 5

instance (charges : List Nat) : Decidable (Near charges) :=
  inferInstanceAs (Decidable (∀ a ∈ charges, ∀ b ∈ charges, a ≤ b + 5))

/-- Some of the charges lie as near to each other. -/
theorem Near.sublist (h : Near charges) (hsub : List.Sublist others charges) : Near others := by
  intro a ha b hb
  exact h a (hsub.subset ha) b (hsub.subset hb)

/-- A tier that lies in the bands of all charges stays. -/
theorem changes_of_fits (h : ∀ soc ∈ charges, tier.Fits soc) : changes (tier :: tier.course charges) = 0 := by
  induction charges with
  | nil => rfl
  | cons soc rest ih =>
    have hstays : tier.next soc = tier := next_of_fits (h soc List.mem_cons_self)
    have hrest := ih fun soc hmem => h soc (List.mem_cons_of_mem _ hmem)
    rw [course, hstays, changes, if_pos rfl, hrest]

/-- Where a charge moves the tier although it lay in the band of another one, it moves it into the bands of all
charges near those two: its own end of the band is already the furthest one. -/
theorem fits_of_moved (hnear : Near [first, moving, last]) (hfits : tier.Fits first)
    (hmoved : tier.next moving ≠ tier) : (tier.next moving).Fits last := by
  obtain ⟨hentry, hlowest⟩ := hfits
  have hoverlap := bands_close (hnear moving (by simp) last (by simp)) (hnear last (by simp) moving (by simp))
  have hback := bands_close (hnear last (by simp) moving (by simp)) (hnear moving (by simp) last (by simp))
  have hend := bands_close (hnear last (by simp) first (by simp)) (hnear first (by simp) last (by simp))
  have hstart := bands_close (hnear first (by simp) last (by simp)) (hnear last (by simp) first (by simp))
  have hband := entry_le_lowest moving
  have hnext := depth_next tier moving
  have hdepth : (tier.next moving).depth ≠ tier.depth := fun heq => hmoved (depth_injective heq)
  -- Moved down, the tier is at the upper end of the band; moved up, it is at the lower end.
  rcases Nat.lt_or_gt_of_ne hdepth with hup | hdown
  · have hreached : (tier.next moving).depth = (lowest moving).depth := by omega
    constructor <;> omega
  · have hreached : (tier.next moving).depth = (entry moving).depth := by omega
    constructor <;> omega

/-- Among charges near the one that settled the tier, it changes once at most. -/
theorem changes_le_one (hfits : tier.Fits first) (hnear : Near (first :: charges)) :
    changes (tier :: tier.course charges) ≤ 1 := by
  induction charges with
  | nil => exact Nat.zero_le 1
  | cons soc rest ih =>
    rw [course, changes]
    split
    next hstays =>
      rw [hstays, Nat.zero_add]
      exact ih (hnear.sublist (by simp))
    next hmoved =>
      have hlater : ∀ later ∈ rest, (tier.next soc).Fits later := by
        intro later hmem
        exact fits_of_moved (hnear.sublist (by simpa using hmem)) hfits hmoved
      exact Nat.le_of_eq (congrArg (1 + ·) (changes_of_fits hlater))

/-- A worse tier and less charge lead to a worse tier. -/
theorem depth_next_le (htier : other.depth ≤ tier.depth) (hsoc : first ≤ last) :
    (other.next last).depth ≤ (tier.next first).depth := by
  have hband := band_antitone hsoc
  rw [depth_next, depth_next]
  omega

/-- From a tier that is no worse, charges that are no lower lead to tiers that are no worse. -/
theorem course_ordered (hsoc : List.Forall₂ (· ≤ ·) charges others) (htier : other.depth ≤ tier.depth) :
    List.Forall₂ (fun worse better => better.depth ≤ worse.depth) (tier.course charges) (other.course others) := by
  induction hsoc generalizing tier other with
  | nil => exact .nil
  | cons hsoc _ ih =>
    have hnext := depth_next_le htier hsoc
    exact .cons hnext (ih hnext)

end BatteryTier

/-! ## Readings -/

namespace RuntimeStatus

open BatteryTier

/-- Readings of the battery, each with the time at which it is stored. -/
abbrev Readings := List (BatteryReading × UInt32)

/-- The tiers after each of the readings. -/
def tiersAfter (status : RuntimeStatus) : Readings → List BatteryTier
  | [] => []
  | (reading, now) :: rest =>
    (status.updateBattery reading now).value.batteryTier :: (status.updateBattery reading now).value.tiersAfter rest

/-- The charges in use for the readings: the test override where there is one, and at most 100 percent. -/
def chargesOf (status : RuntimeStatus) (readings : Readings) : List Nat :=
  readings.map fun (reading, _) => min (status.testSocOverride.getD reading.soc).toNat 100

/-- That a measured charge is cut off as it is stored makes no difference to the charge in use. -/
theorem toNat_tierSoc (soc : UInt8) (override : Option UInt8) :
    (tierSoc (min soc 100) override).toNat = min (override.getD soc).toNat 100 := by
  cases override <;> simp [tierSoc, UInt8.toNat_min]

/-- The readings lead through the tiers that their charges call for. -/
theorem tiersAfter_eq (status : RuntimeStatus) (readings : Readings) :
    status.tiersAfter readings = status.batteryTier.course (status.chargesOf readings) := by
  induction readings generalizing status with
  | nil => rfl
  | cons entry rest ih =>
    obtain ⟨reading, now⟩ := entry
    rw [tiersAfter, ih, value_updateBattery, toNat_tierSoc]
    rfl

/-- Readings whose charges lie within six consecutive percentages change the tier once at most after the first of
them has settled it. And of two devices, the one that starts in a tier no better and never has more charge in use
is never in the better tier. -/
theorem tiersAfter_steady_and_ordered :
    (∀ (status : RuntimeStatus) (readings : Readings),
      Near (status.chargesOf readings) → changes (status.tiersAfter readings) ≤ 1) ∧
    ∀ (lower higher : RuntimeStatus) (readings others : Readings),
      List.Forall₂ (· ≤ ·) (lower.chargesOf readings) (higher.chargesOf others) →
      higher.batteryTier.depth ≤ lower.batteryTier.depth →
      List.Forall₂ (fun worse better => better.depth ≤ worse.depth) (lower.tiersAfter readings)
        (higher.tiersAfter others) := by
  constructor
  · intro status readings hnear
    rw [tiersAfter_eq]
    cases hcharges : status.chargesOf readings with
    | nil => exact Nat.zero_le 1
    | cons first rest =>
      rw [hcharges] at hnear
      exact changes_le_one (fits_next status.batteryTier first) hnear
  · intro lower higher readings others hcharges htier
    rw [tiersAfter_eq, tiersAfter_eq]
    exact course_ordered hcharges htier

/-- Charges about the threshold at which the critical tier is left: it is left once, and a charge back at 51 percent
does not lead back. A device that is tested with 36 percent stays below. -/
theorem tiersAfter_steady_and_ordered_leavingCritical :
    let device : RuntimeStatus := { batteryTier := .critical }
    let tested : RuntimeStatus := { batteryTier := .survival, testSocOverride := some 36 }
    let readings : Readings := [55, 56, 51, 56, 54].map fun soc => (⟨soc, .discharging, 180, none⟩, 1000)
    Near (device.chargesOf readings) ∧
      device.tiersAfter readings = [.critical, .conserving, .conserving, .conserving, .conserving] ∧
      changes (device.tiersAfter readings) ≤ 1 ∧
      List.Forall₂ (· ≤ ·) (tested.chargesOf readings) (device.chargesOf readings) ∧
      device.batteryTier.depth ≤ tested.batteryTier.depth ∧
      List.Forall₂ (fun worse better => better.depth ≤ worse.depth) (tested.tiersAfter readings)
        (device.tiersAfter readings) := by
  intro device tested readings
  have hnear : Near (device.chargesOf readings) := by decide
  have hcharges : List.Forall₂ (· ≤ ·) (tested.chargesOf readings) (device.chargesOf readings) := by decide
  have htier : device.batteryTier.depth ≤ tested.batteryTier.depth := by decide
  exact ⟨hnear, by decide, tiersAfter_steady_and_ordered.1 device readings hnear, hcharges, htier,
    tiersAfter_steady_and_ordered.2 tested device readings readings hcharges htier⟩

end RuntimeStatus

end FieldCounter
