import FieldCounter.SleepPlan

/-!
# Sleeping to the next opening

The length of a sleep is settled from the local time at which it begins, while what it must not miss is a later
instant: the next one at which the window is open. The offset stays as it is, so the second of the local day goes on
with the wall clock, modulo a day. That ties the two together across midnight, for windows within the day and for
those that run past its end: the wait is the exact one, to the second.

It is left open here what becomes of a sleep during which the offset or the clock itself is set anew.
-/

namespace FieldCounter

/-- So many seconds later, as long as the clock can show it. -/
theorem toNat_add_ofNat {now : UInt32} {secs : Nat} (hrange : now.toNat + secs ≤ wordMax) :
    (now + UInt32.ofNat secs).toNat = now.toNat + secs := by
  simp only [wordMax] at hrange
  rw [UInt32.toNat_add, UInt32.toNat_ofNat']
  omega

namespace LocalTime

/-- The second of the local day goes on with the wall clock. -/
theorem secondOfDay_ofUnix_of_le {now later : UInt32} (hle : now.toNat ≤ later.toNat) (offset : Int32) :
    (ofUnix later offset).secondOfDay =
      ((ofUnix now offset).secondOfDay + (later.toNat - now.toNat)) % secsPerDay := by
  simp only [ofUnix, shifted, secsPerDay]
  omega

/-- The hour is that of the second of the day. -/
theorem hour_ofUnix (unix : UInt32) (offset : Int32) :
    (ofUnix unix offset).hour = (ofUnix unix offset).secondOfDay / secsPerHour := rfl

end LocalTime

namespace OpenHours

variable {hours : OpenHours} {offset : Int32} {now later : UInt32}

/-- Outside the window it is before the opening or from the closing on; where the window runs past midnight, both. -/
theorem containsHour_eq_false_iff {hour : Nat} :
    hours.containsHour hour = false ↔
      hours.opens < hours.closes ∧ (hour < hours.opens ∨ hours.closes ≤ hour) ∨
        hours.closes < hours.opens ∧ hour < hours.opens ∧ hours.closes ≤ hour := by
  rcases Nat.lt_trichotomy hours.opens hours.closes with hday | halways | hnight
  · have hne : hours.opens ≠ hours.closes := Nat.ne_of_lt hday
    simp only [containsHour, isAlwaysOpen, beq_iff_eq, hne, if_false, hday, if_true, Bool.and_eq_false_iff,
      decide_eq_false_iff_not, true_and]
    omega
  · simp [containsHour, isAlwaysOpen, halways]
  · simp [containsHour, isAlwaysOpen, Nat.ne_of_gt hnight, Nat.not_lt_of_gt hnight, hnight]

/-- The window is open in its opening hour. -/
theorem containsHour_opens (hours : OpenHours) : hours.containsHour hours.opens = true := by
  rw [← Bool.not_eq_false, containsHour_eq_false_iff]
  omega

/-- The window is next open at `opening`, seen from `now`. -/
structure OpensNext (hours : OpenHours) (offset : Int32) (now opening : UInt32) : Prop where
  reached : now ≤ opening
  isOpen : hours.isOpen (LocalTime.ofUnix opening offset) = true
  closedBefore : ∀ instant, now ≤ instant → instant < opening →
    hours.isOpen (LocalTime.ofUnix instant offset) = false

/-- Outside the window the wait lasts to the opening hour of this day, or of the next one. -/
theorem secondsUntilOpen_of_closed {time : LocalTime} (hclosed : hours.isOpen time = false) :
    time.secondOfDay < hours.opens * secsPerHour ∧
        hours.secondsUntilOpen time = hours.opens * secsPerHour - time.secondOfDay ∨
      hours.opens * secsPerHour ≤ time.secondOfDay ∧
        hours.secondsUntilOpen time = secsPerDay - time.secondOfDay + hours.opens * secsPerHour := by
  have hshut : ¬hours.isOpen time = true := Bool.eq_false_iff.mp hclosed
  rcases Nat.lt_or_ge time.secondOfDay (hours.opens * secsPerHour) with hbefore | hpassed
  · exact .inl ⟨hbefore, (if_neg hshut).trans (if_pos hbefore)⟩
  · exact .inr ⟨hpassed, (if_neg hshut).trans (if_neg (Nat.not_lt.mpr hpassed))⟩

/-- Outside hours that begin within the day, the next opening is at most a day away. -/
theorem secondsUntilOpen_bounds {time : LocalTime} (hclosed : hours.isOpen time = false)
    (hopens : hours.opens < 24) (htime : time.secondOfDay < secsPerDay) :
    1 ≤ hours.secondsUntilOpen time ∧ hours.secondsUntilOpen time ≤ secsPerDay := by
  have hwait := secondsUntilOpen_of_closed hclosed
  simp only [secsPerDay, secsPerHour] at *
  omega

/-- The wait ends in the opening hour. -/
theorem isOpen_after_wait (hopens : hours.opens < 24) (hclosed : hours.isOpen (LocalTime.ofUnix now offset) = false)
    (hlater : later.toNat = now.toNat + hours.secondsUntilOpen (LocalTime.ofUnix now offset)) :
    hours.isOpen (LocalTime.ofUnix later offset) = true := by
  have htime := LocalTime.secondOfDay_ofUnix_lt now offset
  have hwait := secondsUntilOpen_of_closed hclosed
  have hle : now.toNat ≤ later.toNat := by omega
  have hlatest := LocalTime.secondOfDay_ofUnix_of_le hle offset
  have hhour : (LocalTime.ofUnix later offset).hour = hours.opens := by
    rw [LocalTime.hour_ofUnix]
    simp only [secsPerDay, secsPerHour] at *
    omega
  rw [isOpen, hhour]
  exact containsHour_opens hours

/-- Until then the window stays closed. -/
theorem isOpen_within_wait (hopens : hours.opens < 24) (hclosed : hours.isOpen (LocalTime.ofUnix now offset) = false)
    (hle : now.toNat ≤ later.toNat)
    (hlater : later.toNat < now.toNat + hours.secondsUntilOpen (LocalTime.ofUnix now offset)) :
    hours.isOpen (LocalTime.ofUnix later offset) = false := by
  have htime := LocalTime.secondOfDay_ofUnix_lt now offset
  have hwait := secondsUntilOpen_of_closed hclosed
  have hlatest := LocalTime.secondOfDay_ofUnix_of_le hle offset
  rw [isOpen, LocalTime.hour_ofUnix, containsHour_eq_false_iff] at hclosed ⊢
  simp only [secsPerDay, secsPerHour] at *
  omega

/-- The wait ends at the next opening. -/
theorem opensNext_of_closed (hopens : hours.opens < 24) (hclosed : hours.isOpen (LocalTime.ofUnix now offset) = false)
    {opening : UInt32} (hopening : opening.toNat = now.toNat + hours.secondsUntilOpen (LocalTime.ofUnix now offset)) :
    hours.OpensNext offset now opening where
  reached := by
    rw [UInt32.le_iff_toNat_le]
    omega
  isOpen := isOpen_after_wait hopens hclosed hopening
  closedBefore := by
    intro instant hfrom hbefore
    rw [UInt32.le_iff_toNat_le] at hfrom
    rw [UInt32.lt_iff_toNat_lt, hopening] at hbefore
    exact isOpen_within_wait hopens hclosed hfrom hbefore

/-- The wait is shorter than a day: the opening hour itself is no time outside of the window. -/
theorem secondsUntilOpen_lt_secsPerDay (hopens : hours.opens < 24) (now : UInt32) (offset : Int32) :
    hours.secondsUntilOpen (LocalTime.ofUnix now offset) < secsPerDay := by
  cases hclosed : hours.isOpen (LocalTime.ofUnix now offset) with
  | true =>
    rw [secondsUntilOpen_of_isOpen hclosed]
    decide
  | false =>
    have hhour : (LocalTime.ofUnix now offset).hour ≠ hours.opens := by
      intro heq
      rw [isOpen, heq, containsHour_opens] at hclosed
      cases hclosed
    have htime := LocalTime.secondOfDay_ofUnix_lt now offset
    have hwait := secondsUntilOpen_of_closed hclosed
    rw [LocalTime.hour_ofUnix] at hhour
    simp only [secsPerDay, secsPerHour] at *
    omega

/-- Inside the window or outside of it, the wait ends at the next opening. -/
theorem opensNext_of_wait (hopens : hours.opens < 24) {opening : UInt32}
    (hopening : opening.toNat = now.toNat + hours.secondsUntilOpen (LocalTime.ofUnix now offset)) :
    hours.OpensNext offset now opening := by
  cases hclosed : hours.isOpen (LocalTime.ofUnix now offset) with
  | true =>
    rw [secondsUntilOpen_of_isOpen hclosed] at hopening
    obtain rfl : opening = now := UInt32.toNat_inj.mp hopening
    exact ⟨UInt32.le_refl opening, hclosed, fun _ hfrom hbefore => absurd hbefore (UInt32.not_lt.mpr hfrom)⟩
  | false => exact opensNext_of_closed hopens hclosed hopening

/-- For hours that begin within the day, and whatever the offset, the wait is shorter than a day; the window is open
when it is over, and closed at every second of it. -/
theorem secondsUntilOpen_exact (hopens : hours.opens < 24)
    (hrange : now.toNat + hours.secondsUntilOpen (LocalTime.ofUnix now offset) ≤ wordMax) :
    let wait := hours.secondsUntilOpen (LocalTime.ofUnix now offset)
    wait < secsPerDay ∧ hours.isOpen (LocalTime.ofUnix (now + UInt32.ofNat wait) offset) = true ∧
      ∀ secs < wait, hours.isOpen (LocalTime.ofUnix (now + UInt32.ofNat secs) offset) = false := by
  intro wait
  have hend : (now + UInt32.ofNat wait).toNat = now.toNat + wait := toNat_add_ofNat hrange
  have hnext := opensNext_of_wait hopens hend
  refine ⟨secondsUntilOpen_lt_secsPerDay hopens now offset, hnext.isOpen, fun secs hsecs => ?_⟩
  have hlater : (now + UInt32.ofNat secs).toNat = now.toNat + secs := toNat_add_ofNat (by omega)
  apply hnext.closedBefore
  · rw [UInt32.le_iff_toNat_le, hlater]
    exact Nat.le_add_right _ _
  · rw [UInt32.lt_iff_toNat_lt, hlater, hend]
    exact Nat.add_lt_add_left hsecs _

/-- An hour after the start of the wall clock it is eleven at night two hours to the west, on the day before. Hours
from six in the morning to ten at night begin seven hours later; a window from eight at night on is open. -/
theorem secondsUntilOpen_exact_beforeEpoch :
    let day : OpenHours := ⟨6, 22⟩
    let night : OpenHours := ⟨20, 4⟩
    let wait := day.secondsUntilOpen (LocalTime.ofUnix 3600 (-7200))
    day.opens < 24 ∧ (3600 : UInt32).toNat + wait ≤ wordMax ∧ wait = 25200 ∧
      day.isOpen (LocalTime.ofUnix (3600 + UInt32.ofNat wait) (-7200)) = true ∧
      day.isOpen (LocalTime.ofUnix (3600 + UInt32.ofNat 25199) (-7200)) = false ∧
      night.isOpen (LocalTime.ofUnix (3600 + UInt32.ofNat (night.secondsUntilOpen (LocalTime.ofUnix 3600 (-7200))))
        (-7200)) = true := by
  intro day night wait
  have hday : day.opens < 24 := by decide
  have hnight : night.opens < 24 := by decide
  have hrange : (3600 : UInt32).toNat + wait ≤ wordMax := by decide
  have hnone : (3600 : UInt32).toNat + night.secondsUntilOpen (LocalTime.ofUnix 3600 (-7200)) ≤ wordMax := by decide
  obtain ⟨_, hopen, hclosed⟩ := secondsUntilOpen_exact hday hrange
  obtain ⟨_, hopenNow, _⟩ := secondsUntilOpen_exact hnight hnone
  exact ⟨hday, hrange, by decide, hopen, hclosed 25199 (by decide), hopenNow⟩

end OpenHours

/-! ## Plans -/

/-- The plan keeps the deadlines of its inputs at this offset. Made outside open hours, it ends no later than the
next opening, and a deep sleep ends at the very instant; and a timed sleep lasts no longer than the whole seconds that
cover the rest of an open session, or one second. -/
structure SleepPlan.KeepsDeadlines (plan : SleepPlan) (inputs : SleepInputs) (offset : Int32) : Prop where
  opening : inputs.isOpen = false → ∃ opening, inputs.openHours.OpensNext offset inputs.now opening ∧
    inputs.now.toNat + plan.seconds ≤ opening.toNat ∧
    (plan.strategy = .deep → inputs.now.toNat + plan.seconds = opening.toNat)
  debounce : plan.strategy = .timed → ∀ remaining, inputs.debounceRemaining = some remaining →
    plan.seconds ≤ max 1 ((remaining + 999) / 1000)

namespace SleepPlanner

variable {inputs : SleepInputs} {offset : Int32}

/-- While closed, a timed sleep is not longer than the wait. -/
theorem timedSeconds_le_untilOpen (hclosed : inputs.isOpen = false) (hwait : 1 ≤ inputs.untilOpen) :
    timedSeconds inputs ≤ inputs.untilOpen := by
  have hawake : inputs.untilOpen ≠ 0 := Nat.ne_of_gt hwait
  unfold timedSeconds
  apply clampSleep_le _ hwait
  simp only [hclosed, hawake, decide_false, Bool.or_false, Bool.false_eq_true, if_false]
  cases inputs.debounceRemaining with
  | none => exact Nat.min_le_right _ _
  | some remaining => exact Nat.le_trans (Nat.min_le_left _ _) (Nat.min_le_right _ _)

/-- A timed sleep is not longer than the rest of an open session. -/
theorem timedSeconds_le_coverSecs {remaining : Nat} (h : inputs.debounceRemaining = some remaining) :
    timedSeconds inputs ≤ coverSecs remaining := by
  unfold timedSeconds
  rw [h]
  exact clampSleep_le (Nat.min_le_right _ _) (Nat.le_max_right _ _)

/-- A sleep planned outside open hours takes the wait where it is deep, and no longer where it is not. -/
theorem seconds_plan_of_closed (planner : SleepPlanner) (hclosed : inputs.isOpen = false)
    (hleast : 1 ≤ inputs.untilOpen) (hmost : inputs.untilOpen ≤ maxSleep) :
    (planner.plan inputs).value.1.seconds ≤ inputs.untilOpen ∧
      ((planner.plan inputs).value.1.strategy = .deep → (planner.plan inputs).value.1.seconds = inputs.untilOpen) := by
  cases hmay : planner.mayDeepSleep inputs with
  | true =>
    rw [value_plan_of_mayDeepSleep hmay]
    have hlength := clampSleep_eq hleast hmost
    exact ⟨Nat.le_of_eq hlength, fun _ => hlength⟩
  | false =>
    rw [value_plan_of_not_mayDeepSleep hmay]
    exact ⟨timedSeconds_le_untilOpen hclosed hleast, nofun⟩

/-- Whatever the planner remembers, its plan keeps the deadlines of inputs whose local time is that of their wall
clock. -/
theorem plan_keepsDeadlines (planner : SleepPlanner)
    (hlocal : inputs.localTime = LocalTime.ofUnix inputs.now offset) (hopens : inputs.openHours.opens < 24)
    (hrange : inputs.now.toNat + maxSleep ≤ wordMax) :
    (planner.plan inputs).value.1.KeepsDeadlines inputs offset where
  opening := by
    intro hclosed
    have hshut : inputs.openHours.isOpen (LocalTime.ofUnix inputs.now offset) = false := by
      simp only [SleepInputs.isOpen, hlocal, Bool.or_eq_false_iff] at hclosed
      exact hclosed.2
    obtain ⟨hleast, hday⟩ := OpenHours.secondsUntilOpen_bounds hshut hopens
      (LocalTime.secondOfDay_ofUnix_lt inputs.now offset)
    rw [← hlocal] at hleast hday
    have hmost : inputs.untilOpen ≤ maxSleep := Nat.le_trans hday (by decide)
    obtain ⟨hlength, hdeep⟩ := planner.seconds_plan_of_closed hclosed hleast hmost
    have hopening : (wordOfNat (inputs.now.toNat + inputs.untilOpen)).toNat =
        inputs.now.toNat + inputs.untilOpen := by
      rw [toNat_wordOfNat]
      omega
    refine ⟨wordOfNat (inputs.now.toNat + inputs.untilOpen), ?_, ?_, ?_⟩
    · apply OpenHours.opensNext_of_closed hopens hshut
      rw [hopening, SleepInputs.untilOpen, hlocal]
    · omega
    · intro hstrategy
      rw [hopening, hdeep hstrategy]
  debounce := by
    intro htimed remaining hremaining
    cases hmay : planner.mayDeepSleep inputs with
    | true =>
      rw [value_plan_of_mayDeepSleep hmay] at htimed
      cases htimed
    | false =>
      rw [value_plan_of_not_mayDeepSleep hmay, Nat.max_comm]
      exact timedSeconds_le_coverSecs hremaining

/-- At five past ten at night universal time, an hour later by the local clock, the window from six in the morning to
ten at night is closed: a deep sleep lasts 24900 seconds, and once deep sleep has failed an open session cuts the
sleep to three seconds. -/
theorem plan_keepsDeadlines_lateEvening :
    let inputs : SleepInputs := {
      now := 1699999500, timeValid := true, interval := 3600, openHours := ⟨6, 22⟩
      localTime := LocalTime.ofUnix 1699999500 3600, debounceRemaining := some 2500, sensorInterrupt := true }
    let failed : SleepPlanner := { deepUnreliable := true }
    inputs.localTime = LocalTime.ofUnix inputs.now 3600 ∧ inputs.openHours.opens < 24 ∧
      inputs.now.toNat + maxSleep ≤ wordMax ∧ inputs.isOpen = false ∧
      (({} : SleepPlanner).plan inputs).value.1 = ⟨.deep, 24900, ⟨true, true, false⟩⟩ ∧
      (({} : SleepPlanner).plan inputs).value.1.KeepsDeadlines inputs 3600 ∧
      (failed.plan inputs).value.1 = ⟨.timed, 3, ⟨true, true, false⟩⟩ ∧
      (failed.plan inputs).value.1.KeepsDeadlines inputs 3600 :=
  ⟨rfl, by decide, by decide, by decide, by decide, plan_keepsDeadlines {} rfl (by decide) (by decide), by decide,
    plan_keepsDeadlines _ rfl (by decide) (by decide)⟩

end SleepPlanner

end FieldCounter
