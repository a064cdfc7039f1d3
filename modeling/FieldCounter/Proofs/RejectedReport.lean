import FieldCounter.Proofs.Conservation

/-!
# What becomes of a rejected report

A new period starts after every report, whether or not the queue took it. What a report held that the queue did
not take is in no later report: over a whole run, this is exactly what is missing in the reports and in the
running period.
-/

namespace FieldCounter

open Program (Path)

/-- Of a period that is over, nothing is kept but what there was not. -/
theorem Controller.Closes.kept_iff {c after : Controller} {entry : Ledger} {calls : List Exchange}
    {report : DataSnapshot} {taken : Bool} (h : c.Closes entry calls report taken after) :
    after.status.value.period = report.period ↔ c.status.value.period = 0 ∧ entry = 0 := by
  rw [h.cleared, h.period, eq_comm, Ledger.capped_eq_zero_iff, Ledger.add_eq_zero_iff]

/-- A tick that reports closes the period with what it records. -/
theorem Event.Leads.closes {before after : Controller} {calls : List Exchange} {control : Control}
    {state next : Option Controller} {entry : Ledger} (h : (Event.tick before calls control after).Leads state next)
    (hbooks : (Event.tick before calls control after).Books entry) (hstate : before.runState = .reporting) :
    ∃ report taken, before.Closes entry calls report taken after := by
  cases h with
  | tick hpath =>
    cases hbooks with
    | @tick _ _ moment marked polled polling rest _ hpoll =>
      obtain ⟨report, taken, hcloses⟩ := Controller.closes_of_tick hpath hpoll hstate
      refine ⟨report, taken, ?_, hcloses.period, hcloses.cleared, hcloses.day⟩
      exact (reports_of_poll hpoll moment marked rest).trans hcloses.reports

/-- In every run each reporting tick hands over one report, with all that the period holds, and starts a new
period; what was handed over is kept exactly if it was nothing. Over a store that keeps what is written and held
no status at first, and with counters that stay below their largest value, whatever was recorded is in a report
that the queue took or in one that it rejected, or the running period holds it. -/
theorem rejected_eq_missing {history : List Event} {last : Option Controller} (hrun : Run none history last) :
    (∀ before calls control after entry, Event.tick before calls control after ∈ history →
      before.runState = .reporting → (Event.tick before calls control after).Books entry →
      ∃ report taken, reports calls = [(report, taken)] ∧
        report.period = (before.status.value.period + entry).capped ∧ after.status.value.period = 0 ∧
        (after.status.value.period = report.period ↔ before.status.value.period = 0 ∧ entry = 0)) ∧
      ∀ (initial store : Store) (total : Ledger), initial.Serves (callsOf history) store → initial.bytes .status = none →
        (∀ event ∈ history, event.HasRoom) → Booked history total →
        total = reported true (callsOf history) + reported false (callsOf history) +
          (store.found : RuntimeStatus).period := by
  refine ⟨fun before calls control after entry hmem hstate hbooks => ?_,
    fun initial store total hserves hempty hroom hbooked => ?_⟩
  · obtain ⟨_, _, hleads⟩ := hrun.leads_of_mem hmem
    obtain ⟨report, taken, hcloses⟩ := hleads.closes hbooks hstate
    exact ⟨report, taken, hcloses.reports, hcloses.period, hcloses.cleared, hcloses.kept_iff⟩
  · exact hrun.booked_eq hserves hempty hroom hbooked

/-- The same devices, but the queue takes no report. -/
def Devices.rejecting (devices : Devices) : Devices
  | .enqueue _ => false
  | call => devices call

/-- A device counts once. Its first report is rejected; it connects, and reports again after an hour. -/
def rejectedOnce : List Scene :=
  [.boot (.afterNoon 0 false), .tick (Devices.afterNoon 1 false).detecting, .tick (.afterNoon 2 false),
    .tick (Devices.afterNoon 3 false).rejecting, .tick (.afterNoon 4 true), .tick (.afterNoon 3700 true),
    .tick (.afterNoon 3701 true)]

/-- The rejected report held the count, of which nothing is left when the tick ends. -/
theorem tick_rejectedOnce :
    ∃ before calls control after report, Event.tick before calls control after ∈ (play rejectedOnce .blank).1 ∧
      before.runState = .reporting ∧ reports calls = [(report, false)] ∧ report.period = ⟨1, 0⟩ ∧
      after.status.value.period = 0 := by
  have hany : (play rejectedOnce .blank).1.any (Event.isTick fun before calls after =>
      decide (before.runState = .reporting ∧
        (reports calls).map (fun report => (report.1.period, report.2)) = [(⟨1, 0⟩, false)] ∧
        after.status.value.period = 0)) = true := by decide +kernel
  obtain ⟨before, calls, control, after, hmem, htest⟩ := exists_tick_of_any hany
  obtain ⟨hstate, hreports, hcleared⟩ := of_decide_eq_true htest
  obtain ⟨⟨report, taken⟩, hreport, heq⟩ := List.map_eq_singleton_iff.mp hreports
  obtain ⟨hperiod, rfl⟩ := Prod.mk.inj heq
  exact ⟨before, calls, control, after, report, hmem, hstate, hreport, hperiod, hcleared⟩

/-- All that was recorded is missing: it is in no report that the queue took, and not in the running period. -/
theorem rejected_eq_missing_rejectedOnce :
    ∃ before calls control after report, Event.tick before calls control after ∈ (play rejectedOnce .blank).1 ∧
      reports calls = [(report, false)] ∧ after.status.value.period ≠ report.period ∧
      Booked (play rejectedOnce .blank).1 ⟨1, 0⟩ ∧ reported true (callsOf (play rejectedOnce .blank).1) = 0 ∧
      ((play rejectedOnce .blank).2.store.found : RuntimeStatus).period = 0 := by
  obtain ⟨hrun, hserves⟩ := run_play rejectedOnce .blank
  obtain ⟨hreporting, hmissing⟩ := rejected_eq_missing hrun
  obtain ⟨before, calls, control, after, report, hmem, hstate, hreport, hperiod, _⟩ := tick_rejectedOnce
  obtain ⟨_, _, hleads⟩ := hrun.leads_of_mem hmem
  obtain ⟨entry, hentry⟩ := hleads.books
  obtain ⟨closing, taken, hcloses, _, hcleared, _⟩ := hreporting before calls control after entry hmem hstate hentry
  have hlost : after.status.value.period ≠ report.period := by
    rw [hcleared, hperiod]
    decide
  have hroom : ∀ event ∈ (play rejectedOnce .blank).1, event.HasRoom := by decide +kernel
  have htaken : reported true (callsOf (play rejectedOnce .blank).1) = 0 := by decide +kernel
  have hrejected : reported false (callsOf (play rejectedOnce .blank).1) = ⟨1, 0⟩ := by decide +kernel
  have hfound : ((play rejectedOnce .blank).2.store.found : RuntimeStatus).period = 0 := by decide +kernel
  obtain ⟨total, hbooked⟩ := hrun.booked
  have htotal := hmissing Stage.blank.store _ total hserves rfl hroom hbooked
  rw [htaken, hrejected, hfound, zero_add, add_zero] at htotal
  subst htotal
  exact ⟨before, calls, control, after, report, hmem, hreport, hlost, hbooked, htaken, hfound⟩

/-- So it is not true of every run that the period goes on holding what a rejected report held. -/
theorem period_outlives_rejection :
    ¬∀ history last before calls control after report, Run none history last →
      Event.tick before calls control after ∈ history → before.runState = .reporting →
      reports calls = [(report, false)] →
      after.status.value.hourlyCount = report.hourlyCount ∧
        after.status.value.hourlyOccupancy = report.hourlyOccupancy := by
  intro hkept
  obtain ⟨hrun, _⟩ := run_play rejectedOnce .blank
  obtain ⟨before, calls, control, after, report, hmem, hstate, hreport, hperiod, hcleared⟩ := tick_rejectedOnce
  obtain ⟨hcount, _⟩ := hkept _ _ before calls control after report hrun hmem hstate hreport
  have hnone : after.status.value.hourlyCount.toNat = 0 := congrArg Ledger.counts hcleared
  have hone : report.hourlyCount.toNat = 1 := congrArg Ledger.counts hperiod
  rw [hcount, hone] at hnone
  cases hnone

end FieldCounter
