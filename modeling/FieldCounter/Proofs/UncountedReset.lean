import FieldCounter.Proofs.BoundedRecovery
import FieldCounter.Proofs.StoredBeforeStop

/-!
# Resets that storage does not count

A reset is counted and the count is written before it is made; where the write fails, it is made all the same,
and the next boot finds the count as it was. So where only writes fail, the resets between two events that clear
the count are four at most, and one more for each whose count could not be written. Where none can be written,
there is no bound.
-/

namespace FieldCounter

open Program (Path Reaches)

/-! ## The count that could not be written -/

/-- The settings could not be written, and with them the count of resets. -/
def CountUnwritten (calls : List Exchange) : Prop := ∃ exchange ∈ calls, exchange.failedWrite = some .config

instance : DecidablePred CountUnwritten := fun calls =>
  inferInstanceAs (Decidable (∃ exchange ∈ calls, exchange.failedWrite = some .config))

section
variable {first rest : List Exchange}

/-- The count could not be written in one of the parts. -/
theorem countUnwritten_append : CountUnwritten (first ++ rest) ↔ CountUnwritten first ∨ CountUnwritten rest := by
  simp [CountUnwritten, or_and_right, exists_or]

/-- It could not be written where the write of the settings failed. -/
theorem countUnwritten_singleton {exchange : Exchange} :
    CountUnwritten [exchange] ↔ exchange.failedWrite = some .config := by
  simp [CountUnwritten]

/-- Calls that touch no record fail to write none. -/
theorem not_countUnwritten_of_untouched (h : ∀ exchange ∈ first, exchange.call.touchesRecord = false) :
    ¬CountUnwritten first := by
  rintro ⟨⟨call, answer⟩, hmem, hfailed⟩
  have huntouched := h _ hmem
  cases call with
  | writeRecord key bytes => cases huntouched
  | _ => cases hfailed

end

/-- The resets counted in memory. -/
abbrev Controller.resetCount (c : Controller) : Nat := c.config.value.resetCount.toNat

namespace Store

variable {store later : Store}

/-- A store with the same settings counts the same resets. -/
theorem resetCount_of_bytes_eq (h : later.bytes .config = store.bytes .config) :
    later.resetCount = store.resetCount := by
  unfold resetCount
  rw [h]

/-- A store that holds the settings counts their resets. -/
theorem Holds.resetCount_eq {config : DeviceConfig} (h : store.Holds config) :
    store.resetCount = config.resetCount.toNat := by
  rw [store.resetCount_eq, h.found_eq]

end Store

/-- A flush of the settings leaves their count in storage, and where it fails the one that was there. -/
theorem Persisted.resetCount_of_flush {config flushed : Persisted DeviceConfig} {store : Store}
    {trace : List Exchange} {written : Except StorageError Bool}
    (hpath : Path config.flush trace (written, flushed)) (husable : Record.Usable config.value)
    (hbacked : config.Backed store) :
    (store.after trace).resetCount =
      if CountUnwritten trace then store.resetCount else config.value.resetCount.toNat := by
  rcases flush_cases hpath with ⟨hsaved, rfl, rfl⟩ | ⟨rfl, rfl⟩ | ⟨_, error, rfl, rfl⟩
  · rw [if_neg (by decide)]
    exact (hbacked _ hsaved).resetCount_eq
  · have hwritten : ¬CountUnwritten [⟨.writeRecord (Record.key DeviceConfig) (Record.encode config.value), .ok ()⟩] :=
      mt countUnwritten_singleton.mp (by simp [Exchange.failedWrite])
    rw [if_neg hwritten]
    exact (Store.holds_put husable).resetCount_eq
  · rw [if_pos (countUnwritten_singleton.mpr rfl)]
    rfl

/-- A flush of the status has nothing to do with it. -/
theorem Persisted.resetCount_of_statusFlush {status flushed : Persisted RuntimeStatus} {store : Store}
    {trace : List Exchange} {written : Except StorageError Bool}
    (hpath : Path status.flush trace (written, flushed)) :
    (store.after trace).resetCount = store.resetCount ∧ ¬CountUnwritten trace := by
  rcases flush_cases hpath with ⟨_, rfl, _⟩ | ⟨rfl, _⟩ | ⟨_, error, rfl, _⟩
  · exact ⟨rfl, by decide⟩
  · exact ⟨Store.resetCount_of_bytes_eq (store.bytes_put_of_ne _ (by decide)), mt countUnwritten_singleton.mp nofun⟩
  · exact ⟨rfl, mt countUnwritten_singleton.mp nofun⟩

namespace Controller

variable {c after : Controller} {store : Store} {trace : List Exchange}

/-- When the records are written, storage counts as many resets as memory, or as many as before. -/
theorem Backed.resetCount_of_flush (h : c.Backed store) (hpath : Path (Controller.flush.run c) trace ((), after)) :
    (store.after trace).resetCount = if CountUnwritten trace then store.resetCount else c.resetCount := by
  obtain ⟨first, _, config, second, _, status, hconfig, hstatus, rfl, _⟩ :=
    Controller.flush_cases hpath
  obtain ⟨hsame, hwritten⟩ : ((store.after first).after second).resetCount = (store.after first).resetCount ∧
      ¬CountUnwritten second := Persisted.resetCount_of_statusFlush hstatus
  have hcount := Persisted.resetCount_of_flush hconfig (DeviceConfig.usable_iff.mpr h.sane.config) h.config
  simp only [countUnwritten_append, hwritten, or_false]
  rw [Store.after_append, hsame, hcount]

end Controller

/-! ## At the reset -/

namespace Controller

variable {c halted after : Controller} {store : Store} {first trace : List Exchange} {call : Call}

/-- At a reset, storage counts it if the count was written. -/
theorem ComesTo.resetCount_stored (h : c.ComesTo first call halted) (hreset : call.isReset = true)
    (hbacked : c.Backed store) :
    (store.after first).resetCount = if CountUnwritten first then store.resetCount else halted.resetCount := by
  cases h with
  | sleep _ hsleep =>
    rw [hsleep.unreset] at hreset
    cases hreset
  | @reset opening closing opened _ _ heffects _ huntouched hcounted =>
    have hopened := heffects.backed (fun _ => RunState.touchesRecord_of_ticks) hbacked
    rw [Store.after_of_untouched huntouched] at hopened
    have hready : (opened.setConfig opened.config.value.incrementResetCount).Backed store :=
      ⟨(Effect.Does.countReset opened).sane hopened.sane, hopened.config, hopened.status⟩
    have hcount := hready.resetCount_of_flush hcounted.2
    have hvalue : halted.resetCount = (opened.setConfig opened.config.value.incrementResetCount).resetCount :=
      congrArg (·.resetCount.toNat) (values_of_flush hcounted.2).1
    simp only [countUnwritten_append, not_countUnwritten_of_untouched huntouched, false_or]
    rw [Store.after_append, Store.after_of_untouched huntouched, hcount, hvalue]

/-- A tick with a reset is one that recovers. -/
theorem recovered_of_reset {control : Control} (hpath : Path (tick.run c) trace (control, after))
    (hprudent : c.Prudent) {exchange : Exchange} (hmem : exchange ∈ trace) (hreset : exchange.call.isReset = true) :
    Recovered c trace after := by
  rcases tick_settles hpath hprudent with hsettled | ⟨_, hrecovered⟩
  · rw [hsettled.resets exchange hmem] at hreset
    cases hreset
  · exact hrecovered

end Controller

/-- In every run a decision about a reset stands only for one that may be made. -/
theorem Run.prudent {history : List Event} {last : Option Controller} (h : Run none history last) :
    ∀ c ∈ last, c.Prudent := by
  refine h.invariant_of_controller (I := fun _ c => c.Prudent) ?_ ?_ ?_
  · intro _ _ c hpath
    exact Controller.prudent_of_boot hpath
  · intro _ before _ after hpath hprudent
    rcases Controller.tick_settles hpath hprudent with hsettled | ⟨hrestart, _⟩
    · exact hsettled.prudent hprudent
    · cases hrestart
  · exact fun _ _ hprudent => hprudent

/-! ## What every tick leaves counted -/

section
variable {effect : Effect} {allowed : Effect → Bool} {before after : Controller} {trace : List Exchange} {store : Store}

/-- Only the actions after a connection lower the count in memory, and only counting a reset raises it. -/
theorem Effect.Does.resetCount_cases (h : effect.Does before trace after) :
    after.resetCount = before.resetCount ∨ effect = .actOnline ∧ after.resetCount = 0 ∨
      effect = .countReset ∧ before.resetCount ≤ after.resetCount := by
  by_cases hquiet : effect.isQuiet = true
  · exact .inl (congrArg UInt8.toNat (h.quiet hquiet).count)
  cases h with
  | ask | decide => exact .inl rfl
  | actOnline hpath =>
    rcases (Controller.settled_actOnline hpath).count_eq_or_zero with hsame | hzero
    · exact .inl (congrArg UInt8.toNat hsame)
    · exact .inr (.inl ⟨rfl, congrArg UInt8.toNat hzero⟩)
  | countReset =>
    refine .inr (.inr ⟨rfl, ?_⟩)
    show before.config.value.resetCount.toNat ≤ (bumpByte before.config.value.resetCount).toNat
    rw [toNat_bumpByte]
    have hbyte := before.config.value.resetCount.toNat_lt
    omega
  | _ => exact absurd rfl hquiet

/-- An effect leaves the count in storage as it was, or writes the one in memory. -/
theorem Effect.Does.resetCount_stored (h : effect.Does before trace after)
    (hask : ∀ call, effect = .ask call → call.touchesRecord = false) (hbacked : before.Backed store) :
    (store.after trace).resetCount = store.resetCount ∨
      (store.after trace).resetCount = before.resetCount ∧ after.resetCount = before.resetCount := by
  by_cases hconfig : effect = .writeConfig
  · subst hconfig
    cases h with
    | writeConfig hpath =>
      have hcount := Persisted.resetCount_of_flush hpath (DeviceConfig.usable_iff.mpr hbacked.sane.config)
        hbacked.config
      split at hcount
      · exact .inl hcount
      · exact .inr ⟨hcount, congrArg (·.resetCount.toNat) (Persisted.value_of_flush hpath)⟩
  by_cases hstatus : effect = .writeStatus
  · subst hstatus
    cases h with
    | writeStatus hpath => exact .inl (Persisted.resetCount_of_statusFlush hpath).1
  · rw [Store.after_of_untouched fun exchange hmem =>
      Effect.touchesRecord_of_mayCall (h.mayCall exchange hmem) hconfig hstatus hask]
    exact .inl rfl

/-- Without a connection, storage goes on counting what memory and storage both counted. -/
theorem Effects.le_resetCount {count : Nat} (h : Effects allowed before trace after)
    (hask : ∀ call, allowed (.ask call) = true → call.touchesRecord = false) (hoffline : allowed .actOnline = false)
    (hbacked : before.Backed store) (hmemory : count ≤ before.resetCount) (hstored : count ≤ store.resetCount) :
    count ≤ (store.after trace).resetCount := by
  induction h generalizing store with
  | none c => exact hstored
  | @cons effect before between after trace rest hallowed hdoes _ ih =>
    have hasked : ∀ call, effect = .ask call → call.touchesRecord = false := fun call heq =>
      hask call (heq ▸ hallowed)
    rw [Store.after_append]
    refine ih (hdoes.backed hasked hbacked) ?_ ?_
    · rcases hdoes.resetCount_cases with hsame | ⟨rfl, _⟩ | ⟨_, hle⟩
      · rwa [hsame]
      · rw [hoffline] at hallowed
        cases hallowed
      · exact Nat.le_trans hmemory hle
    · rcases hdoes.resetCount_stored hasked hbacked with hsame | ⟨hwritten, _⟩
      · rwa [hsame]
      · rwa [hwritten]

/-- Without a reset, storage goes on counting all that memory counts. -/
theorem Effects.resetCount_le (h : Effects allowed before trace after)
    (hask : ∀ call, allowed (.ask call) = true → call.touchesRecord = false) (hunreset : allowed .countReset = false)
    (hbacked : before.Backed store) (hle : before.resetCount ≤ store.resetCount) :
    after.resetCount ≤ (store.after trace).resetCount := by
  induction h generalizing store with
  | none c => exact hle
  | @cons effect before between after trace rest hallowed hdoes _ ih =>
    have hasked : ∀ call, effect = .ask call → call.touchesRecord = false := fun call heq =>
      hask call (heq ▸ hallowed)
    rw [Store.after_append]
    refine ih (hdoes.backed hasked hbacked) ?_
    rcases hdoes.resetCount_stored hasked hbacked with hstored | ⟨hstored, hmemory⟩
    · rw [hstored]
      rcases hdoes.resetCount_cases with hsame | ⟨_, hzero⟩ | ⟨rfl, _⟩
      · rwa [hsame]
      · rw [hzero]
        exact Nat.zero_le _
      · rw [hunreset] at hallowed
        cases hallowed
    · exact Nat.le_of_eq (hmemory.trans hstored.symm)

end

namespace Controller

variable {c after : Controller} {store : Store} {trace : List Exchange} {control : Control}

/-- A tick ends with the count in storage, if it could be written; if not, storage counts no less than memory did
before the tick or does after it. -/
theorem Backed.resetCount_of_tick (h : c.Backed store) (hpath : Path (Controller.tick.run c) trace (control, after))
    (hle : c.resetCount ≤ store.resetCount) :
    min c.resetCount after.resetCount ≤ (store.after trace).resetCount ∧
      (¬CountUnwritten trace → (store.after trace).resetCount = after.resetCount) := by
  obtain ⟨first, closing, ready, heffects, hflush, rfl⟩ := effects_tick hpath
  have hready := heffects.backed (fun _ => RunState.touchesRecord_of_ticks) h
  have hcount := hready.resetCount_of_flush hflush
  have hvalue : after.resetCount = ready.resetCount := congrArg (·.resetCount.toNat) (values_of_flush hflush).1
  rw [Store.after_append, hcount, hvalue]
  refine ⟨?_, fun hwritten => if_neg fun hclosing => hwritten (countUnwritten_append.mpr (.inr hclosing))⟩
  have hstored : min c.resetCount ready.resetCount ≤ (store.after first).resetCount := by
    -- Only the error state counts a reset, and only the other states ever clear the count.
    by_cases herror : c.runState = .error
    · rw [herror] at heffects
      have hcounted := heffects.le_resetCount (fun _ => RunState.touchesRecord_of_ticks) rfl h (Nat.le_refl _) hle
      exact Nat.le_trans (Nat.min_le_left ..) hcounted
    · have hunreset : c.runState.ticks .countReset = false := by
        cases hstate : c.runState with
        | error => exact absurd hstate herror
        | _ => rfl
      have hcounted := heffects.resetCount_le (fun _ => RunState.touchesRecord_of_ticks) hunreset h hle
      exact Nat.le_trans (Nat.min_le_right ..) hcounted
  split
  · exact hstored
  · exact Nat.min_le_right ..

end Controller

/-- A boot that is told what the store holds comes to the count in storage, and leaves it there. -/
theorem resetCount_of_readable_boot {c : Controller} {store : Store} {trace : List Exchange}
    (hpath : Path Controller.boot trace c) (hhonest : store.Honest trace) (hreadable : store.Readable trace) :
    c.resetCount = store.resetCount ∧ (store.after trace).resetCount = store.resetCount := by
  obtain ⟨config, _, status, _, first, second, hconfig, hstatus, rfl, rfl⟩ := boot_cases hpath
  obtain ⟨hfirst, hsecond⟩ := Store.honest_append.mp hhonest
  obtain ⟨hread, _⟩ := Store.readable_append.mp hreadable
  have hmemory : config.value.resetCount.toNat = store.resetCount := by
    rw [store.resetCount_eq, Persisted.found_of_readable hconfig hfirst hread]
  obtain ⟨_, hothers⟩ := Persisted.backed_of_load hstatus hsecond
  rw [Store.after_append, Store.resetCount_of_bytes_eq (hothers .config (by decide))]
  refine ⟨hmemory, ?_⟩
  obtain ⟨answer, rest, rfl, ⟨_, _, rfl, _⟩ | ⟨_, written, hinstalled⟩⟩ := Persisted.load_cases hconfig
  · rfl
  · have hunread : store.after (⟨.readRecord (Record.key DeviceConfig), answer⟩ :: rest) = store.after rest := rfl
    have hnothing : Persisted.Backed ({ value := Record.factory } : Persisted DeviceConfig) store := nofun
    have hcount := Persisted.resetCount_of_flush hinstalled Record.Lawful.usable_factory hnothing
    rw [hunread, hcount, ← Persisted.value_of_flush hinstalled, hmemory, ite_self]

/-! ## Runs -/

/-- Between two events: what is known to be stored is, a decision stands only for a reset that may be made, and
storage counts all the resets that memory counts. -/
structure Controller.Tallied (c : Controller) (store : Store) : Prop where
  backed : c.Backed store
  prudent : c.Prudent
  counted : c.resetCount ≤ store.resetCount

/-- The resets that are counted: in memory, or in storage where there is no controller. -/
def resetsCounted (state : Option Controller) (store : Store) : Nat :=
  match state with
  | some c => c.resetCount
  | none => store.resetCount

/-- The event makes a reset whose count could not be written. -/
def Event.Loses (event : Event) : Prop := resetsIn event.calls ≠ 0 ∧ CountUnwritten event.calls

instance : DecidablePred Event.Loses := fun _ => instDecidableAnd

/-- How many events do. -/
def lossesIn (history : List Event) : Nat := history.countP fun event => decide event.Loses

/-- What an event that does not clear the count makes of it. -/
inductive Event.Tallies (event : Event) (before after : Nat) : Prop where
  | kept : resetsIn event.calls = 0 → before ≤ after → event.Tallies before after
  | counted : resetsIn event.calls = 1 → before < 4 → before < after → event.Tallies before after
  | lost : resetsIn event.calls = 1 → before < 4 → event.Loses → before ≤ after → event.Tallies before after

section
variable {before after : Controller} {store : Store} {trace : List Exchange} {control : Control}

/-- A count that is settled does not grow. -/
theorem Settled.resetCount_le (h : Settled before trace after) : after.resetCount ≤ before.resetCount := by
  rcases h.count_eq_or_zero with hsame | hzero
  · exact Nat.le_of_eq (congrArg UInt8.toNat hsame)
  · rw [Controller.resetCount, hzero]
    exact Nat.zero_le _

/-- A tick that settles the count and does not clear it leaves it alone. -/
theorem Settled.resetCount_eq (h : Settled before trace after)
    (hclears : (Event.tick before trace control after).clears = false) : after.resetCount = before.resetCount := by
  have hresets : resetsIn (Event.tick before trace control after).calls = 0 := resetsIn_eq_zero h.resets
  cases h.spends control with
  | cleared hclear =>
    rw [hclears] at hclear
    cases hclear
  | kept _ _ hcount => exact hcount
  | spent _ honce =>
    rw [hresets] at honce
    cases honce

/-- The reset of a tick that recovers is counted in storage, or its count was lost. -/
theorem Recovered.tallies {stored : Nat} (h : Recovered before trace after) (hstored : before.resetCount ≤ stored)
    (hwritten : ¬CountUnwritten trace → stored = after.resetCount) :
    (Event.tick before trace control after).Tallies before.resetCount stored := by
  by_cases hunwritten : CountUnwritten trace
  · have hreset : resetsIn trace ≠ 0 := by
      rw [h.once]
      exact Nat.one_ne_zero
    exact .lost h.once h.allowed ⟨hreset, hunwritten⟩ hstored
  · have hcount : after.resetCount = before.resetCount + 1 := h.count
    refine .counted h.once h.allowed ?_
    rw [hwritten hunwritten, hcount]
    exact Nat.lt_succ_self _

/-- A tick leaves the device ready for the next one, and what it resets is counted or the count was lost. -/
theorem Controller.Tallied.tick (h : before.Tallied store)
    (hpath : Path (Controller.tick.run before) trace (control, after)) :
    (∀ c ∈ control.leaves after, c.Tallied (store.after trace)) ∧
      ((Event.tick before trace control after).clears = false →
        (Event.tick before trace control after).Tallies before.resetCount
          (resetsCounted (control.leaves after) (store.after trace))) := by
  have hbacked := h.backed.tick hpath
  obtain ⟨hstored, hwritten⟩ := h.backed.resetCount_of_tick hpath h.counted
  rcases Controller.tick_settles hpath h.prudent with hsettled | ⟨rfl, hrecovered⟩
  · rw [Nat.min_eq_right hsettled.resetCount_le] at hstored
    refine ⟨fun c hc => ?_, fun hclears => .kept (resetsIn_eq_zero hsettled.resets) ?_⟩
    · cases control with
      | proceed =>
        obtain rfl := Option.some.inj hc
        exact ⟨hbacked, hsettled.prudent h.prudent, hstored⟩
      | restart => cases hc
    · rw [← hsettled.resetCount_eq hclears]
      cases control with
      | proceed => exact Nat.le_refl _
      | restart => exact hstored
  · have hcount : after.resetCount = before.resetCount + 1 := hrecovered.count
    have hle : before.resetCount ≤ after.resetCount := by omega
    rw [Nat.min_eq_left hle] at hstored
    exact ⟨fun c hc => (by cases hc), fun _ => hrecovered.tallies hstored hwritten⟩

end

/-- Every event leaves the device ready for the next one, and what it resets is counted or the count was lost. -/
theorem Event.Leads.tallies {event : Event} {state next : Option Controller} {store : Store}
    (h : event.Leads state next) (hstate : ∀ c ∈ state, c.Tallied store) (hhonest : store.Honest event.calls)
    (hreadable : store.Readable event.calls) :
    (∀ c ∈ next, c.Tallied (store.after event.calls)) ∧ (event.clears = false →
      event.Tallies (resetsCounted state store) (resetsCounted next (store.after event.calls))) := by
  cases h with
  | @boot _ trace c hpath =>
    obtain ⟨hmemory, hstored⟩ := resetCount_of_readable_boot hpath hhonest hreadable
    refine ⟨fun booted hc => ?_, fun _ => .kept (resetsIn_boot hpath) ?_⟩
    · obtain rfl := Option.some.inj hc
      exact ⟨backed_of_boot hpath hhonest, Controller.prudent_of_boot hpath, Nat.le_of_eq (hmemory.trans hstored.symm)⟩
    · show resetsCounted state store ≤ c.resetCount
      rw [hmemory]
      cases state with
      | none => exact Nat.le_refl _
      | some before => exact (hstate before rfl).counted
  | tick hpath => exact (hstate _ rfl).tick hpath
  | raise before alert now =>
    have hbefore := hstate before rfl
    refine ⟨fun c hc => ?_, fun _ => .kept rfl (Nat.le_refl _)⟩
    obtain rfl := Option.some.inj hc
    have hbacked := Event.Leads.backed (.raise before alert now) (fun c hc => (hstate c hc).backed) hhonest
    exact ⟨hbacked _ rfl, hbefore.prudent, hbefore.counted⟩

/-- Over a run, storage goes on counting all the resets that memory counts. -/
theorem Run.tallied {state last : Option Controller} {history : List Event} {store : Store}
    (h : Run state history last) (hstate : ∀ c ∈ state, c.Tallied store)
    (hhonest : store.Honest (callsOf history)) (hreadable : store.Readable (callsOf history)) :
    ∀ c ∈ last, c.Tallied (store.after (callsOf history)) := by
  induction h generalizing store with
  | nil state => exact hstate
  | @cons _ _ _ event rest hleads _ ih =>
    obtain ⟨hfirst, hrest⟩ := Store.honest_append.mp hhonest
    obtain ⟨hread, hlater⟩ := Store.readable_append.mp hreadable
    have hafter : store.after (callsOf (event :: rest)) = (store.after event.calls).after (callsOf rest) :=
      Store.after_append
    rw [hafter]
    exact ih (hleads.tallies hstate hfirst hread).1 hrest hlater

/-- In a run that never clears the count, the resets are no more than four, less those that are counted at first,
and one more for each whose count was lost. -/
theorem Run.resets_add_le_add_losses {state last : Option Controller} {history : List Event} {store : Store}
    (h : Run state history last) (hstate : ∀ c ∈ state, c.Tallied store)
    (hhonest : store.Honest (callsOf history)) (hreadable : store.Readable (callsOf history))
    (hclears : ∀ event ∈ history, event.clears = false) :
    resetsIn (callsOf history) + min 4 (resetsCounted state store) ≤ 4 + lossesIn history := by
  induction h generalizing store with
  | nil state =>
    have hnone : resetsIn (callsOf []) = 0 := rfl
    omega
  | @cons state between _ event rest hleads _ ih =>
    obtain ⟨hfirst, hrest⟩ := Store.honest_append.mp hhonest
    obtain ⟨hread, hlater⟩ := Store.readable_append.mp hreadable
    obtain ⟨hready, htallies⟩ := hleads.tallies hstate hfirst hread
    have hrun := ih hready hrest hlater fun other hmem => hclears other (List.mem_cons_of_mem _ hmem)
    -- The count is what is spent: an event makes a reset only below four, and then raises it or loses it.
    have hresets : resetsIn (callsOf (event :: rest)) = resetsIn event.calls + resetsIn (callsOf rest) :=
      resetsIn_append _ _
    have hlosses : lossesIn (event :: rest) = lossesIn rest + if event.Loses then 1 else 0 := by
      simp [lossesIn, List.countP_cons]
    cases htallies (hclears event List.mem_cons_self) with
    | kept hnone hle => omega
    | counted honce hfew hlt => omega
    | lost honce hfew hloses hle =>
      rw [if_pos hloses] at hlosses
      omega

/-! ## A device that cannot write -/

/-- The same devices, but nothing can be written. -/
def Devices.unwritable (devices : Devices) : Devices
  | .writeRecord key _ => .error (.backend key "write failed")
  | call => devices call

/-- Nothing is read and nothing is written. -/
def Exchange.refused : Exchange → Bool
  | ⟨.readRecord _, .ok _⟩ | ⟨.writeRecord _ _, .ok _⟩ => false
  | _ => true

/-- An empty store is honest about it, and stays empty. -/
theorem Store.honest_of_refused {store : Store} (hempty : ∀ key, store.bytes key = none) {calls : List Exchange}
    (h : ∀ exchange ∈ calls, exchange.refused = true) :
    store.Honest calls ∧ store.Readable calls ∧ store.after calls = store := by
  induction calls with
  | nil => exact ⟨trivial, trivial, rfl⟩
  | cons exchange calls ih =>
    obtain ⟨hfirst, hrest⟩ := List.forall_mem_cons.mp h
    have hkept : store.next exchange = store ∧ exchange.read = none := by
      obtain ⟨call, answer⟩ := exchange
      cases call with
      | readRecord | writeRecord => cases answer <;> first | exact ⟨rfl, rfl⟩ | cases hfirst
      | _ => exact ⟨rfl, rfl⟩
    obtain ⟨hnext, hread⟩ := hkept
    obtain ⟨hhonest, hreadable, hafter⟩ := ih hrest
    have hlast : store.after (exchange :: calls) = (store.next exchange).after calls := rfl
    rw [hlast, hnext]
    refine ⟨⟨fun read hmem => ?_, ?_⟩, ⟨fun key _ => hempty key, ?_⟩, hafter⟩
    · rw [hread] at hmem
      cases hmem
    · rwa [hnext]
    · rwa [hnext]

/-- A device boots at night with its radio up, which does not go down again. It cannot sleep, and when the teardown
in the error state has timed out as well, it is to be reset. -/
def stuckUp : List Scene :=
  let devices (secs : Nat) := (Devices.afterNoon secs true).unwritable
  .boot (devices 36100) ::
    [36101, 36102, 36103, 36119, 36150, 36151, 36152, 36168, 36199].map fun secs => .tick (devices secs)

/-- Its life from the boot to the tick in which it is reset. -/
def stuckLife : List Event := (live (stuckUp ++ [.tick (Devices.afterNoon 36210 true).unwritable]) none).1

/-- Any number of such lives. -/
def stuckLives : Nat → List Event
  | 0 => []
  | lives + 1 => stuckLife ++ stuckLives lives

/-- Nothing clears the count, storage refuses all that it is asked, and the life ends with a reset. -/
theorem run_stuckLife :
    Run none stuckLife none ∧ (∀ event ∈ stuckLife, event.clears = false) ∧
      (∀ exchange ∈ callsOf stuckLife, exchange.refused = true) ∧ resetsIn (callsOf stuckLife) = 1 := by
  have hends : (live (stuckUp ++ [.tick (Devices.afterNoon 36210 true).unwritable]) none).2.isNone = true := by
    decide +kernel
  have hrun := run_live (stuckUp ++ [.tick (Devices.afterNoon 36210 true).unwritable]) none
  rw [Option.isNone_iff_eq_none.mp hends] at hrun
  exact ⟨hrun, by decide +kernel, by decide +kernel, by decide +kernel⟩

/-- All the lives make one run, each of them makes a reset, and nothing is read or written. -/
theorem run_stuckLives (lives : Nat) :
    Run none (stuckLives lives) none ∧ (∀ event ∈ stuckLives lives, event.clears = false) ∧
      (∀ exchange ∈ callsOf (stuckLives lives), exchange.refused = true) ∧
      resetsIn (callsOf (stuckLives lives)) = lives := by
  induction lives with
  | zero => exact ⟨.nil none, List.forall_mem_nil _, List.forall_mem_nil _, rfl⟩
  | succ lives ih =>
    obtain ⟨hrun, hclears, hrefused, hresets⟩ := ih
    obtain ⟨hlife, hunclear, hrefuses, honce⟩ := run_stuckLife
    rw [stuckLives, callsOf_append, resetsIn_append, hresets, honce, Nat.add_comm]
    exact ⟨Run.append_iff.mpr ⟨none, hlife, hrun⟩, List.forall_mem_append.mpr ⟨hunclear, hclears⟩,
      List.forall_mem_append.mpr ⟨hrefuses, hrefused⟩, rfl⟩

/-- No reset was counted before the last tick, and the one that it makes could not be written. -/
theorem reset_stuckLife :
    ∃ before first rest control after,
      stuckLife = (live stuckUp none).1 ++ [.tick before (first ++ ⟨.softReset, ()⟩ :: rest) control after] ∧
        before.resetCount = 0 ∧ CountUnwritten first := by
  have hsome : (live stuckUp none).2.isSome = true := by decide +kernel
  obtain ⟨before, hbefore⟩ := Option.isSome_iff_exists.mp hsome
  let devices := (Devices.afterNoon 36210 true).unwritable
  have hfacts : ∀ c ∈ (live stuckUp none).2,
      (((Controller.tick.run c).trace devices.environment ()).drop 4).head?.map Exchange.call = some .softReset ∧
        CountUnwritten (((Controller.tick.run c).trace devices.environment ()).take 4) ∧ c.resetCount = 0 := by
    decide +kernel
  obtain ⟨hcall, hunwritten, hcount⟩ := hfacts before hbefore
  obtain ⟨⟨⟩, rest, hsplit⟩ := split_at_call hcall
  obtain ⟨control, after, hlive⟩ := live_concat_tick hbefore devices
  rw [hsplit] at hlive
  exact ⟨before, _, rest, control, after, hlive, hcount, hunwritten⟩

/-! ## Every reset -/

/-- In every run over a store of which any read and any write may fail: at each reset, storage counts it too if its
count was written, and counts as many as before the tick if not; the device is reset all the same, and goes on with
one more counted in memory. Where only writes fail, a part of the run that never clears the count makes at most four
resets, and one more for each whose count could not be written. -/
theorem reset_stored_unless_unwritten {earlier stretch : List Event} {last : Option Controller} {initial : Store}
    (hrun : Run none (earlier ++ stretch) last) (hhonest : initial.Honest (callsOf (earlier ++ stretch))) :
    (∀ before first call answer rest control after later,
      stretch = .tick before (first ++ ⟨call, answer⟩ :: rest) control after :: later → call.isReset = true →
      ∃ c, Reaches (Controller.tick.run before) first call (fun answer => (Controller.resume call answer).run c) ∧
        c.config.value.resetCount.toNat = before.config.value.resetCount.toNat + 1 ∧
        (initial.after (callsOf earlier ++ first)).resetCount =
          if CountUnwritten first then (initial.after (callsOf earlier)).resetCount
          else before.config.value.resetCount.toNat + 1) ∧
      (initial.Readable (callsOf (earlier ++ stretch)) → (∀ event ∈ stretch, event.clears = false) →
        resetsIn (callsOf stretch) ≤ 4 + lossesIn stretch) := by
  have hnone : ∀ {P : Controller → Prop}, ∀ c ∈ (none : Option Controller), P c := fun _ hc => by cases hc
  obtain ⟨state, hearlier, hstretch⟩ := Run.append_iff.mp hrun
  rw [callsOf_append] at hhonest ⊢
  obtain ⟨hfirst, hlater⟩ := Store.honest_append.mp hhonest
  refine ⟨fun before first call answer rest control after later hsplit hreset => ?_, fun hreadable hclears => ?_⟩
  · subst hsplit
    cases hstretch with
    | cons hleads _ =>
      cases hleads with
      | tick hpath =>
        have hbefore := hearlier.backed hnone hfirst before rfl
        have hrecovered := Controller.recovered_of_reset hpath (hearlier.prudent before rfl)
          (List.mem_append_right first List.mem_cons_self) hreset
        have hstops : call.stops = true := by cases call <;> first | rfl | cases hreset
        obtain ⟨left, hreaches⟩ := hpath.reaches
        obtain ⟨c, rfl, hcomes⟩ := Controller.stops_tick hreaches hstops
        have hcount : c.resetCount = before.resetCount + 1 := by
          have hallowed := hrecovered.allowed
          have hbumped : c.resetCount = (bumpByte before.config.value.resetCount).toNat :=
            congrArg (·.resetCount.toNat) (hcomes.counted hreset)
          rw [hbumped, toNat_bumpByte]
          exact Nat.min_eq_left (by omega)
        have hstored := hcomes.resetCount_stored hreset hbefore
        rw [hcount] at hstored
        rw [Store.after_append]
        exact ⟨c, hreaches, hcount, hstored⟩
  · obtain ⟨hread, hunfailing⟩ := Store.readable_append.mp hreadable
    have htallied := hearlier.tallied hnone hfirst hread
    have hbound := hstretch.resets_add_le_add_losses htallied hlater hunfailing hclears
    omega

/-- Where the radio stays up and nothing can be written, storage counts no reset when the first is made. Of five,
one at least is lost. -/
theorem reset_stored_unless_unwritten_stuckLives :
    (∃ before first rest control after c,
      Run none ((live stuckUp none).1 ++ [.tick before (first ++ ⟨.softReset, ()⟩ :: rest) control after]) none ∧
      CountUnwritten first ∧
      Reaches (Controller.tick.run before) first .softReset
        (fun answer => (Controller.resume .softReset answer).run c) ∧
      c.config.value.resetCount.toNat = 1 ∧
      (Stage.blank.store.after (callsOf (live stuckUp none).1 ++ first)).resetCount = 0) ∧
      resetsIn (callsOf (stuckLives 5)) = 5 ∧ 1 ≤ lossesIn (stuckLives 5) := by
  have hempty : ∀ key, Stage.blank.store.bytes key = none := fun _ => rfl
  refine ⟨?_, ?_⟩
  · obtain ⟨before, first, rest, control, after, hlife, hcount, hunwritten⟩ := reset_stuckLife
    obtain ⟨hrun, _, hrefused, _⟩ := run_stuckLife
    rw [hlife] at hrun hrefused
    obtain ⟨hhonest, _, _⟩ := Store.honest_of_refused hempty hrefused
    obtain ⟨hresets, _⟩ := reset_stored_unless_unwritten hrun hhonest
    obtain ⟨c, hreaches, hcounted, hstored⟩ := hresets _ _ _ _ _ _ _ _ rfl rfl
    have hearlier : ∀ exchange ∈ callsOf (live stuckUp none).1, exchange.refused = true := by
      rw [callsOf_append] at hrefused
      exact (List.forall_mem_append.mp hrefused).1
    rw [if_pos hunwritten, (Store.honest_of_refused hempty hearlier).2.2] at hstored
    have hone : c.config.value.resetCount.toNat = 1 := hcounted.trans (congrArg (· + 1) hcount)
    exact ⟨before, first, rest, control, after, c, hrun, hunwritten, hreaches, hone, hstored⟩
  · obtain ⟨hrun, hclears, hrefused, hfive⟩ := run_stuckLives 5
    obtain ⟨hhonest, hreadable, _⟩ := Store.honest_of_refused hempty hrefused
    have hwhole : Run none ([] ++ stuckLives 5) none := hrun
    obtain ⟨_, hbound⟩ := reset_stored_unless_unwritten hwhole hhonest
    have hlost := hbound hreadable hclears
    rw [hfive] at hlost
    exact ⟨hfive, by omega⟩

/-- So where only writes fail, it is not true that storage counts every reset when it is made, and there is no bound
on the resets between two events that clear the count. -/
theorem resets_unbounded_stuckLives :
    (¬∀ (initial : Store) earlier before first call answer rest control after last,
      Run none (earlier ++ [.tick before (first ++ ⟨call, answer⟩ :: rest) control after]) last →
      initial.Honest (callsOf (earlier ++ [.tick before (first ++ ⟨call, answer⟩ :: rest) control after])) →
      initial.Readable (callsOf (earlier ++ [.tick before (first ++ ⟨call, answer⟩ :: rest) control after])) →
      call.isReset = true →
      (initial.after (callsOf earlier ++ first)).resetCount = before.config.value.resetCount.toNat + 1) ∧
      ∀ bound, ∃ history, Run none history none ∧ Stage.blank.store.Honest (callsOf history) ∧
        Stage.blank.store.Readable (callsOf history) ∧ (∀ event ∈ history, event.clears = false) ∧
        bound < resetsIn (callsOf history) := by
  have hempty : ∀ key, Stage.blank.store.bytes key = none := fun _ => rfl
  refine ⟨fun hstored => ?_, fun bound => ?_⟩
  · obtain ⟨before, first, rest, control, after, hlife, _, _⟩ := reset_stuckLife
    obtain ⟨hrun, _, hrefused, _⟩ := run_stuckLife
    rw [hlife] at hrun hrefused
    obtain ⟨hhonest, hreadable, _⟩ := Store.honest_of_refused hempty hrefused
    have hcount := hstored Stage.blank.store _ _ _ _ _ _ _ _ _ hrun hhonest hreadable rfl
    have hfirst : ∀ exchange ∈ callsOf (live stuckUp none).1 ++ first, exchange.refused = true := by
      rw [callsOf_append, callsOf_singleton] at hrefused
      obtain ⟨hearlier, htick⟩ := List.forall_mem_append.mp hrefused
      exact List.forall_mem_append.mpr ⟨hearlier, (List.forall_mem_append.mp htick).1⟩
    rw [(Store.honest_of_refused hempty hfirst).2.2] at hcount
    cases hcount
  · obtain ⟨hrun, hclears, hrefused, hresets⟩ := run_stuckLives (bound + 1)
    obtain ⟨hhonest, hreadable, _⟩ := Store.honest_of_refused hempty hrefused
    refine ⟨_, hrun, hhonest, hreadable, hclears, ?_⟩
    rw [hresets]
    exact Nat.lt_succ_self bound

end FieldCounter
