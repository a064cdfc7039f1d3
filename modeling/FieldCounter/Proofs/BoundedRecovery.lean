import FieldCounter.Proofs.Resets
import FieldCounter.Proofs.Transparency

/-!
# Bounded recovery

The count of resets lives in storage, and every event of a run leaves it alone, clears it, or makes
one reset and counts it, the last only while fewer than four are counted. So the resets between two
events that clear the count are at most four, whatever alerts led to them, however often the device
is booted in between, and whatever was stored at first.
-/

namespace FieldCounter

open Program (Path)

/-! ## The count in storage -/

/-- The resets counted in storage; none where there are no usable settings. -/
def Store.resetCount (store : Store) : Nat :=
  match store.bytes .config with
  | none => 0
  | some bytes =>
    match (Record.decode (α := DeviceConfig) (bytes.take recordCapacity)).value with
    | .ok config => config.resetCount.toNat
    | .error _ => 0

/-- It is the count in the settings that are found there. -/
theorem Store.resetCount_eq (store : Store) :
    store.resetCount = (store.found : DeviceConfig).resetCount.toNat := by
  have hkey : Record.key DeviceConfig = .config := rfl
  unfold resetCount found
  rw [hkey]
  cases store.bytes .config with
  | none => rfl
  | some bytes =>
    dsimp only
    cases (Record.decode (α := DeviceConfig) (bytes.take recordCapacity)).value <;> rfl

/-- Settings in storage without unwritten changes hold the count. -/
theorem Persisted.resetCount_of_stored {config : Persisted DeviceConfig} {store : Store}
    (hstored : config.Stored store) (hsaved : config.saved = some config.value) :
    store.resetCount = config.value.resetCount.toNat := by
  rw [store.resetCount_eq, found_of_stored hstored hsaved]

/-- A boot comes to the count in storage. -/
theorem resetCount_of_boot {c : Controller} {store later : Store} {trace : List Exchange}
    (hpath : Path Controller.boot trace c) (hserves : store.Serves trace later) :
    c.config.value.resetCount.toNat = store.resetCount := by
  rw [store.resetCount_eq, (found_of_boot hpath hserves).1]

/-! ## Events -/

/-- The event clears the count: the actions after a connection end with no systemic alert on show. -/
def Event.clears : Event → Bool
  | .tick _ calls _ after =>
    calls.any (·.call.isStatus) && !after.status.value.alert.shows Alert.isSystemic
  | .boot _ _ | .raise _ _ => false

/-- What an event does to the count in storage. -/
inductive Event.Spends (event : Event) (before after : Nat) : Prop where
  | cleared : event.clears = true → resetsIn event.calls = 0 → after = 0 → event.Spends before after
  | kept : event.clears = false → resetsIn event.calls = 0 → after = before → event.Spends before after
  | spent : event.clears = false → resetsIn event.calls = 1 → before < 4 → after = before + 1 →
      event.Spends before after

/-- Between two events: the records are usable, the settings are in storage, and a decision stands
only for a reset that may be made. -/
structure Controller.Ready (c : Controller) (store : Store) : Prop where
  sound : c.Sound store
  saved : c.config.saved = some c.config.value
  prudent : c.Prudent

/-- The count in storage is the one in memory. -/
theorem Controller.Ready.resetCount_eq {c : Controller} {store : Store} (h : c.Ready store) :
    store.resetCount = c.config.value.resetCount.toNat :=
  Persisted.resetCount_of_stored h.sound.configStored h.saved

/-- A tick that publishes no health clears nothing. -/
theorem Event.not_clears_of_unpublished {before after : Controller} {trace : List Exchange} {control : Control}
    (h : ∀ exchange ∈ trace, exchange.call.isStatus = false) :
    (Event.tick before trace control after).clears = false := by
  have hany : trace.any (·.call.isStatus) = false := by
    rw [List.any_eq_false]
    intro exchange hmem
    rw [h exchange hmem]
    exact Bool.false_ne_true
  simp only [clears, hany, Bool.false_and]

/-- A tick that settles the count makes no reset, and clears the count or leaves it alone. -/
theorem Settled.spends {before after : Controller} {trace : List Exchange} (h : Settled before trace after)
    (control : Control) :
    (Event.tick before trace control after).Spends before.config.value.resetCount.toNat
      after.config.value.resetCount.toNat := by
  have hresets : resetsIn trace = 0 := resetsIn_eq_zero h.resets
  rcases h.count with ⟨hnone, hcount⟩ | ⟨⟨exchange, hmem, hstatus⟩, hcount⟩
  · exact .kept (Event.not_clears_of_unpublished hnone) hresets (congrArg UInt8.toNat hcount)
  · have hany : trace.any (·.call.isStatus) = true := List.any_eq_true.mpr ⟨exchange, hmem, hstatus⟩
    rw [countAfter] at hcount
    cases hshows : after.status.value.alert.shows Alert.isSystemic with
    | true =>
      rw [hshows, if_pos rfl] at hcount
      exact .kept (by simp [Event.clears, hshows]) hresets (congrArg UInt8.toNat hcount)
    | false =>
      rw [hshows, if_neg Bool.false_ne_true] at hcount
      exact .cleared (by simp [Event.clears, hany, hshows]) hresets (congrArg UInt8.toNat hcount)

/-- A tick that ends in a restart spends one reset. -/
theorem Recovered.spends {before after : Controller} {trace : List Exchange} (h : Recovered before trace after)
    (control : Control) :
    (Event.tick before trace control after).Spends before.config.value.resetCount.toNat
      after.config.value.resetCount.toNat :=
  .spent (Event.not_clears_of_unpublished h.unpublished) h.once h.allowed h.count

/-- What a tick does to the count, and what it leaves. -/
theorem Controller.Ready.tick {before after : Controller} {store later : Store} {trace : List Exchange}
    {control : Control} (h : before.Ready store)
    (hpath : Path (Controller.tick.run before) trace (control, after)) (hserves : store.Serves trace later) :
    later.resetCount = after.config.value.resetCount.toNat ∧
      (Event.tick before trace control after).Spends store.resetCount later.resetCount ∧
      ∀ c ∈ control.leaves after, c.Ready later := by
  obtain ⟨hsound, hsaved⟩ := h.sound.tick hpath hserves
  have hlater := Persisted.resetCount_of_stored hsound.configStored hsaved.config
  rw [hlater, h.resetCount_eq]
  rcases Controller.tick_settles hpath h.prudent with hsettled | ⟨rfl, hrecovered⟩
  · refine ⟨rfl, hsettled.spends control, fun c hc => ?_⟩
    cases control with
    | proceed =>
      obtain rfl := Option.some.inj hc
      exact ⟨hsound, hsaved.config, hsettled.prudent h.prudent⟩
    | restart => cases hc
  · exact ⟨rfl, hrecovered.spends .restart, fun c hc => by cases hc⟩

/-- After a boot no decision stands. -/
theorem Controller.prudent_of_boot {c : Controller} {trace : List Exchange} (hpath : Path Controller.boot trace c) :
    c.Prudent := by
  obtain ⟨config, _, status, _, _, _, _, _, _, rfl⟩ := boot_cases hpath
  intro resolution uptimeMs hdecision
  cases hdecision

/-- A boot makes no reset. -/
theorem resetsIn_boot {c : Controller} {trace : List Exchange} (hpath : Path Controller.boot trace c) :
    resetsIn trace = 0 :=
  resetsIn_eq_zero fun exchange hmem => Call.not_isReset_of_touchesRecord (calls_boot hpath exchange hmem)

/-- A boot makes no reset and comes to the count in storage, with no decision standing. -/
theorem ready_of_boot {c : Controller} {store later : Store} {trace : List Exchange}
    (hpath : Path Controller.boot trace c) (hserves : store.Serves trace later) :
    c.Ready later ∧ (Event.boot trace c).Spends store.resetCount later.resetCount := by
  obtain ⟨hsound, hsaved⟩ := sound_of_boot hpath hserves
  have hready : c.Ready later := ⟨hsound, hsaved.config, Controller.prudent_of_boot hpath⟩
  have hcount : later.resetCount = store.resetCount := by
    rw [hready.resetCount_eq]
    exact resetCount_of_boot hpath hserves
  exact ⟨hready, .kept rfl (resetsIn_boot hpath) hcount⟩

/-- Every event leaves the device ready for the next one, and spends at most one reset. -/
theorem Event.Leads.spends {event : Event} {state next : Option Controller} {store later : Store}
    (h : event.Leads state next) (hready : ∀ c ∈ state, c.Ready store)
    (hserves : store.Serves event.calls later) :
    (∀ c ∈ next, c.Ready later) ∧ event.Spends store.resetCount later.resetCount := by
  cases h with
  | boot hpath =>
    obtain ⟨hboot, hspends⟩ := ready_of_boot hpath hserves
    refine ⟨fun c hc => ?_, hspends⟩
    obtain rfl := Option.some.inj hc
    exact hboot
  | tick hpath =>
    obtain ⟨_, hspends, hnext⟩ := (hready _ rfl).tick hpath hserves
    exact ⟨hnext, hspends⟩
  | raise before alert now =>
    have hsame : later = store := Store.serves_nil_iff.mp hserves
    rw [hsame]
    refine ⟨fun c hc => ?_, .kept rfl rfl rfl⟩
    obtain rfl := Option.some.inj hc
    have hbefore := hready before rfl
    have hsane := RuntimeStatus.isSane_raiseAlert hbefore.sound.status alert now
    exact ⟨hbefore.sound.setStatus hsane, hbefore.saved, hbefore.prudent⟩

/-! ## Runs -/

/-- A run leaves the device ready. -/
theorem Run.ready {state last : Option Controller} {history : List Event} {store later : Store}
    (h : Run state history last) (hready : ∀ c ∈ state, c.Ready store)
    (hserves : store.Serves (callsOf history) later) : ∀ c ∈ last, c.Ready later := by
  induction h generalizing store with
  | nil state =>
    rw [Store.serves_nil_iff.mp hserves]
    exact hready
  | cons hleads _ ih =>
    obtain ⟨between, hfirst, hrest⟩ := Store.serves_append_iff.mp hserves
    exact ih (hleads.spends hready hfirst).1 hrest

/-- In a run that never clears the count, the resets and the count at first are four at most, or the
count was higher from the first and there are no resets at all. -/
theorem Run.resets_add_le {state last : Option Controller} {history : List Event} {store later : Store}
    (h : Run state history last) (hready : ∀ c ∈ state, c.Ready store)
    (hserves : store.Serves (callsOf history) later) (hclears : ∀ event ∈ history, event.clears = false) :
    resetsIn (callsOf history) + store.resetCount ≤ max 4 store.resetCount := by
  induction h generalizing store with
  | nil state =>
    have hnone : resetsIn (callsOf []) = 0 := rfl
    omega
  | cons hleads _ ih =>
    rename_i event rest hrun
    obtain ⟨between, hfirst, hrest⟩ := Store.serves_append_iff.mp hserves
    obtain ⟨hnext, hspends⟩ := hleads.spends hready hfirst
    have hlater := ih hnext hrest fun event hmem => hclears event (List.mem_cons_of_mem _ hmem)
    have hsplit : resetsIn (callsOf (event :: rest)) = resetsIn event.calls + resetsIn (callsOf rest) :=
      resetsIn_append _ _
    cases hspends with
    | cleared hclear =>
      rw [hclears event List.mem_cons_self] at hclear
      cases hclear
    | kept _ hresets hcount => omega
    | spent _ hresets hlt hcount => omega

/-- Over a store that keeps what is written, whatever it held at first, whatever the other devices
answer and whatever alerts are raised: any part of a run that never clears the count makes at most
four resets, and none if it starts with a boot that loads a count of four or more. A tick that clears
the count makes no reset and leaves the count at zero, and no other tick lowers it. -/
theorem resets_le_four (earlier stretch : List Event) {last : Option Controller} {initial store : Store}
    (hrun : Run none (earlier ++ stretch) last)
    (hserves : initial.Serves (callsOf (earlier ++ stretch)) store) :
    ((∀ event ∈ stretch, event.clears = false) → resetsIn (callsOf stretch) ≤ 4) ∧
      (∀ calls c rest, stretch = .boot calls c :: rest → 4 ≤ c.config.value.resetCount.toNat →
        (∀ event ∈ rest, event.clears = false) → resetsIn (callsOf stretch) = 0) ∧
      ∀ before calls control after rest, stretch = .tick before calls control after :: rest →
        ((Event.tick before calls control after).clears = true →
          resetsIn calls = 0 ∧ after.config.value.resetCount.toNat = 0) ∧
        ((Event.tick before calls control after).clears = false →
          before.config.value.resetCount.toNat ≤ after.config.value.resetCount.toNat) := by
  obtain ⟨state, hearlier, hstretch⟩ := Run.append_iff.mp hrun
  rw [callsOf_append] at hserves
  obtain ⟨between, hfirst, hlast⟩ := Store.serves_append_iff.mp hserves
  have hnone : ∀ c ∈ (none : Option Controller), c.Ready initial := fun _ h => by cases h
  have hready := hearlier.ready hnone hfirst
  refine ⟨fun hclears => ?_, ?_, ?_⟩
  · have hbound := hstretch.resets_add_le hready hlast hclears
    omega
  · intro calls c rest hboot hfour hclears
    subst hboot
    cases hstretch with
    | cons hleads hrest =>
      cases hleads with
      | boot hpath =>
        have hcount : c.config.value.resetCount.toNat = between.resetCount := by
          obtain ⟨next, hserve, _⟩ := Store.serves_append_iff.mp hlast
          exact resetCount_of_boot hpath hserve
        have hall : ∀ event ∈ Event.boot calls c :: rest, event.clears = false := by
          intro event hmem
          rcases List.mem_cons.mp hmem with rfl | hlater
          · rfl
          · exact hclears event hlater
        have hbound := Run.resets_add_le (.cons (.boot hpath) hrest) hready hlast hall
        omega
  · intro before calls control after rest htick
    subst htick
    cases hstretch with
    | cons hleads _ =>
      cases hleads with
      | tick hpath =>
        obtain ⟨next, hserve, _⟩ := Store.serves_append_iff.mp hlast
        have hbefore := hready before rfl
        obtain ⟨hlater, hspends, _⟩ := hbefore.tick hpath hserve
        rw [hbefore.resetCount_eq, hlater] at hspends
        cases hspends with
        | cleared hclear hresets hcount =>
          refine ⟨fun _ => ⟨hresets, hcount⟩, fun hkeep => ?_⟩
          rw [hclear] at hkeep
          cases hkeep
        | kept hkeep _ hcount =>
          refine ⟨fun hclear => ?_, fun _ => Nat.le_of_eq hcount.symm⟩
          rw [hkeep] at hclear
          cases hclear
        | spent hkeep _ _ hcount =>
          refine ⟨fun hclear => ?_, fun _ => by omega⟩
          rw [hkeep] at hclear
          cases hclear

/-- A device that boots and idles offline, until an alert sends it to the error state and it is reset. -/
def faultRound (alert : Alert) : List Scene :=
  let devices (uptimeMs : UInt64) :=
    Devices.ordinary { now := 1699963200, uptimeMs, valid := true, utcOffset := 0 } false
  [.boot (devices 0), .tick (devices 1000), .raise alert 1699963200, .tick (devices 2000),
    .tick (devices 3000), .tick (devices 20000)]

/-- One fault after another, each worse than the one before. -/
def faultRounds : List Scene :=
  [Alert.prolongedOffline, .connectTimeout, .modemFault, .sleepFault, .outOfMemory].flatMap faultRound

/-- Five faults are met with four resets: the last one comes to the end of its ladder. -/
theorem resets_le_four_faultRounds :
    (∀ event ∈ (play faultRounds .blank).1, event.clears = false) ∧
      resetsIn (callsOf (play faultRounds .blank).1) ≤ 4 ∧
      4 ≤ resetsIn (callsOf (play faultRounds .blank).1) := by
  obtain ⟨hrun, hserves⟩ := run_play faultRounds .blank
  have hclears : ∀ event ∈ (play faultRounds .blank).1, event.clears = false := by decide +kernel
  have hbound := (resets_le_four [] _ hrun hserves).1 hclears
  exact ⟨hclears, hbound, by decide +kernel⟩

end FieldCounter
