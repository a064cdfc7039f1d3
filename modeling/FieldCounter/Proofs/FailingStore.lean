import FieldCounter.Proofs.Transparency

/-!
# A store that may fail

Any read and any write may fail; a write that fails leaves the store as it is, and what is read is what the store
holds. Of such a store less is known than of one that serves: a record in memory may be ahead of the one in
storage. What was last known to be stored is still there, through every run. Where only writes fail, a boot still
comes to what is found in storage.
-/

namespace FieldCounter

open Program (Path)

/-- The record that could not be written. -/
def Exchange.failedWrite : Exchange → Option RecordKey
  | ⟨.writeRecord key _, .error _⟩ => some key
  | _ => none

/-- The record that could not be read. -/
def Exchange.failedRead : Exchange → Option RecordKey
  | ⟨.readRecord key, .error _⟩ => some key
  | _ => none

/-- The record that was read, and what of it. -/
def Exchange.read : Exchange → Option (RecordKey × Bytes)
  | ⟨.readRecord key, .ok bytes⟩ => some (key, bytes)
  | _ => none

namespace Store

/-- The store after the exchange. -/
def next (store : Store) : Exchange → Store
  | ⟨.writeRecord key bytes, .ok ()⟩ => store.put key bytes
  | _ => store

/-- The store after all the calls. -/
def after (store : Store) (calls : List Exchange) : Store := calls.foldl next store

/-- The property holds of every exchange, with the store as it is then. -/
def Throughout (property : Store → Exchange → Prop) : Store → List Exchange → Prop
  | _, [] => True
  | store, exchange :: rest => property store exchange ∧ Throughout property (store.next exchange) rest

instance decidableThroughout {property : Store → Exchange → Prop} [∀ store, DecidablePred (property store)] :
    (store : Store) → (calls : List Exchange) → Decidable (Throughout property store calls)
  | _, [] => isTrue trivial
  | _, _ :: rest => @instDecidableAnd _ _ inferInstance (decidableThroughout _ rest)

/-- What is read is what the store holds then. -/
def Honest (store : Store) (calls : List Exchange) : Prop :=
  Throughout (fun store exchange => ∀ read ∈ exchange.read, store.bytes read.1 = some read.2) store calls

/-- No read fails but of a record of which the store holds nothing. -/
def Readable (store : Store) (calls : List Exchange) : Prop :=
  Throughout (fun store exchange => ∀ key ∈ exchange.failedRead, store.bytes key = none) store calls

instance (store : Store) (calls : List Exchange) : Decidable (store.Honest calls) :=
  inferInstanceAs (Decidable (Throughout _ store calls))

/-- The value can be read from the store. -/
def Holds {α : Type} [Record α] (store : Store) (value : α) : Prop :=
  ∃ bytes, store.bytes (Record.key α) = some bytes ∧ (Record.decode (bytes.take recordCapacity)).value = .ok value

variable {store : Store} {calls rest : List Exchange}

/-- The calls change the store part by part. -/
theorem after_append : store.after (calls ++ rest) = (store.after calls).after rest := List.foldl_append

/-- A property holds throughout two parts if it does throughout each, the second one from the store after the first.
-/
theorem throughout_append {property : Store → Exchange → Prop} :
    Throughout property store (calls ++ rest) ↔
      Throughout property store calls ∧ Throughout property (store.after calls) rest := by
  induction calls generalizing store with
  | nil => exact ⟨fun h => ⟨trivial, h⟩, And.right⟩
  | cons exchange calls ih => exact (and_congr_right fun _ => ih).trans and_assoc.symm

/-- Two parts are honest if each is. -/
theorem honest_append : store.Honest (calls ++ rest) ↔ store.Honest calls ∧ (store.after calls).Honest rest :=
  throughout_append

/-- Two parts are readable if each is. -/
theorem readable_append :
    store.Readable (calls ++ rest) ↔ store.Readable calls ∧ (store.after calls).Readable rest :=
  throughout_append

/-- Calls that touch no record leave the store as it is. -/
theorem after_of_untouched (h : ∀ exchange ∈ calls, exchange.call.touchesRecord = false) :
    store.after calls = store := by
  induction calls generalizing store with
  | nil => rfl
  | cons exchange calls ih =>
    obtain ⟨hfirst, hrest⟩ := List.forall_mem_cons.mp h
    have hnext : store.next exchange = store := by
      obtain ⟨call, answer⟩ := exchange
      cases call <;> first | rfl | cases hfirst
    show (store.next exchange).after calls = store
    rw [hnext, ih hrest]

/-- A value that is held is found by a boot. -/
theorem Holds.found_eq {α : Type} [Record α] {value : α} (h : store.Holds value) : store.found = value := by
  obtain ⟨bytes, hbytes, hdecode⟩ := h
  simp only [Store.found, hbytes, hdecode]

/-- A store that has the same bytes of the record holds the same value. -/
theorem Holds.of_bytes_eq {α : Type} [Record α] {value : α} {later : Store} (h : store.Holds value)
    (hbytes : later.bytes (Record.key α) = store.bytes (Record.key α)) : later.Holds value := by
  obtain ⟨bytes, hstored, hdecode⟩ := h
  exact ⟨bytes, hbytes.trans hstored, hdecode⟩

/-- A usable value that is written is held. -/
theorem holds_put {α : Type} [Record α] [DecidableEq α] [Record.Lawful α] {value : α}
    (husable : Record.Usable value) : (store.put (Record.key α) (Record.encode value)).Holds value :=
  ⟨_, store.bytes_put_self _ _, Record.decode_encode husable⟩

/-- An answer of a store that does not fail is an honest one. -/
theorem Answers.honest {later : Store} {exchange : Exchange} (h : store.Answers exchange later) :
    (∀ read ∈ exchange.read, store.bytes read.1 = some read.2) ∧ store.next exchange = later ∧
      exchange.failedWrite = none := by
  obtain ⟨call, answer⟩ := exchange
  cases call with
  | writeRecord key bytes =>
    obtain ⟨rfl, rfl⟩ := h
    exact ⟨fun _ hread => (by cases hread), rfl, rfl⟩
  | readRecord key =>
    obtain ⟨rfl, hread⟩ := h
    refine ⟨fun read hmem => ?_, rfl, rfl⟩
    cases hbytes : later.bytes key with
    | none =>
      rw [hbytes] at hread
      obtain ⟨error, rfl⟩ := hread
      cases hmem
    | some stored =>
      rw [hbytes] at hread
      subst hread
      cases hmem
      exact hbytes
  | _ => exact ⟨fun _ hread => (by cases hread), Eq.symm h, rfl⟩

/-- A store that serves is honest, and none of its writes fails. -/
theorem Serves.honest {later : Store} (h : store.Serves calls later) :
    store.Honest calls ∧ store.after calls = later ∧ ∀ exchange ∈ calls, exchange.failedWrite = none := by
  induction h with
  | nil store => exact ⟨trivial, rfl, fun _ hmem => absurd hmem List.not_mem_nil⟩
  | cons hanswers _ ih =>
    obtain ⟨hread, rfl, hwrite⟩ := hanswers.honest
    obtain ⟨hhonest, rfl, hwritten⟩ := ih
    exact ⟨⟨hread, hhonest⟩, rfl, List.forall_mem_cons.mpr ⟨hwrite, hwritten⟩⟩

end Store

/-! ## What is known of storage -/

/-- What was last known to be stored of the record is held by the store. -/
def Persisted.Backed {α : Type} [Record α] (record : Persisted α) (store : Store) : Prop :=
  ∀ value, record.saved = some value → store.Holds value

namespace Persisted

variable {α : Type} [Record α] {record : Persisted α} {store : Store}

/-- Such a store backs the same record. -/
theorem Backed.of_bytes_eq {later : Store} (h : record.Backed store)
    (hbytes : later.bytes (Record.key α) = store.bytes (Record.key α)) : record.Backed later :=
  fun value hsaved => (h value hsaved).of_bytes_eq hbytes

variable [DecidableEq α] {trace : List Exchange}

/-- Where only writes fail, a load comes to what is found in storage. -/
theorem found_of_readable {outcome : LoadOutcome} (hpath : Path (load α) trace (record, outcome))
    (hhonest : store.Honest trace) (hreadable : store.Readable trace) : record.value = store.found := by
  obtain ⟨answer, rest, rfl, hread⟩ := load_cases hpath
  refine value_of_told hread ?_
  cases answer with
  | ok bytes =>
    rw [hhonest.1 (_, bytes) rfl]
  | error error =>
    rw [hreadable.1 _ rfl]
    exact ⟨error, rfl⟩

variable [Record.Lawful α] {flushed : Persisted α}

/-- A flush leaves the other records alone; what it knows to be stored is, whether or not it could write. -/
theorem backed_of_flush {written : Except StorageError Bool} (hpath : Path record.flush trace (written, flushed))
    (husable : Record.Usable record.value) (hbacked : record.Backed store) :
    flushed.Backed (store.after trace) ∧
      ∀ key, key ≠ Record.key α → (store.after trace).bytes key = store.bytes key := by
  rcases flush_cases hpath with ⟨_, rfl, rfl⟩ | ⟨rfl, rfl⟩ | ⟨_, error, rfl, rfl⟩
  · exact ⟨hbacked, fun _ _ => rfl⟩
  · refine ⟨fun value hsaved => ?_, fun key hkey => store.bytes_put_of_ne _ hkey⟩
    rw [← Option.some.inj hsaved]
    exact Store.holds_put husable
  · exact ⟨hbacked, fun _ _ => rfl⟩

/-- Unless a write failed, a flush ends with the value in storage. -/
theorem saved_of_flush {written : Except StorageError Bool} (hpath : Path record.flush trace (written, flushed))
    (hwritten : ∀ exchange ∈ trace, exchange.failedWrite = none) :
    flushed.saved = some flushed.value := by
  rcases flush_cases hpath with ⟨hsaved, rfl, rfl⟩ | ⟨rfl, rfl⟩ | ⟨_, error, rfl, rfl⟩
  · exact hsaved
  · rfl
  · cases hwritten _ (List.mem_singleton_self _)

/-- A load comes to a usable value, whatever it is told. -/
theorem usable_of_load {outcome : LoadOutcome} (hpath : Path (load α) trace (record, outcome)) :
    Record.Usable record.value := by
  obtain ⟨answer, rest, rfl, hloaded | ⟨_, written, hinstalled⟩⟩ := load_cases hpath
  · obtain ⟨value, ⟨bytes, rfl, hdecode⟩, rfl, rfl, _⟩ := hloaded
    exact Record.usable_of_decode hdecode
  · rw [value_of_flush hinstalled]
    exact Record.Lawful.usable_factory

/-- A load that is told what the store holds knows it, and leaves the other records alone. -/
theorem backed_of_load {outcome : LoadOutcome} (hpath : Path (load α) trace (record, outcome))
    (hhonest : store.Honest trace) :
    record.Backed (store.after trace) ∧
      ∀ key, key ≠ Record.key α → (store.after trace).bytes key = store.bytes key := by
  obtain ⟨answer, rest, rfl, hloaded | ⟨_, written, hinstalled⟩⟩ := load_cases hpath
  · obtain ⟨value, ⟨bytes, rfl, hdecode⟩, rfl, rfl, _⟩ := hloaded
    refine ⟨fun loaded hsaved => ?_, fun _ _ => rfl⟩
    rw [← Option.some.inj hsaved]
    exact ⟨bytes, hhonest.1 (_, bytes) rfl, hdecode⟩
  · have hfactory : Record.Usable (Record.factory : α) := Record.Lawful.usable_factory
    have hnothing : Backed ({ value := Record.factory } : Persisted α) store := fun _ hsaved => by cases hsaved
    have hread : store.after (⟨.readRecord (Record.key α), answer⟩ :: rest) = store.after rest := rfl
    rw [hread]
    exact backed_of_flush hinstalled hfactory hnothing

end Persisted

namespace Controller

/-- Both records are usable, and the store holds what was last known to be stored of each. -/
structure Backed (c : Controller) (store : Store) : Prop where
  sane : c.records.Sane
  config : c.config.Backed store
  status : c.status.Backed store

variable {c after : Controller} {store : Store} {trace : List Exchange}

/-- Whether or not the settings can be written, both records stay backed. -/
theorem Backed.writeConfig (h : c.Backed store) {written : Except StorageError Bool} {config : Persisted DeviceConfig}
    (hpath : Path c.config.flush trace (written, config)) : { c with config }.Backed (store.after trace) := by
  obtain ⟨hconfig, hothers⟩ := Persisted.backed_of_flush hpath (DeviceConfig.usable_iff.mpr h.sane.config) h.config
  have hsane : config.value.isSane = true :=
    (congrArg DeviceConfig.isSane (Persisted.value_of_flush hpath)).trans h.sane.config
  exact ⟨⟨hsane, h.sane.status⟩, hconfig, h.status.of_bytes_eq (hothers .status (by decide))⟩

/-- So they do when the status is written. -/
theorem Backed.writeStatus (h : c.Backed store) {written : Except StorageError Bool} {status : Persisted RuntimeStatus}
    (hpath : Path c.status.flush trace (written, status)) : { c with status }.Backed (store.after trace) := by
  obtain ⟨hstatus, hothers⟩ := Persisted.backed_of_flush hpath (RuntimeStatus.usable_iff.mpr h.sane.status) h.status
  have hsane : status.value.isSane = true :=
    (congrArg RuntimeStatus.isSane (Persisted.value_of_flush hpath)).trans h.sane.status
  exact ⟨⟨h.sane.config, hsane⟩, h.config.of_bytes_eq (hothers .config (by decide)), hstatus⟩

/-- A flush ends with what it knows to be stored in storage, and with both values there unless a write failed. -/
theorem Backed.flush (h : c.Backed store) (hpath : Path (Controller.flush.run c) trace ((), after)) :
    after.Backed (store.after trace) ∧
      ((∀ exchange ∈ trace, exchange.failedWrite = none) → after.Saved) := by
  obtain ⟨first, _, config, second, _, status, hconfig, hstatus, rfl, rfl⟩ := flush_cases hpath
  refine ⟨?_, fun hwritten => ⟨?_, ?_⟩⟩
  · rw [Store.after_append]
    exact (h.writeConfig hconfig).writeStatus hstatus
  · exact Persisted.saved_of_flush hconfig fun exchange hmem =>
      hwritten exchange (List.mem_append_left _ hmem)
  · exact Persisted.saved_of_flush hstatus fun exchange hmem =>
      hwritten exchange (List.mem_append_right _ hmem)

end Controller

/-- Every effect leaves in storage what was last known to be stored. -/
theorem Effect.Does.backed {effect : Effect} {before after : Controller} {trace : List Exchange} {store : Store}
    (h : effect.Does before trace after) (hask : ∀ call, effect = .ask call → call.touchesRecord = false)
    (hbacked : before.Backed store) : after.Backed (store.after trace) := by
  by_cases hconfig : effect = .writeConfig
  · subst hconfig
    cases h with
    | writeConfig hpath => exact hbacked.writeConfig hpath
  by_cases hstatus : effect = .writeStatus
  · subst hstatus
    cases h with
    | writeStatus hpath => exact hbacked.writeStatus hpath
  · have huntouched : ∀ exchange ∈ trace, exchange.call.touchesRecord = false := fun exchange hmem =>
      Effect.touchesRecord_of_mayCall (h.mayCall exchange hmem) hconfig hstatus hask
    obtain ⟨hconfigSaved, hstatusSaved⟩ := h.saved_eq hconfig hstatus
    rw [Store.after_of_untouched huntouched]
    exact ⟨h.sane hbacked.sane, fun value hsaved => hbacked.config value (hconfigSaved.symm.trans hsaved),
      fun value hsaved => hbacked.status value (hstatusSaved.symm.trans hsaved)⟩

/-- Any effects keep both records backed. -/
theorem Effects.backed {allowed : Effect → Bool} {before after : Controller} {trace : List Exchange} {store : Store}
    (h : Effects allowed before trace after)
    (hask : ∀ call, allowed (.ask call) = true → call.touchesRecord = false) (hbacked : before.Backed store) :
    after.Backed (store.after trace) := by
  induction h generalizing store with
  | none c => exact hbacked
  | cons hallowed hdoes _ ih =>
    rw [Store.after_append]
    exact ih (hdoes.backed (fun call heq => hask call (heq ▸ hallowed)) hbacked)

/-! ## Runs -/

/-- A tick keeps both records backed. -/
theorem Controller.Backed.tick {c after : Controller} {store : Store} {trace : List Exchange} {control : Control}
    (h : c.Backed store) (hpath : Path (Controller.tick.run c) trace (control, after)) :
    after.Backed (store.after trace) := by
  obtain ⟨first, closing, ready, heffects, hflush, rfl⟩ := Controller.effects_tick hpath
  rw [Store.after_append]
  exact ((heffects.backed (fun _ => RunState.touchesRecord_of_ticks) h).flush hflush).1

/-- A boot comes to usable records, whatever it is told. -/
theorem sane_of_boot {c : Controller} {trace : List Exchange} (hpath : Path Controller.boot trace c) :
    c.records.Sane := by
  obtain ⟨config, _, status, _, first, second, hconfig, hstatus, rfl, rfl⟩ := boot_cases hpath
  exact ⟨DeviceConfig.usable_iff.mp (Persisted.usable_of_load hconfig),
    RuntimeStatus.usable_iff.mp (Persisted.usable_of_load hstatus)⟩

/-- A boot knows what it read, or what it wrote in place of what it could not use. -/
theorem backed_of_boot {c : Controller} {store : Store} {trace : List Exchange} (hpath : Path Controller.boot trace c)
    (hhonest : store.Honest trace) : c.Backed (store.after trace) := by
  have hsane := sane_of_boot hpath
  obtain ⟨config, _, status, _, first, second, hconfig, hstatus, rfl, rfl⟩ := boot_cases hpath
  obtain ⟨hfirst, hsecond⟩ := Store.honest_append.mp hhonest
  obtain ⟨hconfigBacked, _⟩ := Persisted.backed_of_load hconfig hfirst
  obtain ⟨hstatusBacked, hothers⟩ := Persisted.backed_of_load hstatus hsecond
  rw [Store.after_append]
  exact ⟨hsane, hconfigBacked.of_bytes_eq (hothers .config (by decide)), hstatusBacked⟩

/-- Every event keeps both records backed, and a boot over an honest store backs them. -/
theorem Event.Leads.backed {event : Event} {state next : Option Controller} {store : Store}
    (h : event.Leads state next) (hbacked : ∀ c ∈ state, c.Backed store) (hhonest : store.Honest event.calls) :
    ∀ c ∈ next, c.Backed (store.after event.calls) := by
  intro c hc
  cases h with
  | boot hpath =>
    obtain rfl := Option.some.inj hc
    exact backed_of_boot hpath hhonest
  | @tick before after trace control hpath =>
    cases control with
    | proceed =>
      obtain rfl := Option.some.inj hc
      exact (hbacked before rfl).tick hpath
    | restart => cases hc
  | raise before alert now =>
    obtain rfl := Option.some.inj hc
    have hbefore := hbacked before rfl
    exact ⟨⟨hbefore.sane.config, RuntimeStatus.isSane_raiseAlert hbefore.sane.status alert now⟩, hbefore.config,
      hbefore.status⟩

/-- In every run over a store that is honest, what a controller knows to be stored is. -/
theorem Run.backed {state last : Option Controller} {history : List Event} {store : Store} (h : Run state history last)
    (hbacked : ∀ c ∈ state, c.Backed store) (hhonest : store.Honest (callsOf history)) :
    ∀ c ∈ last, c.Backed (store.after (callsOf history)) := by
  induction h generalizing store with
  | nil state => exact hbacked
  | @cons _ _ _ event rest hleads _ ih =>
    obtain ⟨hfirst, hrest⟩ := Store.honest_append.mp hhonest
    have hafter : store.after (callsOf (event :: rest)) = (store.after event.calls).after (callsOf rest) :=
      Store.after_append
    rw [hafter]
    exact ih (hleads.backed hbacked hfirst) hrest

end FieldCounter
