import FieldCounter.Proofs.FailingStore

/-!
# The history of a record

A record in memory is loaded, changed and flushed, any number of times and in any order, over a store any write of
which may fail, while other records are read and written in between. What is remembered of storage is what the calls
tell of it: the value that was read or written last. So a flush writes when the value is another one, a write that
failed is made up for by the next flush, and a record without unwritten changes is the one in storage, though its
bytes are never read again. Which value that is does not depend on the value being usable; whether a load can take
it does.
-/

namespace FieldCounter

open Program (Path)

/-- The call reads or writes the record. -/
def Call.concerns (key : RecordKey) : Call → Bool
  | .readRecord other | .writeRecord other _ => other == key
  | _ => false

/-- What the exchange tells of the value in storage, if anything: a failed read tells that none is known, a failed
write tells nothing. -/
def Exchange.tells (α : Type) [Record α] : Exchange → Option (Option α)
  | ⟨.readRecord key, answer⟩ => if key = Record.key α then some (Persisted.readAs answer).toOption else none
  | ⟨.writeRecord key bytes, .ok ()⟩ => if key = Record.key α then some (Record.decodeRaw bytes).toOption else none
  | _ => none

/-- The value that was last read or written, unless none could be read since. -/
def lastTold (α : Type) [Record α] (calls : List Exchange) : Option α :=
  (calls.filterMap (Exchange.tells α)).getLast?.join

/-! ## What the calls tell -/

section

variable {α : Type} [Record α] {calls trace : List Exchange}

/-- A read tells the value it finds, if it finds one. -/
theorem Exchange.tells_read (answer : Except StorageError Bytes) :
    tells α ⟨.readRecord (Record.key α), answer⟩ = some (Persisted.readAs answer).toOption := if_pos rfl

/-- A write that succeeds tells the value that was written. -/
theorem Exchange.tells_written [Record.Lawful α] (value : α) :
    tells α ⟨.writeRecord (Record.key α) (Record.encode value), .ok ()⟩ = some (some value) := by
  simp only [tells, if_true, Record.decodeRaw_encode]
  rfl

/-- A call that does not concern the record tells nothing of it. -/
theorem Exchange.tells_of_not_concerns {exchange : Exchange} (h : exchange.call.concerns (Record.key α) = false) :
    exchange.tells α = none := by
  obtain ⟨call, answer⟩ := exchange
  cases call with
  | readRecord key => exact if_neg (beq_eq_false_iff_ne.mp h)
  | writeRecord key bytes =>
    cases answer with
    | ok done => exact if_neg (beq_eq_false_iff_ne.mp h)
    | error error => rfl
  | _ => rfl

/-- What was told last counts. -/
theorem lastTold_append (calls more : List Exchange) :
    lastTold α (calls ++ more) = ((more.filterMap (Exchange.tells α)).getLast?.or
      (calls.filterMap (Exchange.tells α)).getLast?).join := by
  unfold lastTold
  rw [List.filterMap_append, List.getLast?_append]

/-- What the last exchange tells is what was told last. -/
theorem lastTold_append_of_tells {exchange : Exchange} {told : Option α} (h : exchange.tells α = some told) :
    lastTold α (calls ++ [exchange]) = told := by
  rw [lastTold_append, List.filterMap_cons_some h]
  rfl

/-- Exchanges that tell nothing leave what was told last. -/
theorem lastTold_append_of_untold (h : ∀ exchange ∈ trace, exchange.tells α = none) :
    lastTold α (calls ++ trace) = lastTold α calls := by
  rw [lastTold_append, List.filterMap_eq_nil_iff.mpr h]
  rfl

end

namespace Persisted

variable {α : Type} [Record α] {record : Persisted α} {calls trace : List Exchange} {store : Store}

/-- The bytes hold what is remembered of them, usable or not. -/
def Kept (record : Persisted α) (store : Store) : Prop :=
  ∀ value, record.saved = some value → ∃ bytes, store.bytes (Record.key α) = some bytes ∧
    Record.decodeRaw (bytes.take recordCapacity) = .ok value

/-- A usable value that is remembered can be read again. -/
theorem Kept.stored (h : record.Kept store) (hsaved : record.saved = some record.value)
    (husable : Record.Usable record.value) : record.Stored store := by
  obtain ⟨bytes, hbytes, hraw⟩ := h _ hsaved
  exact ⟨record.value, bytes, hsaved, hbytes, Record.decode_eq_ok_iff.mpr ⟨hraw, husable⟩⟩

/-- Calls that have nothing to do with the record leave its bytes alone. -/
theorem bytes_after_of_not_concerns
    (h : ∀ exchange ∈ calls, exchange.call.concerns (Record.key α) = false) :
    (store.after calls).bytes (Record.key α) = store.bytes (Record.key α) := by
  induction calls generalizing store with
  | nil => rfl
  | cons exchange calls ih =>
    obtain ⟨hfirst, hrest⟩ := List.forall_mem_cons.mp h
    show ((store.next exchange).after calls).bytes (Record.key α) = store.bytes (Record.key α)
    rw [ih hrest]
    obtain ⟨call, answer⟩ := exchange
    cases call with
    | writeRecord key bytes =>
      cases answer with
      | ok done => exact store.bytes_put_of_ne bytes (Ne.symm (beq_eq_false_iff_ne.mp hfirst))
      | error error => rfl
    | _ => rfl

variable [DecidableEq α]

omit [Record α] in
/-- A record has unwritten changes just where its value is not the one remembered as stored. -/
theorem isDirty_iff : record.isDirty = true ↔ record.saved ≠ some record.value := decide_eq_true_iff

omit [Record α] in
/-- It has none just where its value is the one remembered. -/
theorem isDirty_eq_false_iff : record.isDirty = false ↔ record.saved = some record.value := by
  rw [← Bool.not_eq_true, isDirty_iff, ne_eq, not_not]

/-- What a record in memory can be after the calls. A load begins anew, whatever was called before it. -/
inductive Handled : List Exchange → Persisted α → Prop where
  | create (value : α) : Handled [] { value }
  | load {earlier trace : List Exchange} {record : Persisted α} {outcome : LoadOutcome} :
      Path (load α) trace (record, outcome) → Handled (earlier ++ trace) record
  | change {calls : List Exchange} {record : Persisted α} (value : α) : Handled calls record →
      Handled calls { record with value }
  | flush {calls trace : List Exchange} {record flushed : Persisted α} {written : Except StorageError Bool} :
      Handled calls record → Path record.flush trace (written, flushed) → Handled (calls ++ trace) flushed
  | others {calls others : List Exchange} {record : Persisted α} : Handled calls record →
      (∀ exchange ∈ others, exchange.call.concerns (Record.key α) = false) → Handled (calls ++ others) record

/-- What a load can come to: the usable value in the bytes, or the factory value for the reason that there is none. -/
inductive ComesTo (store : Store) (trace : List Exchange) : Persisted α → LoadOutcome → Prop where
  | found {value : α} : store.Holds value → Record.Usable value →
      ComesTo store trace { value, saved := some value } .loaded
  | unread {record : Persisted α} {reason : StorageError} : record.value = Record.factory →
      ⟨.readRecord (Record.key α), .error reason⟩ ∈ trace → ComesTo store trace record (.reset reason)
  | refused {record : Persisted α} {reason : StorageError} {bytes : Bytes} : record.value = Record.factory →
      store.bytes (Record.key α) = some bytes →
      (Record.decode (α := α) (bytes.take recordCapacity)).value = .error reason →
      ComesTo store trace record (.reset reason)

/-- Over an honest store, a load comes to what the bytes allow. -/
theorem comesTo_of_load {outcome : LoadOutcome} (hpath : Path (load α) trace (record, outcome))
    (hhonest : store.Honest trace) : ComesTo store trace record outcome := by
  cases loadsAs_of_load hpath with
  | @found answer value hread =>
    obtain ⟨bytes, rfl, hdecode⟩ := reads_iff.mpr hread
    exact .found ⟨bytes, hhonest.1 (_, bytes) rfl, hdecode⟩ (Record.usable_of_decode hdecode)
  | @replaced answer reason rest written _ hread hinstalled =>
    have hfactory := value_of_flush hinstalled
    cases answer with
    | error error =>
      cases hread
      exact .unread hfactory List.mem_cons_self
    | ok bytes => exact .refused hfactory (hhonest.1 (_, bytes) rfl) hread

/-! ## What is remembered -/

variable [Record.Lawful α]

/-- A flush remembers what its call tells. -/
theorem saved_of_flush_told {flushed : Persisted α} {written : Except StorageError Bool}
    (hpath : Path record.flush trace (written, flushed)) (hsaved : record.saved = lastTold α calls) :
    flushed.saved = lastTold α (calls ++ trace) := by
  cases flushesAs_of_flush hpath with
  | clean _ =>
    rw [List.append_nil]
    exact hsaved
  | stored _ => exact (lastTold_append_of_tells (Exchange.tells_written record.value)).symm
  | failed error _ =>
    have huntold : ∀ exchange ∈ [(⟨.writeRecord (Record.key α) (Record.encode record.value), .error error⟩ : Exchange)],
        exchange.tells α = none := List.forall_mem_singleton.mpr rfl
    rw [lastTold_append_of_untold huntold]
    exact hsaved

/-- After a load, what is remembered is what was told last. -/
theorem saved_of_load_told {outcome : LoadOutcome} (hpath : Path (load α) trace (record, outcome)) :
    record.saved = lastTold α (calls ++ trace) := by
  cases loadsAs_of_load hpath with
  | found hread =>
    rw [lastTold_append_of_tells (Exchange.tells_read _), hread]
    rfl
  | replaced hread hinstalled =>
    rw [List.append_cons]
    refine saved_of_flush_told hinstalled ?_
    rw [lastTold_append_of_tells (Exchange.tells_read _), hread]
    rfl

/-- What is remembered of storage is what the calls told last. -/
theorem Handled.saved_eq (h : Handled calls record) : record.saved = lastTold α calls := by
  induction h with
  | create value => rfl
  | load hpath => exact saved_of_load_told hpath
  | change value _ ih => exact ih
  | flush _ hpath ih => exact saved_of_flush_told hpath ih
  | others _ hothers ih =>
    rw [lastTold_append_of_untold fun exchange hmem => Exchange.tells_of_not_concerns (hothers exchange hmem)]
    exact ih

/-! ## What the bytes hold -/

/-- A write leaves the bytes holding what is remembered of them, whether or not it succeeds. -/
theorem kept_of_flush {flushed : Persisted α} {written : Except StorageError Bool}
    (hpath : Path record.flush trace (written, flushed)) (hkept : record.Kept store) :
    flushed.Kept (store.after trace) := by
  cases flushesAs_of_flush hpath with
  | clean _ => exact hkept
  | stored _ =>
    intro value hsaved
    obtain rfl := Option.some.inj hsaved
    refine ⟨_, store.bytes_put_self _ _, ?_⟩
    rw [List.take_of_length_le (Record.length_encode_le record.value)]
    exact Record.decodeRaw_encode record.value
  | failed error _ => exact hkept

/-- A load remembers what the bytes hold. -/
theorem kept_of_load {outcome : LoadOutcome} (hpath : Path (load α) trace (record, outcome))
    (hhonest : store.Honest trace) : record.Kept (store.after trace) := by
  cases loadsAs_of_load hpath with
  | @found answer value hread =>
    obtain ⟨bytes, rfl, hdecode⟩ := reads_iff.mpr hread
    intro other hsaved
    obtain rfl := Option.some.inj hsaved
    exact ⟨bytes, hhonest.1 (_, bytes) rfl, (Record.decode_eq_ok_iff.mp hdecode).1⟩
  | @replaced answer reason rest written _ hread hinstalled =>
    have hnothing : Kept ({ value := Record.factory } : Persisted α) store := fun _ hsaved => by cases hsaved
    have hread : store.after (⟨.readRecord (Record.key α), answer⟩ :: rest) = store.after rest := rfl
    rw [hread]
    exact kept_of_flush hinstalled hnothing

/-- However often writes failed, the bytes hold what is remembered of them. -/
theorem Handled.kept (h : Handled calls record) (hhonest : store.Honest calls) : record.Kept (store.after calls) := by
  induction h with
  | create value => exact fun _ hsaved => by cases hsaved
  | load hpath =>
    obtain ⟨_, hlater⟩ := Store.honest_append.mp hhonest
    rw [Store.after_append]
    exact kept_of_load hpath hlater
  | change value _ ih => exact ih hhonest
  | flush _ hpath ih =>
    obtain ⟨hearlier, _⟩ := Store.honest_append.mp hhonest
    rw [Store.after_append]
    exact kept_of_flush hpath (ih hearlier)
  | others _ hothers ih =>
    obtain ⟨hearlier, _⟩ := Store.honest_append.mp hhonest
    rw [Store.after_append]
    intro value hsaved
    rw [bytes_after_of_not_concerns hothers]
    exact ih hearlier value hsaved

/-! ## A record and its storage -/

/-- The calls are the attempt to write the record, which is made where the record has unwritten changes. -/
def Attempts (record : Persisted α) (trace : List Exchange) : Prop :=
  if record.isDirty then ∃ answer, trace = [⟨.writeRecord (Record.key α) (Record.encode record.value), answer⟩]
  else trace = []

/-- A flush is the attempt to write the record, and nothing else. -/
theorem attempts_of_flush {flushed : Persisted α} {written : Except StorageError Bool}
    (hpath : Path record.flush trace (written, flushed)) : record.Attempts trace := by
  unfold Attempts
  cases flushesAs_of_flush hpath with
  | clean hsaved => rw [if_neg (Bool.not_eq_true _ ▸ isDirty_eq_false_iff.mpr hsaved)]
  | stored hchanged =>
    rw [if_pos (isDirty_iff.mpr hchanged)]
    exact ⟨_, rfl⟩
  | failed error hchanged =>
    rw [if_pos (isDirty_iff.mpr hchanged)]
    exact ⟨_, rfl⟩

/-- What is left unwritten was tried. -/
theorem failedWrite_mem_of_isDirty {flushed : Persisted α} {written : Except StorageError Bool}
    (hpath : Path record.flush trace (written, flushed)) (hdirty : flushed.isDirty = true) :
    ∃ error, ⟨.writeRecord (Record.key α) (Record.encode flushed.value), .error error⟩ ∈ trace := by
  have hchanged := isDirty_iff.mp hdirty
  cases flushesAs_of_flush hpath with
  | clean hsaved => exact absurd hsaved hchanged
  | stored _ => exact absurd rfl hchanged
  | failed error _ => exact ⟨error, List.mem_singleton_self _⟩

/-- A record in memory keeps up with its storage, over any store and through any failures of it. -/
structure TracksStorage (α : Type) [Record α] [DecidableEq α] : Prop where
  load_comesTo : ∀ {record : Persisted α} {outcome : LoadOutcome} {trace : List Exchange} {store : Store},
    Path (load α) trace (record, outcome) → store.Honest trace → ComesTo store trace record outcome
  /-- Without unwritten changes the bytes hold the value, and are read as it where it can be used. -/
  clean : ∀ {record : Persisted α} {calls : List Exchange} {store : Store}, Handled calls record →
    store.Honest calls → record.isDirty = false →
      (∃ bytes, (store.after calls).bytes (Record.key α) = some bytes ∧
        Record.decodeRaw (bytes.take recordCapacity) = .ok record.value) ∧
      (Record.Usable record.value → (store.after calls).Holds record.value)
  /-- There are unwritten changes where the value is not the one last read or written. -/
  isDirty_iff : ∀ {record : Persisted α} {calls : List Exchange}, Handled calls record →
    (record.isDirty = true ↔ lastTold α calls ≠ some record.value)
  attempts : ∀ {record flushed : Persisted α} {written : Except StorageError Bool} {trace : List Exchange},
    Path record.flush trace (written, flushed) → record.Attempts trace
  /-- After a failure there are the same unwritten changes, and the next flush attempts the same. -/
  retries : ∀ {record flushed : Persisted α} {error : StorageError} {trace : List Exchange},
    Path record.flush trace (.error error, flushed) → flushed = record ∧ flushed.isDirty = true ∧
      ∀ {again : List Exchange} {retried : Except StorageError Bool} {later : Persisted α},
        Path flushed.flush again (retried, later) →
          ∃ answer, again = [⟨.writeRecord (Record.key α) (Record.encode record.value), answer⟩]
  /-- After a success there are none, and a load comes to the value if it can be used. -/
  reloads : ∀ {record flushed : Persisted α} {wrote : Bool} {calls trace : List Exchange} {store : Store},
    Handled calls record → store.Honest calls → Path record.flush trace (.ok wrote, flushed) →
      flushed.value = record.value ∧ flushed.isDirty = false ∧
        (Record.Usable record.value → (store.after (calls ++ trace)).Yields (load α) (flushed, .loaded))

/-- A record in memory keeps up with its storage. -/
theorem tracksStorage : TracksStorage α where
  load_comesTo := comesTo_of_load
  clean := by
    intro record calls store hhandled hhonest hclean
    have hsaved := isDirty_eq_false_iff.mp hclean
    have hkept := hhandled.kept hhonest
    refine ⟨hkept _ hsaved, fun husable => ?_⟩
    obtain ⟨value, bytes, hvalue, hbytes, hdecode⟩ := hkept.stored hsaved husable
    obtain rfl := Option.some.inj (hsaved.symm.trans hvalue)
    exact ⟨bytes, hbytes, hdecode⟩
  isDirty_iff := by
    intro record calls hhandled
    rw [isDirty_iff, hhandled.saved_eq]
  attempts := attempts_of_flush
  retries := by
    intro record flushed error trace hpath
    cases flushesAs_of_flush hpath with
    | failed error hchanged =>
      have hdirty := isDirty_iff.mpr hchanged
      refine ⟨rfl, hdirty, fun hagain => ?_⟩
      have hattempts := attempts_of_flush hagain
      rwa [Attempts, if_pos hdirty] at hattempts
  reloads := by
    intro record flushed wrote calls trace store hhandled hhonest hpath
    have hvalue := value_of_flush hpath
    have hsaved : flushed.saved = some flushed.value := by
      cases flushesAs_of_flush hpath with
      | clean hsaved => exact hsaved
      | stored _ => rfl
    refine ⟨hvalue, isDirty_eq_false_iff.mpr hsaved, fun husable => ?_⟩
    have hkept : flushed.Kept (store.after (calls ++ trace)) := by
      rw [Store.after_append]
      exact kept_of_flush hpath (hhandled.kept hhonest)
    rw [← hvalue] at husable
    exact yields_load (hkept.stored hsaved husable) hsaved

end Persisted

/-! ## Two records that share a store -/

/-- A write that failed is no matter to the other record. -/
structure Controller.WritesApart : Prop where
  flush : ∀ {c after : Controller} {trace : List Exchange}, Path (Controller.flush.run c) trace ((), after) →
    ∃ first second, trace = first ++ second ∧ c.config.Attempts first ∧ c.status.Attempts second
  /-- A tick leaves a record with unwritten changes only where it tried to write them and that failed. -/
  tick : ∀ {c after : Controller} {trace : List Exchange} {control : Control},
    Path (Controller.tick.run c) trace (control, after) →
      (after.config.isDirty = true → ∃ error,
        ⟨.writeRecord .config (Record.encode after.config.value), .error error⟩ ∈ trace) ∧
      (after.status.isDirty = true → ∃ error,
        ⟨.writeRecord .status (Record.encode after.status.value), .error error⟩ ∈ trace)

/-- A write that failed is no matter to the other record. -/
theorem Controller.writesApart : Controller.WritesApart where
  flush := by
    intro c after trace hpath
    obtain ⟨first, _, _, second, _, _, hconfig, hstatus, rfl, _⟩ := flush_cases hpath
    exact ⟨first, second, rfl, Persisted.attempts_of_flush hconfig, Persisted.attempts_of_flush hstatus⟩
  tick := by
    intro c after trace control hpath
    obtain ⟨before, closing, ready, _, hflush, rfl⟩ := effects_tick hpath
    obtain ⟨first, _, config, second, _, status, hconfig, hstatus, rfl, rfl⟩ := flush_cases hflush
    constructor
    · intro hdirty
      obtain ⟨error, hmem⟩ := Persisted.failedWrite_mem_of_isDirty hconfig hdirty
      exact ⟨error, List.mem_append_right _ (List.mem_append_left _ hmem)⟩
    · intro hdirty
      obtain ⟨error, hmem⟩ := Persisted.failedWrite_mem_of_isDirty hstatus hdirty
      exact ⟨error, List.mem_append_right _ (List.mem_append_right _ hmem)⟩

/-- Either record in memory keeps up with its storage through whatever is done with it and whatever fails, and
neither is kept from storage by a failure to write the other. -/
theorem records_tracked :
    Persisted.TracksStorage DeviceConfig ∧ Persisted.TracksStorage RuntimeStatus ∧ Controller.WritesApart :=
  ⟨Persisted.tracksStorage, Persisted.tracksStorage, Controller.writesApart⟩

end FieldCounter
