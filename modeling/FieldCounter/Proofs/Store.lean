import FieldCounter.Proofs.Calls
import FieldCounter.Proofs.Online

/-!
# A store for the records

A store serves a list of calls when every write succeeds and every read gets the bytes last written,
or an error where there are none. Nothing is said about the other devices, and nothing about the
bytes the store holds at first. Over such a store a flush leaves the value in storage, and a record
that was stored and is usable is loaded as it was.
-/

namespace FieldCounter

open Program

/-- The stored bytes of every record that was ever written. -/
structure Store where
  bytes : RecordKey → Option Bytes

namespace Store

/-- The store with new bytes for one record. -/
def put (store : Store) (key : RecordKey) (bytes : Bytes) : Store :=
  ⟨fun other => if other = key then some bytes else store.bytes other⟩

/-- What was put is found. -/
@[simp] theorem bytes_put_self (store : Store) (key : RecordKey) (bytes : Bytes) :
    (store.put key bytes).bytes key = some bytes := if_pos rfl

/-- Other records are found as they were. -/
theorem bytes_put_of_ne (store : Store) {key other : RecordKey} (bytes : Bytes) (h : other ≠ key) :
    (store.put key bytes).bytes other = store.bytes other := if_neg h

/-- The store can give the answer, and is the second one afterwards. -/
def Answers (store : Store) : Exchange → Store → Prop
  | ⟨.readRecord key, answer⟩, after => after = store ∧
    match store.bytes key with
    | some bytes => answer = .ok bytes
    | none => ∃ error, answer = .error error
  | ⟨.writeRecord key bytes, answer⟩, after => answer = .ok () ∧ after = store.put key bytes
  | _, after => after = store

/-- The store can give all the answers in turn, and is the second one afterwards. -/
inductive Serves : Store → List Exchange → Store → Prop where
  | nil (store : Store) : Serves store [] store
  | cons {store between after : Store} {exchange : Exchange} {rest : List Exchange} :
      store.Answers exchange between → Serves between rest after → Serves store (exchange :: rest) after

variable {store after : Store}

/-- Without a call the store stays as it is. -/
theorem serves_nil_iff : store.Serves [] after ↔ after = store := by
  constructor
  · intro h
    cases h
    rfl
  · rintro rfl
    exact .nil after

/-- A store serves the first call and then the others. -/
theorem serves_cons_iff {exchange : Exchange} {rest : List Exchange} :
    store.Serves (exchange :: rest) after ↔
      ∃ between, store.Answers exchange between ∧ between.Serves rest after := by
  constructor
  · intro h
    cases h with
    | cons hanswers hrest => exact ⟨_, hanswers, hrest⟩
  · rintro ⟨between, hanswers, hrest⟩
    exact .cons hanswers hrest

/-- To serve a single call is to answer it. -/
theorem serves_singleton_iff {exchange : Exchange} :
    store.Serves [exchange] after ↔ store.Answers exchange after := by
  rw [serves_cons_iff]
  constructor
  · rintro ⟨between, hanswers, hrest⟩
    rwa [serves_nil_iff.mp hrest]
  · intro hanswers
    exact ⟨after, hanswers, .nil after⟩

/-- A list of calls is served in parts. -/
theorem serves_append_iff {trace rest : List Exchange} :
    store.Serves (trace ++ rest) after ↔ ∃ between, store.Serves trace between ∧ between.Serves rest after := by
  induction trace generalizing store with
  | nil =>
    constructor
    · intro h
      exact ⟨store, .nil store, h⟩
    · rintro ⟨between, hnil, hrest⟩
      rwa [serves_nil_iff.mp hnil] at hrest
  | cons exchange trace ih =>
    constructor
    · intro h
      obtain ⟨next, hanswers, hserves⟩ := serves_cons_iff.mp h
      obtain ⟨between, htrace, hrest⟩ := ih.mp hserves
      exact ⟨between, .cons hanswers htrace, hrest⟩
    · rintro ⟨between, htrace, hrest⟩
      obtain ⟨next, hanswers, hserves⟩ := serves_cons_iff.mp htrace
      exact .cons hanswers (ih.mpr ⟨between, hserves, hrest⟩)

/-- A call that touches no record leaves the store as it is. -/
theorem Answers.eq_of_untouched {exchange : Exchange} (h : store.Answers exchange after)
    (huntouched : exchange.call.touchesRecord = false) : after = store := by
  obtain ⟨call, answer⟩ := exchange
  cases call with
  | readRecord key => cases huntouched
  | writeRecord key bytes => cases huntouched
  | _ => exact h

/-- So do any number of such calls. -/
theorem Serves.eq_of_untouched {trace : List Exchange} (h : store.Serves trace after)
    (huntouched : ∀ exchange ∈ trace, exchange.call.touchesRecord = false) : after = store := by
  induction h with
  | nil store => rfl
  | cons hanswers _ ih =>
    have hfirst := hanswers.eq_of_untouched (huntouched _ List.mem_cons_self)
    have hrest := ih fun exchange hmem => huntouched exchange (List.mem_cons_of_mem _ hmem)
    rw [hrest, hfirst]

/-- Over the store the program comes to the value, and to no other, and leaves the store as it is. -/
structure Yields {α : Type} (store : Store) (x : Program α) (a : α) : Prop where
  reached : ∃ trace, Path x trace a ∧ store.Serves trace store
  only : ∀ ⦃trace b after⦄, Path x trace b → store.Serves trace after → b = a ∧ after = store

variable {α β : Type}

/-- A value on its own is what it comes to. -/
theorem yields_pure (store : Store) (a : α) : store.Yields (pure a) a where
  reached := ⟨[], .done a, .nil store⟩
  only := by
    intro trace b after hpath hserves
    obtain ⟨rfl, hb⟩ := path_done_iff.mp hpath
    exact ⟨hb, serves_nil_iff.mp hserves⟩

/-- Writing notes needs no store. -/
theorem yields_logged (store : Store) (x : Logged α) : store.Yields (liftM x) x.value where
  reached := ⟨[], path_ofLogged_iff.mpr ⟨rfl, rfl⟩, .nil store⟩
  only := by
    intro trace b after hpath hserves
    obtain ⟨rfl, hb⟩ := path_ofLogged_iff.mp hpath
    exact ⟨hb, serves_nil_iff.mp hserves⟩

/-- A record that was written is read as it was written. -/
theorem yields_read {key : RecordKey} {bytes : Bytes} (h : store.bytes key = some bytes) :
    store.Yields (call (.readRecord key)) (.ok bytes) where
  reached := by
    have hanswers : store.Answers ⟨.readRecord key, .ok bytes⟩ store := by
      refine ⟨rfl, ?_⟩
      rw [h]
    exact ⟨_, .ask (.done _), serves_singleton_iff.mpr hanswers⟩
  only := by
    intro trace answer after hpath hserves
    obtain ⟨given, rest, rfl, hdone⟩ := path_ask_iff.mp hpath
    obtain ⟨rfl, hanswer⟩ := path_done_iff.mp hdone
    obtain ⟨hsame, hgiven⟩ := serves_singleton_iff.mp hserves
    rw [h] at hgiven
    exact ⟨hanswer.trans hgiven, hsame⟩

/-- What follows goes on with the value that what comes first yields. -/
theorem Yields.bind {x : Program α} {f : α → Program β} {a : α} {b : β} (hx : store.Yields x a)
    (hf : store.Yields (f a) b) : store.Yields (x >>= f) b where
  reached := by
    obtain ⟨first, hfirst, hserves⟩ := hx.reached
    obtain ⟨second, hsecond, hrest⟩ := hf.reached
    exact ⟨first ++ second, path_bind_iff.mpr ⟨a, first, second, hfirst, hsecond, rfl⟩,
      serves_append_iff.mpr ⟨store, hserves, hrest⟩⟩
  only := by
    intro trace other after hpath hserves
    obtain ⟨value, first, second, hfirst, hsecond, rfl⟩ := path_bind_iff.mp hpath
    obtain ⟨between, hserve, hrest⟩ := serves_append_iff.mp hserves
    obtain ⟨rfl, rfl⟩ := hx.only hfirst hserve
    exact hf.only hsecond hrest

end Store

/-! ## Stored records -/

/-- The value that a load comes to: the one in storage, or the factory value where there is none that
can be used. -/
def Store.found {α : Type} [Record α] (store : Store) : α :=
  match store.bytes (Record.key α) with
  | none => Record.factory
  | some bytes =>
    match (Record.decode (bytes.take recordCapacity)).value with
    | .ok value => value
    | .error _ => Record.factory

/-- What is found of a record depends on its bytes alone. -/
theorem Store.found_of_bytes_eq {α : Type} [Record α] {store after : Store}
    (h : after.bytes (Record.key α) = store.bytes (Record.key α)) : (after.found : α) = store.found := by
  unfold found
  rw [h]

namespace Persisted

variable {α : Type} [Record α] {record : Persisted α} {store after : Store}

/-- The store holds the value last known to be stored. -/
def Stored (record : Persisted α) (store : Store) : Prop :=
  ∃ value bytes, record.saved = some value ∧ store.bytes (Record.key α) = some bytes ∧
    (Record.decode (bytes.take recordCapacity)).value = .ok value

/-- A record in storage is found there as long as its bytes are left alone. -/
theorem Stored.of_bytes_eq (h : record.Stored store)
    (hbytes : after.bytes (Record.key α) = store.bytes (Record.key α)) : record.Stored after := by
  obtain ⟨value, bytes, hsaved, hstored, hdecode⟩ := h
  exact ⟨value, bytes, hsaved, hbytes.trans hstored, hdecode⟩

/-- What is in storage is no matter of the value in memory. -/
theorem Stored.of_saved_eq {other : Persisted α} (h : record.Stored store) (hsaved : other.saved = record.saved) :
    other.Stored store := by
  obtain ⟨value, bytes, hvalue, hstored⟩ := h
  exact ⟨value, bytes, hsaved.trans hvalue, hstored⟩

/-- A record without unwritten changes is what is found in storage. -/
theorem found_of_stored (hstored : record.Stored store) (hsaved : record.saved = some record.value) :
    store.found = record.value := by
  obtain ⟨value, bytes, hvalue, hbytes, hdecode⟩ := hstored
  have hsame : record.value = value := Option.some.inj (hsaved.symm.trans hvalue)
  simp only [Store.found, hbytes, hdecode, hsame]

/-- The answer to a read holds the usable value. -/
def Reads (answer : Except StorageError Bytes) (value : α) : Prop :=
  ∃ bytes, answer = .ok bytes ∧ (Record.decode (bytes.take recordCapacity)).value = .ok value

/-- What the answer to a read comes to: the failure of the read, or what the bytes that count are read as. -/
def readAs : Except StorageError Bytes → Except StorageError α
  | .error error => .error error
  | .ok bytes => (Record.decode (bytes.take recordCapacity)).value

/-- An answer holds the usable value just where it is read as that. -/
theorem reads_iff {answer : Except StorageError Bytes} {value : α} : Reads answer value ↔ readAs answer = .ok value := by
  constructor
  · rintro ⟨bytes, rfl, hdecode⟩
    exact hdecode
  · intro h
    cases answer with
    | error error => cases h
    | ok bytes => exact ⟨bytes, rfl, h⟩

/-- What is read is what the answer comes to. -/
theorem ensures_readStored :
    (readStored (α := α)).Ensures fun trace result =>
      ∃ answer, trace = [⟨.readRecord (Record.key α), answer⟩] ∧ result = readAs answer := by
  unfold readStored
  rw [ensures_bind, ensures_call]
  intro answer
  cases answer with
  | error error => exact ensures_pure.mpr ⟨.error error, rfl, rfl⟩
  | ok bytes => exact ensures_logged.mpr ⟨.ok bytes, rfl, rfl⟩

variable [DecidableEq α]

/-- A flush leaves the value in memory as it is. -/
theorem value_of_flush {trace : List Exchange} {written : Except StorageError Bool} {flushed : Persisted α}
    (h : Path record.flush trace (written, flushed)) : flushed.value = record.value := by
  have hvalue : record.flush.Ensures fun _ result => result.2.value = record.value := by
    unfold flush
    rw [ensures_ite]
    constructor
    · intro _
      exact ensures_pure.mpr rfl
    · intro _
      split
      · exact ensures_pure.mpr rfl
      · rw [ensures_bind, ensures_call]
        intro answer
        cases answer with
        | error error => exact ensures_pure.mpr rfl
        | ok done => exact ensures_pure.mpr rfl
  exact hvalue h

/-- Installing the factory value is flushing it. -/
theorem ensures_installFactory :
    (installFactory α).Ensures fun trace installed =>
      ∃ written, Path (flush { value := Record.factory }) trace (written, installed) := by
  refine ensures_bind.mpr fun trace result hpath => ?_
  obtain ⟨written, installed⟩ := result
  cases written with
  | ok done =>
    rw [ensures_pure, List.append_nil]
    exact ⟨.ok done, hpath⟩
  | error error =>
    rw [ensures_logged_bind, ensures_pure, List.append_nil]
    exact ⟨.error error, hpath⟩

/-- What a load reads, what it comes to and how it says that it came about. -/
inductive LoadsAs : List Exchange → Persisted α → LoadOutcome → Prop where
  /-- The value that was read is known to be stored. -/
  | found {answer : Except StorageError Bytes} {value : α} : readAs answer = .ok value →
      LoadsAs [⟨.readRecord (Record.key α), answer⟩] { value, saved := some value } .loaded
  /-- Where none was read, the factory value is installed and the failure is the reason. -/
  | replaced {answer : Except StorageError Bytes} {reason : StorageError} {rest : List Exchange}
      {written : Except StorageError Bool} {record : Persisted α} : readAs (α := α) answer = .error reason →
      Path (flush { value := Record.factory }) rest (written, record) →
      LoadsAs (⟨.readRecord (Record.key α), answer⟩ :: rest) record (.reset reason)

/-- Whatever storage answers, a load goes one of these ways. -/
theorem loadsAs_of_load {trace : List Exchange} {outcome : LoadOutcome} (h : Path (load α) trace (record, outcome)) :
    LoadsAs trace record outcome := by
  have hloads : (load α).Ensures fun trace result => LoadsAs trace result.1 result.2 := by
    unfold load
    rw [ensures_bind]
    refine ensures_readStored.mono fun reading result hread => ?_
    obtain ⟨answer, rfl, hresult⟩ := hread
    split
    · rw [ensures_logged_bind, ensures_pure]
      exact .found hresult.symm
    · rename_i reason
      extract_lets rest
      have hrest : (rest ()).Ensures fun after result =>
          LoadsAs (⟨.readRecord (Record.key α), answer⟩ :: after) result.1 result.2 := by
        rw [ensures_bind]
        refine ensures_installFactory.mono fun installing installed hinstalled => ?_
        obtain ⟨written, hinstalled⟩ := hinstalled
        rw [ensures_pure, List.append_nil]
        exact .replaced hresult.symm hinstalled
      split <;> exact ensures_logged_bind.mpr hrest
  exact hloads h

/-- A load reads the bytes, and takes the value in them or installs the factory value. -/
theorem load_cases {trace : List Exchange} {outcome : LoadOutcome}
    (h : Path (load α) trace (record, outcome)) :
    ∃ answer rest, trace = ⟨.readRecord (Record.key α), answer⟩ :: rest ∧
      ((∃ value, Reads answer value ∧ rest = [] ∧ record = { value, saved := some value } ∧ outcome = .loaded) ∨
        ((∀ value : α, ¬Reads answer value) ∧
          ∃ written, Path (flush { value := Record.factory }) rest (written, record))) := by
  cases loadsAs_of_load h with
  | found hread => exact ⟨_, [], rfl, .inl ⟨_, reads_iff.mpr hread, rfl, rfl, rfl⟩⟩
  | replaced hread hinstalled =>
    refine ⟨_, _, rfl, .inr ⟨fun value hreads => ?_, _, hinstalled⟩⟩
    rw [reads_iff, hread] at hreads
    cases hreads

/-- What a load comes to is found in storage, where it was told what the store holds. -/
theorem value_of_told {answer : Except StorageError Bytes} {rest : List Exchange} {outcome : LoadOutcome}
    (hread : (∃ value, Reads answer value ∧ rest = [] ∧ record = { value, saved := some value } ∧ outcome = .loaded) ∨
      ((∀ value : α, ¬Reads answer value) ∧
        ∃ written, Path (flush { value := Record.factory }) rest (written, record)))
    (htold : match store.bytes (Record.key α) with
      | some bytes => answer = .ok bytes
      | none => ∃ error, answer = .error error) : record.value = store.found := by
  unfold Store.found
  cases hbytes : store.bytes (Record.key α) with
  | none =>
    rw [hbytes] at htold
    obtain ⟨error, rfl⟩ := htold
    obtain ⟨_, ⟨_, herror, _⟩, _⟩ | ⟨_, written, hinstalled⟩ := hread
    · cases herror
    · exact value_of_flush hinstalled
  | some bytes =>
    rw [hbytes] at htold
    obtain ⟨value, ⟨read, hbytes, hdecode⟩, _, rfl, _⟩ | ⟨hnone, written, hinstalled⟩ := hread
    · rw [htold] at hbytes
      rw [← Except.ok.inj hbytes] at hdecode
      simp only [hdecode]
    · cases hdecode : (Record.decode (α := α) (bytes.take recordCapacity)).value with
      | error reason => simpa only [hdecode] using value_of_flush hinstalled
      | ok value => exact absurd ⟨bytes, htold, hdecode⟩ (hnone value)

/-- A load comes to what is found in storage. -/
theorem found_of_load {trace : List Exchange} {outcome : LoadOutcome}
    (hpath : Path (load α) trace (record, outcome)) (hserves : store.Serves trace after) :
    record.value = store.found := by
  obtain ⟨answer, rest, rfl, hread⟩ := load_cases hpath
  obtain ⟨between, ⟨_, hanswer⟩, _⟩ := Store.serves_cons_iff.mp hserves
  exact value_of_told hread hanswer

/-- A stored record without unwritten changes is loaded as it is, and never replaced. -/
theorem yields_load (hstored : record.Stored store) (hsaved : record.saved = some record.value) :
    store.Yields (load α) (record, .loaded) := by
  obtain ⟨value, bytes, hvalue, hbytes, hdecode⟩ := hstored
  have hsame : record.value = value := Option.some.inj (hsaved.symm.trans hvalue)
  have hrecord : record = { value, saved := some value } := by
    rw [← hsame, ← hsaved]
  rw [hrecord]
  have hread : store.Yields (readStored (α := α)) (.ok value) := by
    have hdecoded := store.yields_logged (Record.decode (α := α) (bytes.take recordCapacity))
    rw [hdecode] at hdecoded
    exact (Store.yields_read hbytes).bind hdecoded
  have hnoted := store.yields_logged (note .debug .storage s!" Loaded record {(Record.key α).name}")
  exact hread.bind (hnoted.bind (store.yields_pure _))

variable [Record.Lawful α]

/-- What a flush calls, what it answers and what it leaves. -/
inductive FlushesAs (record : Persisted α) : List Exchange → Except StorageError Bool → Persisted α → Prop where
  /-- Nothing is done where nothing changed. -/
  | clean : record.saved = some record.value → FlushesAs record [] (.ok false) record
  /-- A value that is written is known to be stored. -/
  | stored : record.saved ≠ some record.value →
      FlushesAs record [⟨.writeRecord (Record.key α) (Record.encode record.value), .ok ()⟩] (.ok true)
        { record with saved := some record.value }
  | failed (error : StorageError) : record.saved ≠ some record.value →
      FlushesAs record [⟨.writeRecord (Record.key α) (Record.encode record.value), .error error⟩] (.error error) record

/-- Whatever storage answers, a flush goes one of these ways. -/
theorem flushesAs_of_flush {trace : List Exchange} {written : Except StorageError Bool} {flushed : Persisted α}
    (h : Path record.flush trace (written, flushed)) : FlushesAs record trace written flushed := by
  have hflushes : record.flush.Ensures fun trace result => FlushesAs record trace result.1 result.2 := by
    unfold flush
    rw [Record.encodeWithin_eq, ensures_ite]
    constructor
    · intro hclean
      rw [ensures_pure]
      exact .clean (by simpa [isDirty] using hclean)
    · intro hdirty
      have hchanged : record.saved ≠ some record.value := by simpa [isDirty] using hdirty
      dsimp only
      rw [ensures_bind, ensures_call]
      intro answer
      cases answer with
      | error error => exact ensures_pure.mpr (.failed error hchanged)
      | ok done => exact ensures_pure.mpr (.stored hchanged)
  exact hflushes h

/-- A flush does nothing where nothing changed, and otherwise writes the record and remembers whether
that succeeded. -/
theorem flush_cases {trace : List Exchange} {written : Except StorageError Bool} {flushed : Persisted α}
    (h : Path record.flush trace (written, flushed)) :
    (record.saved = some record.value ∧ trace = [] ∧ flushed = record) ∨
      (trace = [⟨.writeRecord (Record.key α) (Record.encode record.value), .ok ()⟩] ∧
        flushed = { record with saved := some record.value }) ∨
      record.saved ≠ some record.value ∧
        ∃ error, trace = [⟨.writeRecord (Record.key α) (Record.encode record.value), .error error⟩] ∧
          flushed = record := by
  cases flushesAs_of_flush h with
  | clean hsaved => exact .inl ⟨hsaved, rfl, rfl⟩
  | stored => exact .inr (.inl ⟨rfl, rfl⟩)
  | failed error hchanged => exact .inr (.inr ⟨hchanged, error, rfl, rfl⟩)

/-- A flush leaves the value in storage and the other records alone. -/
theorem stored_of_flush {trace : List Exchange} {written : Except StorageError Bool} {flushed : Persisted α}
    (hpath : Path record.flush trace (written, flushed)) (hserves : store.Serves trace after)
    (husable : Record.Usable record.value)
    (hstored : record.saved = some record.value → record.Stored store) :
    flushed = { record with saved := some record.value } ∧ flushed.Stored after ∧
      ∀ key, key ≠ Record.key α → after.bytes key = store.bytes key := by
  rcases flush_cases hpath with ⟨hsaved, rfl, hsame⟩ | ⟨rfl, hflushed⟩ | ⟨_, error, rfl, _⟩
  · have hunchanged : after = store := Store.serves_nil_iff.mp hserves
    have hvalue : record = { record with saved := some record.value } := by rw [← hsaved]
    rw [hsame, hunchanged]
    exact ⟨hvalue, hstored hsaved, fun _ _ => rfl⟩
  · have hwritten : after = store.put (Record.key α) (Record.encode record.value) :=
      (Store.serves_singleton_iff.mp hserves).2
    rw [hwritten, hflushed]
    have hbytes := store.bytes_put_self (Record.key α) (Record.encode record.value)
    exact ⟨rfl, ⟨_, _, rfl, hbytes, Record.decode_encode husable⟩, fun _ hkey => store.bytes_put_of_ne _ hkey⟩
  · cases (Store.serves_singleton_iff.mp hserves).1

/-- Over a store, whatever it holds, a record is loaded usable and as it is stored, and the other
records are left alone. -/
theorem stored_of_load {trace : List Exchange} {outcome : LoadOutcome}
    (hpath : Path (load α) trace (record, outcome)) (hserves : store.Serves trace after) :
    Record.Usable record.value ∧ record.saved = some record.value ∧ record.Stored after ∧
      ∀ key, key ≠ Record.key α → after.bytes key = store.bytes key := by
  obtain ⟨answer, rest, rfl, hloaded | ⟨_, written, hinstalled⟩⟩ := load_cases hpath
  · obtain ⟨value, ⟨bytes, rfl, hdecode⟩, rfl, rfl, _⟩ := hloaded
    have hanswers := Store.serves_singleton_iff.mp hserves
    obtain ⟨rfl, hread⟩ := hanswers
    refine ⟨Record.usable_of_decode hdecode, rfl, ?_, fun _ _ => rfl⟩
    cases hbytes : after.bytes (Record.key α) with
    | none =>
      rw [hbytes] at hread
      obtain ⟨error, herror⟩ := hread
      cases herror
    | some stored =>
      rw [hbytes] at hread
      have hsame : bytes = stored := Except.ok.inj hread
      rw [hsame] at hdecode
      exact ⟨value, stored, rfl, hbytes, hdecode⟩
  · obtain ⟨between, hanswers, hrest⟩ := Store.serves_cons_iff.mp hserves
    have hread : between = store := hanswers.1
    have hfactory : Record.Usable (Record.factory : α) := Record.Lawful.usable_factory
    obtain ⟨hvalue, hstored, hothers⟩ := stored_of_flush hinstalled hrest hfactory (fun h => by cases h)
    rw [hread] at hothers
    rw [hvalue] at hstored ⊢
    exact ⟨hfactory, rfl, hstored, hothers⟩

end Persisted

end FieldCounter
