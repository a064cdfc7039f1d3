import FieldCounter.Device.Program
import FieldCounter.Record

/-!
# Records in memory and in storage

A record is held in memory beside the value last known to be in storage, so that only changes are
written. A record that cannot be read, or whose value is unusable, is replaced by its factory value,
which is written back at once.
-/

namespace FieldCounter

/-- A record in memory, and the value last read from storage or written to it. -/
structure Persisted (α : Type) where
  value : α
  saved : Option α := none
deriving DecidableEq, Repr, Inhabited

/-- How a record came into memory. -/
inductive LoadOutcome where
  | loaded
  /-- The factory value was installed for the given reason. -/
  | reset (reason : StorageError)
deriving DecidableEq, Repr

namespace Persisted

variable {α : Type} [Record α] [DecidableEq α]

/-- The value differs from the one in storage, or nothing is known of storage. -/
def isDirty (record : Persisted α) : Bool := record.saved ≠ some record.value

/-- Write the record if it changed; whether it was written. A failure leaves it changed. -/
def flush (record : Persisted α) : Program (Except StorageError Bool × Persisted α) := do
  if !record.isDirty then
    return (.ok false, record)
  match Record.encodeWithin recordCapacity record.value with
  | .error error => return (.error error, record)
  | .ok bytes =>
    match ← call (.writeRecord (Record.key α) bytes) with
    | .error error => return (.error error, record)
    | .ok () => return (.ok true, { record with saved := some record.value })

/-- Read the stored value; no more bytes count than a record can have. -/
def readStored : Program (Except StorageError α) := do
  match ← call (.readRecord (Record.key α)) with
  | .error error => return .error error
  | .ok bytes => Record.decode (bytes.take recordCapacity)

/-- Install the factory value and write it back. -/
def installFactory (α : Type) [Record α] [DecidableEq α] : Program (Persisted α) := do
  let (written, record) ← flush { value := (Record.factory : α) }
  if let .error error := written then
    note .error .storage s!" Failed to write default {(Record.key α).name}: {error.message}"
  return record

/-- Read the record, or install its factory value. -/
def load (α : Type) [Record α] [DecidableEq α] : Program (Persisted α × LoadOutcome) := do
  match ← readStored with
  | .ok (value : α) =>
    note .debug .storage s!" Loaded record {(Record.key α).name}"
    return ({ value, saved := some value }, .loaded)
  | .error reason =>
    match reason with
    | .missing _ => note .info .storage s!" Record {(Record.key α).name} not found, using defaults"
    | _ =>
      note .warn .storage s!" Record {(Record.key α).name} invalid ({reason.message}), reset to defaults"
    return (← installFactory α, .reset reason)

end Persisted

end FieldCounter
