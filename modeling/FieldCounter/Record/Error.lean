import FieldCounter.Config.Field

/-!
# Failures of stored records

Why a record could not be read or written, and the words for it.
-/

namespace FieldCounter

/-- The records that survive a reset. -/
inductive RecordKey where
  | config
  | status
deriving DecidableEq, Repr

/-- Every record. -/
def RecordKey.all : List RecordKey := [.config, .status]

/-- The name of the record. -/
def RecordKey.name : RecordKey → String
  | .config => "Config"
  | .status => "Status"

/-- Why a record could not be read or written. -/
inductive StorageError where
  /-- The record was never written. -/
  | missing (key : RecordKey)
  /-- The bytes begin with the header of another record or version. -/
  | badHeader (key : RecordKey) (magic : UInt32) (version : UInt16)
  /-- The record does not fit. -/
  | encode (key : RecordKey)
  /-- The bytes are not those of a record. -/
  | decode (key : RecordKey)
  /-- The record holds an unusable value. -/
  | outOfRange (key : RecordKey) (field : Field)
  /-- The storage itself failed. -/
  | backend (key : RecordKey) (details : String)
deriving DecidableEq, Repr

/-- A word as eight hexadecimal digits. -/
def hexWord (word : UInt32) : String :=
  let digits := String.ofList (Nat.toDigits 16 word.toNat)
  "0x" ++ "".pushn '0' (8 - digits.length) ++ digits

/-- The failure in words. -/
def StorageError.message : StorageError → String
  | .missing key => s!"record {key.name} has never been written"
  | .badHeader key magic version =>
    s!"record {key.name} header mismatch: magic {hexWord magic}, version {version}"
  | .encode key => s!"record {key.name} could not be encoded"
  | .decode key => s!"record {key.name} could not be decoded"
  | .outOfRange key field => s!"record {key.name} failed range validation: {field.name}"
  | .backend key details => s!"storage backend failed on record {key.name}: {details}"

end FieldCounter
