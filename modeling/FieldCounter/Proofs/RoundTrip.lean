import FieldCounter.Proofs.Sanity

/-!
# What is stored is what is read

Every value of either record has one stored form, which fits into the bytes set aside for it. Reading
that form back, whatever follows it, gives the value itself or the refusal of its first unusable
field, so no field can disturb another on the way.
-/

namespace FieldCounter

namespace Record

variable {α : Type} [Record α]

/-- What reading a value answers, given its first unusable field. -/
def verdict (value : α) : Option Field → Except StorageError α
  | none => .ok value
  | some field => .error (.outOfRange (key α) field)

/-- Every value of the record, usable or not, is stored and read back without loss; `firstInsane` is
its first field that would have to be repaired. -/
structure RoundTrips (firstInsane : α → Option Field) : Prop where
  length_le : ∀ value : α, (encode value).length ≤ recordCapacity
  encodes_iff : ∀ (value : α) (capacity : Nat),
    (encodeWithin capacity value).isOk = true ↔ (encode value).length ≤ capacity
  bytes_eq : ∀ (value : α) (capacity : Nat) (bytes : Bytes),
    encodeWithin capacity value = .ok bytes → bytes = encode value
  decodes : ∀ (value : α) (rest : Bytes),
    (decode (encode value ++ rest)).value = verdict value (firstInsane value)

/-- The bytes of a value depend on nothing but the value. -/
theorem eq_encode_of_encodeWithin {capacity : Nat} {value : α} {bytes : Bytes}
    (h : encodeWithin capacity value = .ok bytes) : bytes = encode value := by
  rw [encodeWithin_eq_ite] at h
  split at h
  · exact (Except.ok.inj h).symm
  · cases h

/-- A value can be stored exactly where there is room for its bytes. -/
theorem isOk_encodeWithin_iff (value : α) (capacity : Nat) :
    (encodeWithin capacity value).isOk = true ↔ (encode value).length ≤ capacity := by
  rw [encodeWithin_eq_ite]
  split <;> simp_all [Except.isOk, Except.toBool]

variable [Lawful α]

/-- Reading a stored value answers as the check of its fields does. -/
theorem decode_encode_append (value : α) (rest : Bytes) :
    (decode (encode value ++ rest)).value = verdict value (sanitize value).value.1 := by
  simp only [decode, decodeRaw_encode_append, Logged.value_bind]
  cases (sanitize value).value.1 <;> rfl

/-- A lawful record loses nothing, as soon as it is known which field its check reports. -/
theorem roundTrips_of_reports {firstInsane : α → Option Field}
    (hreports : ∀ value : α, (sanitize value).value.1 = firstInsane value) : RoundTrips firstInsane where
  length_le := length_encode_le
  encodes_iff := isOk_encodeWithin_iff
  bytes_eq := fun _ _ _ h => eq_encode_of_encodeWithin h
  decodes := by
    intro value rest
    rw [decode_encode_append, hreports]

end Record

/-- Both records lose nothing, for every value of their fields and any room to write to: the bytes
are those of the value alone, never more than are set aside, and reading them gives the value back or
names its first unusable field. -/
theorem records_roundTrip :
    Record.RoundTrips DeviceConfig.firstInsane ∧ Record.RoundTrips RuntimeStatus.firstInsane := by
  constructor
  · exact Record.roundTrips_of_reports DeviceConfig.value_sanitize_fst
  · exact Record.roundTrips_of_reports fun _ => rfl

end FieldCounter
