import FieldCounter.Proofs.Codec
import FieldCounter.Record

/-!
# Records lose nothing

The codecs of both records are faithful, and a record with its header fits into the bytes set aside
for it. A usable value is therefore read back from its stored form, and only usable values are ever
read.
-/

namespace FieldCounter

open Codec

/-! ## The codecs of the records -/

/-- The settings are stored faithfully. -/
theorem DeviceConfig.faithful_codec : DeviceConfig.codec.Faithful 54 := by
  have hmode : (choice CountingMode.all).Faithful 5 :=
    faithful_choice (fun mode => by cases mode <;> decide) (by decide)
  have hoperating : (choice OperatingMode.all).Faithful 5 :=
    faithful_choice (fun mode => by cases mode <;> decide) (by decide)
  have hpast := faithful_word.both (faithful_word.both faithful_word)
  have hsensor := faithful_byte.both (faithful_byte.both hpast)
  have hbudgets := faithful_word.both (faithful_word.both (faithful_word.both hsensor))
  have htiming := faithful_word.both (faithful_word.both hbudgets)
  have hhours := faithful_byte.both (faithful_byte.both htiming)
  exact (hmode.both (hoperating.both hhours)).convert fun _ => rfl

/-- The alert slot is stored faithfully. -/
theorem AlertSlot.faithful_codec : AlertSlot.codec.Faithful 6 :=
  (faithful_signedByte.both faithful_word).convert fun _ => rfl

/-- The status is stored faithfully. -/
theorem RuntimeStatus.faithful_codec : RuntimeStatus.codec.Faithful 55 := by
  have hcharge : (choice ChargeState.all).Faithful 5 :=
    faithful_choice (fun state => by cases state <;> decide) (by decide)
  have htier : (choice BatteryTier.all).Faithful 5 :=
    faithful_choice (fun tier => by cases tier <;> decide) (by decide)
  have hupdate := faithful_byte.optional.both faithful_flag
  have halert := AlertSlot.faithful_codec.both (htier.both hupdate)
  have hbattery := faithful_byte.both (hcharge.both (faithful_signedHalfword.both (faithful_byte.both halert)))
  have hoccupancy := faithful_word.both (faithful_word.both (faithful_word.both hbattery))
  have hcounts := faithful_word.both (faithful_word.both (faithful_word.both (faithful_flag.both hoccupancy)))
  exact hcounts.convert fun _ => rfl

/-- The header is stored faithfully. -/
theorem faithful_headerCodec : headerCodec.Faithful 8 := faithful_word.both faithful_halfword

/-! ## Encoding and decoding -/

namespace Record

variable {α : Type} [Record α]

/-- Nothing in the value has to be repaired. -/
def Usable (value : α) : Prop := (sanitize value).value.1 = none

/-- A record whose values are stored faithfully in the bytes set aside, and whose factory value is
usable. -/
class Lawful (α : Type) [Record α] : Prop where
  faithful_codec : ∃ width, 8 + width ≤ recordCapacity ∧ (codec : Codec α).Faithful width
  usable_factory : Usable (factory : α)

/-- What is read is what the bytes hold, where it can be used as it is. -/
theorem decode_eq_ok_iff {bytes : Bytes} {value : α} :
    (decode bytes).value = .ok value ↔ decodeRaw bytes = .ok value ∧ Usable value := by
  unfold decode Usable
  cases decodeRaw (α := α) bytes with
  | error error => exact ⟨fun h => (nomatch h), fun h => (nomatch h.1)⟩
  | ok raw =>
    dsimp only
    rw [Logged.value_bind]
    cases hfirst : (sanitize raw).value.1 with
    | some field =>
      refine ⟨fun h => (nomatch h), fun h => ?_⟩
      obtain ⟨hraw, husable⟩ := h
      rw [← Except.ok.inj hraw, hfirst] at husable
      cases husable
    | none =>
      refine ⟨fun h => ?_, And.left⟩
      obtain rfl : raw = value := Except.ok.inj h
      exact ⟨rfl, hfirst⟩

/-- Whatever is read can be used as it is. -/
theorem usable_of_decode {bytes : Bytes} {value : α} (h : (decode bytes).value = .ok value) : Usable value :=
  (decode_eq_ok_iff.mp h).2

/-- The header and the fields fit one after the other exactly where both together do. -/
theorem encodeWithin_eq_ite (capacity : Nat) (value : α) :
    encodeWithin capacity value =
      if (encode value).length ≤ capacity then .ok (encode value) else .error (.encode (key α)) := by
  have hlength : (encode value).length =
      (headerCodec.write (magic α, version α)).length + ((codec : Codec α).write value).length :=
    List.length_append
  unfold encodeWithin writeWithin
  dsimp only
  by_cases hheader : (headerCodec.write (magic α, version α)).length ≤ capacity
  · rw [if_pos hheader]
    dsimp only
    by_cases hbody : ((codec : Codec α).write value).length ≤
        capacity - (headerCodec.write (magic α, version α)).length
    · rw [if_pos hbody, if_pos (by omega)]
      rfl
    · rw [if_neg hbody, if_neg (by omega)]
      rfl
  · rw [if_neg hheader, if_neg (by omega)]
    rfl

variable [Lawful α]

/-- A record fits into the bytes set aside for it. -/
theorem length_encode_le (value : α) : (encode value).length ≤ recordCapacity := by
  obtain ⟨width, hwidth, hfaithful⟩ := Lawful.faithful_codec (α := α)
  have hheader := faithful_headerCodec.length_write_le (magic α, version α)
  have hbody := hfaithful.length_write_le value
  rw [encode, List.length_append]
  omega

/-- A record can always be encoded. -/
theorem encodeWithin_eq (value : α) : encodeWithin recordCapacity value = .ok (encode value) := by
  rw [encodeWithin_eq_ite, if_pos (length_encode_le value)]

/-- A value is read back from its stored form, whatever follows. -/
theorem decodeRaw_encode_append (value : α) (rest : Bytes) : decodeRaw (encode value ++ rest) = .ok value := by
  obtain ⟨width, _, hfaithful⟩ := Lawful.faithful_codec (α := α)
  have hbody := hfaithful.read_write value rest
  simp only [decodeRaw, encode, List.append_assoc, faithful_headerCodec.read_write, ne_eq, not_true_eq_false,
    if_false, hbody]
  rfl

/-- A value is read back from its stored form. -/
theorem decodeRaw_encode (value : α) : decodeRaw (encode value) = .ok value := by
  have hraw := decodeRaw_encode_append value []
  rwa [List.append_nil] at hraw

/-- A usable value is read back from storage. -/
theorem decode_encode {value : α} (h : Usable value) :
    (decode ((encode value).take recordCapacity)).value = .ok value := by
  rw [List.take_of_length_le (length_encode_le value)]
  simp only [decode, decodeRaw_encode, Logged.value_bind]
  rw [show (sanitize value).value.1 = none from h]
  rfl

end Record

end FieldCounter
