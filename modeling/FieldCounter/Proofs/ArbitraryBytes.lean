import FieldCounter.Proofs.RoundTrip
import FieldCounter.Proofs.Spelling

/-!
# Reading arbitrary bytes

What reading a record answers is settled by what the bytes begin with, whatever follows: the spelling of no header,
of the header of another record or version, of the record's own header with no value after it, or with a value.
A value that is read is usable, its stored form is no longer than the bytes it came from, and reading that form
gives the value again, so needless zero groups and bytes after the record do not survive being written back.
-/

namespace FieldCounter

/-! ## The spellings of records -/

namespace Spelling

/-- The header: the kind of record and the version of its layout. -/
def header (magic : UInt32) (version : UInt16) : Language UInt8 := word magic * halfword version

/-- The settings. -/
def settings (config : DeviceConfig) : Language UInt8 :=
  choice CountingMode.all config.countingMode * choice OperatingMode.all config.operatingMode *
    byte config.openHour * byte config.closeHour *
    word config.reportingInterval * word config.occupancyDebounce * word config.connectBudget *
    word config.cloudDisconnectBudget * word config.modemOffBudget *
    byte config.sensorType * byte config.resetCount *
    word config.lastReport * word config.lastConnection * word config.lastHookResponse

/-- The alert slot. -/
def alertSlot (slot : AlertSlot) : Language UInt8 := signedByte slot.code * word slot.timestamp

/-- The status. -/
def status (status : RuntimeStatus) : Language UInt8 :=
  word status.hourlyCount * word status.dailyCount * word status.lastCountTime *
    flag status.occupied * word status.occupancyStart * word status.hourlyOccupancy * word status.dailyOccupancy *
    byte status.batterySoc * choice ChargeState.all status.chargeState * signedHalfword status.temperature *
    byte status.signalQuality * alertSlot status.alert * choice BatteryTier.all status.batteryTier *
    optional byte status.testSocOverride * flag status.updatePending

/-- A string begins with a spelling when one can be split off its front. -/
theorem mem_mul_top_iff {language : Language UInt8} {bytes : Bytes} :
    bytes ∈ language * ⊤ ↔ ∃ form ∈ language, ∃ rest, form ++ rest = bytes := by
  refine Language.mem_mul.trans (exists_congr fun form => and_congr_right fun _ => exists_congr fun rest => ?_)
  exact and_iff_right trivial

end Spelling

open Codec

/-- The header is read from its spellings only. -/
theorem exact_headerCodec : headerCodec.Exact fun header => Spelling.header header.1 header.2 :=
  exact_word.both exact_halfword

/-- The settings are read from their spellings only. -/
theorem DeviceConfig.exact_codec : DeviceConfig.codec.Exact Spelling.settings := by
  have hmode : (choice CountingMode.all).Exact _ := exact_choice (by decide)
  have hoperating : (choice OperatingMode.all).Exact _ := exact_choice (by decide)
  have hpast := exact_word.both (exact_word.both exact_word)
  have hsensor := exact_byte.both (exact_byte.both hpast)
  have hbudgets := exact_word.both (exact_word.both (exact_word.both hsensor))
  have htiming := exact_word.both (exact_word.both hbudgets)
  have hhours := exact_byte.both (exact_byte.both htiming)
  have hsettings : DeviceConfig.codec.Exact _ :=
    (hmode.both (hoperating.both hhours)).convert (fun _ => rfl) (fun _ => rfl)
  simp only [← mul_assoc] at hsettings
  exact hsettings

/-- The alert slot is read from its spellings only. -/
theorem AlertSlot.exact_codec : AlertSlot.codec.Exact Spelling.alertSlot :=
  (exact_signedByte.both exact_word).convert (fun _ => rfl) (fun _ => rfl)

/-- The status is read from its spellings only. -/
theorem RuntimeStatus.exact_codec : RuntimeStatus.codec.Exact Spelling.status := by
  have hcharge : (choice ChargeState.all).Exact _ := exact_choice (by decide)
  have htier : (choice BatteryTier.all).Exact _ := exact_choice (by decide)
  have hupdate := exact_byte.optional.both exact_flag
  have halert := AlertSlot.exact_codec.both (htier.both hupdate)
  have hbattery := exact_byte.both (hcharge.both (exact_signedHalfword.both (exact_byte.both halert)))
  have hoccupancy := exact_word.both (exact_word.both (exact_word.both hbattery))
  have hcounts := exact_word.both (exact_word.both (exact_word.both (exact_flag.both hoccupancy)))
  have hstatus : RuntimeStatus.codec.Exact _ := hcounts.convert (fun _ => rfl) (fun _ => rfl)
  simp only [← mul_assoc] at hstatus
  exact hstatus

namespace Codec

variable {α : Type} {codec : Codec α} {spellings : α → Language UInt8}

/-- A value is read where the string begins with a spelling of it. -/
theorem Exact.mem_mul_top_iff {bytes : Bytes} {a : α} (h : codec.Exact spellings) :
    bytes ∈ spellings a * ⊤ ↔ ∃ rest, codec.read bytes = some (a, rest) := by
  rw [Spelling.mem_mul_top_iff]
  constructor
  · rintro ⟨form, hform, rest, hsplit⟩
    exact ⟨rest, h.read_iff.mpr ⟨form, hform, hsplit⟩⟩
  · rintro ⟨rest, hread⟩
    obtain ⟨form, hform, hsplit⟩ := h.read_iff.mp hread
    exact ⟨form, hform, rest, hsplit⟩

end Codec

namespace Record

variable {α β : Type} [Record α] [Record β] {bytes body rest : Bytes} {value : α}

/-! ## What the bytes begin with -/

/-- The spellings of the header under which a value of the type is stored. -/
def ownHeader (α : Type) [Record α] : Language UInt8 := Spelling.header (magic α) (version α)

/-- Bytes begin with a spelling of the header just where the header is read from them. -/
theorem mem_header_iff {magic : UInt32} {version : UInt16} :
    bytes ∈ Spelling.header magic version * ⊤ ↔ ∃ body, headerCodec.read bytes = some ((magic, version), body) :=
  exact_headerCodec.mem_mul_top_iff (a := (magic, version))

/-- Bytes without a header are not decoded. -/
theorem decode_of_headless (h : headerCodec.read bytes = none) :
    (decode (α := α) bytes).value = .error (.decode (key α)) := by
  simp only [decode, decodeRaw, h]
  rfl

/-- Bytes with another header are refused for it. -/
theorem decode_of_foreign {header : UInt32 × UInt16} (h : headerCodec.read bytes = some (header, body))
    (hforeign : header ≠ (magic α, version α)) :
    (decode (α := α) bytes).value = .error (.badHeader (key α) header.1 header.2) := by
  simp only [decode, decodeRaw, h, if_pos hforeign]
  rfl

/-- Bytes with the right header and no value after it are not decoded. -/
theorem decode_of_broken (h : headerCodec.read bytes = some ((magic α, version α), body))
    (hbody : (codec : Codec α).read body = none) : (decode (α := α) bytes).value = .error (.decode (key α)) := by
  simp only [decode, decodeRaw, h, ne_eq, not_true_eq_false, if_false, hbody]
  rfl

/-- Bytes with the right header and a value after it are read as the value, or refused for its first unusable field.
-/
theorem decode_of_whole (h : headerCodec.read bytes = some ((magic α, version α), body))
    (hbody : (codec : Codec α).read body = some (value, rest)) :
    (decode bytes).value = verdict value (sanitize value).value.1 := by
  simp only [decode, decodeRaw, h, ne_eq, not_true_eq_false, if_false, hbody, pure, Except.pure, bind, Except.bind]
  cases (sanitize value).value.1 <;> rfl

variable (spellings : α → Language UInt8)

/-- What the bytes begin with, and the answer that settles. -/
inductive Begins (bytes : Bytes) : Except StorageError α → Prop where
  | headless : (∀ magic version, bytes ∉ Spelling.header magic version * ⊤) → Begins bytes (.error (.decode (key α)))
  | foreign {magic : UInt32} {version : UInt16} :
      (magic, version) ≠ (Record.magic α, Record.version α) → bytes ∈ Spelling.header magic version * ⊤ →
      Begins bytes (.error (.badHeader (key α) magic version))
  | broken : bytes ∈ ownHeader α * ⊤ → (∀ value, bytes ∉ ownHeader α * spellings value * ⊤) →
      Begins bytes (.error (.decode (key α)))
  | unusable {value : α} {field : Field} : bytes ∈ ownHeader α * spellings value * ⊤ →
      (sanitize value).value.1 = some field → Begins bytes (.error (.outOfRange (key α) field))
  | usable {value : α} : bytes ∈ ownHeader α * spellings value * ⊤ → (sanitize value).value.1 = none →
      Begins bytes (.ok value)

variable {spellings}

/-- The header and the value are read where the bytes begin with a spelling of both. -/
theorem mem_whole_iff (hexact : (codec : Codec α).Exact spellings) :
    bytes ∈ ownHeader α * spellings value * ⊤ ↔
      ∃ body rest, headerCodec.read bytes = some ((magic α, version α), body) ∧
        (codec : Codec α).read body = some (value, rest) := by
  have hboth : bytes ∈ ownHeader α * spellings value * ⊤ ↔
      ∃ rest, (headerCodec.both codec).read bytes = some (((magic α, version α), value), rest) :=
    (exact_headerCodec.both hexact).mem_mul_top_iff (a := ((magic α, version α), value))
  refine hboth.trans ?_
  simp only [Codec.both, Option.bind_eq_bind, Option.bind_eq_some_iff, Prod.exists, Option.pure_def,
    Option.some.injEq, Prod.mk.injEq]
  constructor
  · rintro ⟨_, _, _, body, hheader, _, rest, hbody, ⟨⟨rfl, rfl⟩, rfl⟩, rfl⟩
    exact ⟨body, rest, hheader, hbody⟩
  · rintro ⟨body, rest, hheader, hbody⟩
    exact ⟨rest, _, _, body, hheader, _, rest, hbody, ⟨⟨rfl, rfl⟩, rfl⟩, rfl⟩

/-- Every string begins with one of these. -/
theorem begins_decode (hexact : (codec : Codec α).Exact spellings) (bytes : Bytes) :
    Begins spellings bytes (decode bytes).value := by
  cases hheader : headerCodec.read bytes with
  | none =>
    rw [decode_of_headless hheader]
    refine .headless fun magic version hmem => ?_
    obtain ⟨rest, hread⟩ := mem_header_iff.mp hmem
    rw [hheader] at hread
    cases hread
  | some result =>
    obtain ⟨⟨magic, version⟩, body⟩ := result
    have hfront := mem_header_iff.mpr ⟨body, hheader⟩
    by_cases hown : (magic, version) = (Record.magic α, Record.version α)
    · obtain ⟨rfl, rfl⟩ := Prod.mk.inj hown
      cases hbody : (codec : Codec α).read body with
      | none =>
        rw [decode_of_broken hheader hbody]
        refine .broken hfront fun value hmem => ?_
        obtain ⟨other, rest, hother, hread⟩ := (mem_whole_iff hexact).mp hmem
        cases hheader.symm.trans hother
        rw [hbody] at hread
        cases hread
      | some result =>
        obtain ⟨value, rest⟩ := result
        have hwhole := (mem_whole_iff hexact).mpr ⟨body, rest, hheader, hbody⟩
        rw [decode_of_whole hheader hbody]
        cases hfound : (sanitize value).value.1 with
        | none => exact .usable hwhole hfound
        | some field => exact .unusable hwhole hfound
    · rw [decode_of_foreign hheader hown]
      exact .foreign hown hfront

/-- What the bytes begin with settles the answer. -/
theorem decode_eq_iff (hexact : (codec : Codec α).Exact spellings) {answer : Except StorageError α} :
    (decode bytes).value = answer ↔ Begins spellings bytes answer := by
  constructor
  · rintro rfl
    exact begins_decode hexact bytes
  · intro h
    cases h with
    | headless hnone =>
      refine decode_of_headless ?_
      cases hheader : headerCodec.read bytes with
      | none => rfl
      | some result => exact absurd (mem_header_iff.mpr ⟨_, hheader⟩) (hnone _ _)
    | foreign hforeign hfront =>
      obtain ⟨body, hheader⟩ := mem_header_iff.mp hfront
      exact decode_of_foreign hheader hforeign
    | broken hfront hnone =>
      obtain ⟨body, hheader⟩ := mem_header_iff.mp hfront
      refine decode_of_broken hheader ?_
      cases hbody : (codec : Codec α).read body with
      | none => rfl
      | some result => exact absurd ((mem_whole_iff hexact).mpr ⟨body, _, hheader, hbody⟩) (hnone _)
    | unusable hwhole hfound =>
      obtain ⟨body, rest, hheader, hbody⟩ := (mem_whole_iff hexact).mp hwhole
      rw [decode_of_whole hheader hbody, hfound]
      rfl
    | usable hwhole hfound =>
      obtain ⟨body, rest, hheader, hbody⟩ := (mem_whole_iff hexact).mp hwhole
      rw [decode_of_whole hheader hbody, hfound]
      rfl

/-- Bytes that begin with a spelling are at least as long as the stored form. -/
theorem length_encode_le_of_mem (hexact : (codec : Codec α).Exact spellings)
    (h : bytes ∈ ownHeader α * spellings value * ⊤) : (encode value).length ≤ bytes.length := by
  obtain ⟨form, hform, rest, rfl⟩ := Spelling.mem_mul_top_iff.mp h
  have hlength := (exact_headerCodec.both hexact).length_write_le (a := ((magic α, version α), value)) hform
  rw [List.length_append]
  exact hlength.trans (Nat.le_add_right ..)

/-! ## Every string of bytes -/

/-- What reading arbitrary bytes answers, by what the bytes begin with. -/
structure Classifies (spellings : α → Language UInt8) : Prop where
  /-- A value is read where the bytes begin with a spelling of it and nothing in it has to be repaired. -/
  ok_iff : ∀ (bytes : Bytes) (value : α), (decode bytes).value = .ok value ↔
    bytes ∈ ownHeader α * spellings value * ⊤ ∧ (sanitize value).value.1 = none
  badHeader_iff : ∀ (bytes : Bytes) (magic : UInt32) (version : UInt16),
    (decode (α := α) bytes).value = .error (.badHeader (key α) magic version) ↔
      (magic, version) ≠ (Record.magic α, Record.version α) ∧ bytes ∈ Spelling.header magic version * ⊤
  outOfRange_iff : ∀ (bytes : Bytes) (field : Field),
    (decode (α := α) bytes).value = .error (.outOfRange (key α) field) ↔
      ∃ value, bytes ∈ ownHeader α * spellings value * ⊤ ∧ (sanitize value).value.1 = some field
  malformed_iff : ∀ bytes : Bytes, (decode (α := α) bytes).value = .error (.decode (key α)) ↔
    (∀ magic version, bytes ∉ Spelling.header magic version * ⊤) ∨
      bytes ∈ ownHeader α * ⊤ ∧ ∀ value, bytes ∉ ownHeader α * spellings value * ⊤
  /-- There is no other way to fail. -/
  error_cases : ∀ (bytes : Bytes) (error : StorageError), (decode (α := α) bytes).value = .error error →
    error = .decode (key α) ∨ (∃ magic version, error = .badHeader (key α) magic version) ∨
      ∃ field, error = .outOfRange (key α) field
  /-- Writing a value that was read does not lengthen it. -/
  length_le : ∀ (bytes : Bytes) (value : α), (decode bytes).value = .ok value →
    (encode value).length ≤ bytes.length
  /-- What was read and written is read again. -/
  again : ∀ (bytes : Bytes) (value : α), (decode bytes).value = .ok value →
    (decode (encode value)).value = .ok value

/-- A record whose value is read from its spellings only classifies all bytes. -/
theorem classifies_of_exact [Lawful α] (hexact : (codec : Codec α).Exact spellings) : Classifies spellings where
  ok_iff := by
    intro bytes value
    rw [decode_eq_iff hexact]
    constructor
    · rintro (_ | _ | _ | _ | ⟨hwhole, hfound⟩)
      exact ⟨hwhole, hfound⟩
    · rintro ⟨hwhole, hfound⟩
      exact .usable hwhole hfound
  badHeader_iff := by
    intro bytes magic version
    rw [decode_eq_iff hexact]
    constructor
    · rintro (_ | ⟨hforeign, hfront⟩)
      exact ⟨hforeign, hfront⟩
    · rintro ⟨hforeign, hfront⟩
      exact .foreign hforeign hfront
  outOfRange_iff := by
    intro bytes field
    rw [decode_eq_iff hexact]
    constructor
    · rintro (_ | _ | _ | ⟨hwhole, hfound⟩)
      exact ⟨_, hwhole, hfound⟩
    · rintro ⟨value, hwhole, hfound⟩
      exact .unusable hwhole hfound
  malformed_iff := by
    intro bytes
    rw [decode_eq_iff hexact]
    constructor
    · rintro (hnone | _ | ⟨hfront, hnone⟩)
      · exact .inl hnone
      · exact .inr ⟨hfront, hnone⟩
    · rintro (hnone | ⟨hfront, hnone⟩)
      · exact .headless hnone
      · exact .broken hfront hnone
  error_cases := by
    intro bytes error herror
    cases (decode_eq_iff hexact).mp herror with
    | headless => exact .inl rfl
    | foreign => exact .inr (.inl ⟨_, _, rfl⟩)
    | broken => exact .inl rfl
    | unusable => exact .inr (.inr ⟨_, rfl⟩)
  length_le := by
    intro bytes value hok
    cases (decode_eq_iff hexact).mp hok with
    | usable hwhole _ => exact length_encode_le_of_mem hexact hwhole
  again := by
    intro bytes value hok
    have hread := decode_encode_append value []
    rw [List.append_nil, show (sanitize value).value.1 = none from usable_of_decode hok] at hread
    exact hread

/-- What is read as a value of one kind is refused as one of the other, by its header. -/
def Apart (α β : Type) [Record α] [Record β] : Prop :=
  ∀ (bytes : Bytes) (value : α), (decode bytes).value = .ok value →
    (decode (α := β) bytes).value = .error (.badHeader (key β) (magic α) (version α))

/-- Records with different headers are told apart. -/
theorem apart_of_exact (hexact : (codec : Codec α).Exact spellings)
    (hheader : (magic α, version α) ≠ (magic β, version β)) : Apart α β := by
  intro bytes value hok
  cases (decode_eq_iff hexact).mp hok with
  | usable hwhole _ =>
    obtain ⟨body, _, hread, _⟩ := (mem_whole_iff hexact).mp hwhole
    exact decode_of_foreign hread hheader

end Record

/-- Of any bytes at all, read as either record: what they begin with settles the answer, whatever follows. What is
read is usable, is no longer when it is written, and is then read again; and bytes that hold one record are
refused as the other by their header. -/
theorem bytes_classified :
    Record.Classifies Spelling.settings ∧ Record.Classifies Spelling.status ∧
      Record.Apart DeviceConfig RuntimeStatus ∧ Record.Apart RuntimeStatus DeviceConfig := by
  refine ⟨?_, ?_, ?_, ?_⟩
  · exact Record.classifies_of_exact DeviceConfig.exact_codec
  · exact Record.classifies_of_exact RuntimeStatus.exact_codec
  · exact Record.apart_of_exact DeviceConfig.exact_codec (by decide)
  · exact Record.apart_of_exact RuntimeStatus.exact_codec (by decide)

end FieldCounter
