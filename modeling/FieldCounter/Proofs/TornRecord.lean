import FieldCounter.Proofs.ArbitraryBytes
import FieldCounter.Proofs.Script

/-!
# A torn record

A write that is cut short leaves the beginning of a stored form. Wherever the cut is, inside the header, inside a
number or between two fields, nothing is read from what is left: an exact codec that could make a value of it would
make the same value of the whole and leave the missing bytes over, but of the whole it leaves nothing over. A load
that comes upon such bytes installs the factory value and writes it back.
-/

namespace FieldCounter

open Program (Path)

/-- What is read to its end is not read when the end is missing. -/
theorem Codec.Exact.read_take_eq_none {α : Type} {codec : Codec α} {spellings : α → Language UInt8} {bytes : Bytes}
    {a : α} {n : Nat} (h : codec.Exact spellings) (hread : codec.read bytes = some (a, [])) (hn : n < bytes.length) :
    codec.read (bytes.take n) = none := by
  cases hcut : codec.read (bytes.take n) with
  | none => rfl
  | some result =>
    obtain ⟨b, rest⟩ := result
    have hwhole := h.read_append hcut (bytes.drop n)
    rw [List.take_append_drop, hread] at hwhole
    have hrest : [] = rest ++ bytes.drop n := congrArg Prod.snd (Option.some.inj hwhole)
    have hall := List.drop_eq_nil_iff.mp (List.append_eq_nil_iff.mp hrest.symm).2
    exact absurd hn (Nat.not_lt.mpr hall)

namespace Record

variable {α : Type} [Record α] {spellings : α → Language UInt8}

/-- No proper beginning of a stored form is read as anything. -/
theorem decode_take [Lawful α] (hexact : (codec : Codec α).Exact spellings) {value : α} {n : Nat}
    (hn : n < (encode value).length) :
    (decode (α := α) ((encode value).take n)).value = .error (.decode (key α)) := by
  have hheader : headerCodec.read (headerCodec.write (magic α, version α)) = some ((magic α, version α), []) := by
    simpa only [List.append_nil] using faithful_headerCodec.read_write (magic α, version α) []
  have hbody : (codec : Codec α).read (codec.write value) = some (value, []) := by
    obtain ⟨width, _, hfaithful⟩ := Lawful.faithful_codec (α := α)
    simpa only [List.append_nil] using hfaithful.read_write value []
  unfold encode at hn ⊢
  generalize headerCodec.write (magic α, version α) = header at hheader hn ⊢
  generalize (codec : Codec α).write value = body at hbody hn ⊢
  rw [List.length_append] at hn
  rcases Nat.lt_or_ge n header.length with hshort | hlong
  · -- the cut is inside the header
    rw [List.take_append_of_le_length (Nat.le_of_lt hshort)]
    exact decode_of_headless (exact_headerCodec.read_take_eq_none hheader hshort)
  · obtain ⟨cut, rfl⟩ := Nat.exists_eq_add_of_le hlong
    have hcut : cut < body.length := Nat.lt_of_add_lt_add_left hn
    rw [List.take_length_add_append]
    have hfront := exact_headerCodec.read_append hheader (body.take cut)
    rw [List.nil_append] at hfront
    exact decode_of_broken hfront (hexact.read_take_eq_none hbody hcut)

/-- A record of which the end is missing is not taken for another one. -/
structure DetectsTorn (α : Type) [Record α] [DecidableEq α] : Prop where
  decode_torn : ∀ (value : α) (n : Nat), n < (encode value).length →
    (decode (α := α) ((encode value).take n)).value = .error (.decode (key α))
  /-- A load comes to the factory value and says why. -/
  load_torn : ∀ (value : α) (n : Nat), n < (encode value).length →
    ∀ {σ : Type} (env : Environment σ) (world : σ),
      (env.answer (.readRecord (key α)) world).1 = .ok ((encode value).take n) →
        ((Persisted.load α).run env world).1.1.value = factory ∧
          ((Persisted.load α).run env world).1.2 = .reset (.decode (key α)) ∧
          ∃ answer, (Persisted.load α).trace env world =
            [⟨.readRecord (key α), .ok ((encode value).take n)⟩, ⟨.writeRecord (key α) (encode (factory : α)), answer⟩]

/-- A record whose value is read from its spellings only detects that its end is missing. -/
theorem detectsTorn_of_exact [DecidableEq α] [Lawful α] (hexact : (codec : Codec α).Exact spellings) :
    DetectsTorn α where
  decode_torn := fun _ _ hn => decode_take hexact hn
  load_torn := by
    intro value n hn σ env world hread
    have hfirst : ∃ rest, (Persisted.load α).trace env world =
        ⟨.readRecord (key α), (env.answer (.readRecord (key α)) world).1⟩ :: rest := ⟨_, rfl⟩
    have hpath := (Persisted.load α).path_run env world
    rw [hread] at hfirst
    obtain ⟨rest, htrace⟩ := hfirst
    rw [htrace] at hpath ⊢
    generalize ((Persisted.load α).run env world).1 = result at hpath ⊢
    obtain ⟨record, outcome⟩ := result
    have htorn : Persisted.readAs (α := α) (.ok ((encode value).take n)) = .error (.decode (key α)) := by
      have hshort : ((encode value).take n).length ≤ recordCapacity :=
        (List.length_take_le' ..).trans (length_encode_le value)
      simp only [Persisted.readAs, List.take_of_length_le hshort]
      exact decode_take hexact hn
    cases Persisted.loadsAs_of_load hpath with
    | found hfound => cases htorn.symm.trans hfound
    | replaced hreason hinstalled =>
      cases htorn.symm.trans hreason
      refine ⟨Persisted.value_of_flush hinstalled, rfl, ?_⟩
      rcases Persisted.flush_cases hinstalled with ⟨hsaved, _, _⟩ | ⟨rfl, _⟩ | ⟨_, error, rfl, _⟩
      · cases hsaved
      · exact ⟨_, rfl⟩
      · exact ⟨_, rfl⟩

end Record

/-- Of either record, whatever its fields hold and wherever it was cut short: the beginning that is left is not read,
and a load that finds it comes to the factory value, which it writes back. -/
theorem torn_detected : Record.DetectsTorn DeviceConfig ∧ Record.DetectsTorn RuntimeStatus := by
  constructor
  · exact Record.detectsTorn_of_exact DeviceConfig.exact_codec
  · exact Record.detectsTorn_of_exact RuntimeStatus.exact_codec

end FieldCounter
