import FieldCounter.Online
import FieldCounter.Proofs.Path
import FieldCounter.Proofs.Remote

/-!
# The actions after a connection

Up to the last of them, the actions after a connection raise and clear alerts, apply remote settings
and note readings and times. A property that these keep is one of the records when the last action
is reached, which settles the count of resets. The records stay usable in this way, and the count of
resets is the old one until it is settled.
-/

namespace FieldCounter

open Program

namespace Records

variable {P : Records → Prop} {records : Records}

/-- A property that no action before the last one breaks. None of the alerts that are raised concerns the
device as a whole. -/
structure Kept (P : Records → Prop) : Prop where
  raise : ∀ records alert now, alert.isSystemic = false → P records → P (records.raiseAlert alert now).value
  remote : ∀ (records : Records) remote report, P records →
    P ⟨(records.config.applyRemote remote).value.1,
      (records.status.applyRemotePower remote.power report).value.1⟩
  clear : ∀ (records : Records) p, P records →
    P { records with status := (records.status.clearAlertIf p).value }
  battery : ∀ (records : Records) reading now, P records →
    P { records with status := (records.status.updateBattery reading now).value }
  signal : ∀ (records : Records) signalQuality, P records →
    P { records with status := { records.status with signalQuality } }
  hook : ∀ (records : Records) lastHookResponse, P records →
    P { records with config := { records.config with lastHookResponse } }
  connection : ∀ (records : Records) lastConnection, P records →
    P { records with config := { records.config with lastConnection } }

/-- Fetching the remote settings keeps what applying them and raising an alert keep. -/
theorem Kept.reloadRemote (hkept : Kept P) (h : P records) (now : UInt32) :
    (records.reloadRemote now).Ensures fun _ result => P result.2 := by
  unfold Records.reloadRemote
  refine ensures_bind.mpr (ensures_call.mpr fun answer => ?_)
  cases answer with
  | none =>
    refine ensures_logged_bind.mpr (ensures_logged_bind.mpr (ensures_pure.mpr ?_))
    exact hkept.raise records .configApplyFailed now rfl h
  | some remote =>
    refine ensures_logged_bind.mpr (ensures_logged_bind.mpr ?_)
    have happlied := hkept.remote records remote (records.config.applyRemote remote).value.2 h
    refine ensures_ite.mpr ⟨fun _ => ensures_pure.mpr happlied, fun _ => ?_⟩
    exact ensures_logged_bind.mpr (ensures_pure.mpr (hkept.raise _ .configApplyFailed now rfl happlied))

/-- Publishing the figures keeps what raising an alert keeps. -/
theorem Kept.publishData (hkept : Kept P) (h : P records) (now : UInt32) :
    (records.publishData now).Ensures fun _ result => P result.2 := by
  refine ensures_bind.mpr (ensures_call.mpr fun sent => ensures_ite.mpr ⟨fun _ => ?_, fun _ => ?_⟩)
  · exact ensures_pure.mpr h
  refine ensures_logged_bind.mpr (ensures_logged_bind.mpr (ensures_pure.mpr ?_))
  exact hkept.raise records .dataPublishFailed now rfl h

/-- So does publishing the health, which is tried in any case. -/
theorem Kept.publishStatus (hkept : Kept P) (h : P records) (pending : UInt32) (healthy : Bool) (now : UInt32) :
    (records.publishStatus pending healthy now).Ensures fun trace result =>
      P result.2 ∧ ∃ snapshot answer, ⟨.publishStatus snapshot, answer⟩ ∈ trace := by
  refine ensures_bind.mpr (ensures_call.mpr fun sent => ensures_ite.mpr ⟨fun _ => ?_, fun _ => ?_⟩)
  · exact ensures_pure.mpr ⟨h, _, _, List.mem_singleton_self _⟩
  · refine ensures_logged_bind.mpr (ensures_logged_bind.mpr (ensures_pure.mpr ?_))
    exact ⟨hkept.raise records .statusPublishFailed now rfl h, _, _, List.mem_singleton_self _⟩

/-- Taking over the time of the last answer keeps what storing it and clearing an alert keep. -/
theorem Kept.noteHookResponse (hkept : Kept P) (h : P records) (now : UInt32) :
    (records.noteHookResponse now).Ensures fun _ result => P result := by
  unfold Records.noteHookResponse
  refine ensures_bind.mpr (ensures_call.mpr fun answer => ?_)
  cases answer with
  | none => exact ensures_pure.mpr h
  | some answered =>
    have hnoted := hkept.hook records answered h
    refine ensures_ite.mpr ⟨fun _ => ensures_pure.mpr hnoted, fun _ => ?_⟩
    exact ensures_logged_bind.mpr (ensures_pure.mpr (hkept.clear _ (· == .webhookStale) hnoted))

/-- The actions after a connection publish the health, and end with the count of resets settled in
records that have what the actions before keep. -/
theorem Kept.actOnline (hkept : Kept P) (h : P records) (healthy publish : Bool) (now : UInt32) :
    (actOnline records healthy publish now).Ensures fun trace result =>
      (∃ snapshot answer, ⟨.publishStatus snapshot, answer⟩ ∈ trace) ∧
        ∃ before, P before ∧ result.2 = before.settleResetCount.value := by
  unfold FieldCounter.actOnline
  refine ensures_logged_bind.mpr (ensures_bind.mpr (ensures_call.mpr fun reading => ?_))
  refine ensures_logged_bind.mpr (ensures_bind.mpr (ensures_call.mpr fun quality => ?_))
  have hmeasured := hkept.signal _ quality (hkept.battery _ reading now (hkept.clear _ Alert.isConnectivity h))
  refine ensures_bind.mpr ((hkept.reloadRemote hmeasured now).mono fun reloading result hreloaded => ?_)
  split
  extract_lets rest
  have hrest : ∀ published, P published.2 → (rest published).Ensures fun trace result =>
      (∃ snapshot answer, ⟨.publishStatus snapshot, answer⟩ ∈ trace) ∧
        ∃ before, P before ∧ result.2 = before.settleResetCount.value := by
    rintro ⟨dataPublished, records⟩ hpublished
    refine ensures_bind.mpr (ensures_call.mpr fun pending => ensures_bind.mpr ?_)
    refine (hkept.publishStatus hpublished pending healthy now).mono ?_
    rintro publishing ⟨statusPublished, records⟩ ⟨hsent, snapshot, answer, hmem⟩
    refine ensures_bind.mpr ((hkept.noteHookResponse hsent now).mono fun _ noted hnoted => ?_)
    have hconnected := hkept.connection noted now hnoted
    refine ensures_logged_bind.mpr (ensures_pure.mpr ⟨⟨snapshot, answer, ?_⟩, _, hconnected, rfl⟩)
    simp [hmem]
  refine ensures_ite.mpr ⟨fun _ => ?_, fun _ => ?_⟩
  · refine ensures_bind.mpr (ensures_map.mpr ((hkept.publishData hreloaded now).mono ?_))
    intro publishing published hpublished
    refine (hrest (some published.1, published.2) hpublished).mono ?_
    rintro trace result ⟨⟨snapshot, answer, hmem⟩, hsettled⟩
    exact ⟨⟨snapshot, answer, by simp [hmem]⟩, hsettled⟩
  · refine ensures_bind.mpr (ensures_pure.mpr ((hrest (none, _) hreloaded).mono ?_))
    rintro trace result ⟨⟨snapshot, answer, hmem⟩, hsettled⟩
    exact ⟨⟨snapshot, answer, by simp [hmem]⟩, hsettled⟩

/-- The count of resets is cleared unless a systemic alert is on show. -/
theorem value_settleResetCount (records : Records) :
    records.settleResetCount.value =
      if records.status.alert.shows Alert.isSystemic then records
      else { records with config := records.config.clearResetCount } := by
  unfold settleResetCount AlertSlot.shows
  cases hcurrent : records.status.alert.current with
  | none => rfl
  | some alert =>
    cases hsystemic : alert.isSystemic <;> simp [Option.filter, hsystemic]

/-! ## What is kept -/

/-- Both records are usable. -/
structure Sane (records : Records) : Prop where
  config : records.config.isSane = true
  status : records.status.isSane = true

/-- The records stay usable. -/
theorem kept_sane : Kept Sane where
  raise := fun _ alert now _ h => ⟨h.config, RuntimeStatus.isSane_raiseAlert h.status alert now⟩
  remote := fun _ remote report h =>
    ⟨DeviceConfig.isSane_applyRemote h.config remote,
      RuntimeStatus.isSane_applyRemotePower h.status remote.power report⟩
  clear := fun _ p h => ⟨h.config, RuntimeStatus.isSane_clearAlertIf h.status p⟩
  battery := fun _ reading now h => ⟨h.config, RuntimeStatus.isSane_updateBattery h.status reading now⟩
  signal := fun _ _ h => ⟨h.config, h.status⟩
  hook := fun _ _ h => ⟨h.config, h.status⟩
  connection := fun _ _ h => ⟨h.config, h.status⟩

/-- Settling the count of resets keeps the records usable. -/
theorem sane_settleResetCount (h : records.Sane) : records.settleResetCount.value.Sane := by
  rw [value_settleResetCount]
  split
  · exact h
  · exact ⟨h.config, h.status⟩

/-- The count of resets is kept until it is settled. -/
theorem kept_resetCount (count : UInt8) : Kept fun records => records.config.resetCount = count where
  raise := fun _ _ _ _ h => h
  remote := fun records remote _ h =>
    (congrArg Prod.fst (DeviceConfig.past_applyRemote records.config remote)).trans h
  clear := fun _ _ h => h
  battery := fun _ _ _ h => h
  signal := fun _ _ h => h
  hook := fun _ _ h => h
  connection := fun _ _ h => h

/-- The open session is left alone. -/
theorem kept_occupied (occupied : Bool) : Kept fun records => records.status.occupied = occupied where
  raise := fun _ _ _ _ h => h
  remote := fun records remote report h => by
    obtain ⟨_, hfields⟩ := records.status.fields_applyRemotePower remote.power report
    rwa [hfields]
  clear := fun _ _ h => h
  battery := fun records reading now h => (records.status.occupied_updateBattery reading now).trans h
  signal := fun _ _ h => h
  hook := fun _ _ h => h
  connection := fun _ _ h => h

/-- Settling the count of resets leaves the status alone. -/
theorem status_settleResetCount (records : Records) : records.settleResetCount.value.status = records.status := by
  rw [value_settleResetCount]
  split <;> rfl

end Records

end FieldCounter
