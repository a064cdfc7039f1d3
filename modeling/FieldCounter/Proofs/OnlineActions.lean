import FieldCounter.Proofs.RemoteFieldwise
import FieldCounter.Proofs.Reporting

/-!
# What the actions after a connection ask and leave on show

Each device that the actions after a connection call is called exactly once, in a fixed order, and the
figures are published only where they are wanted. The alert slot passes through the same stages: the
connection cures the alerts that speak of a lost one, each action that fails offers the slot an alert, and a
fresh webhook answer cures the alert for a silent one.
-/

namespace FieldCounter

open Program

/-- What the devices answer to the actions after a connection. -/
structure OnlineAnswers where
  reading : BatteryReading
  quality : UInt8
  remote : Option RemoteConfig
  /-- The figures and whether they went out, if they were to be published. -/
  data : Option (DataSnapshot × Bool)
  pending : UInt32
  health : StatusSnapshot
  /-- The health went out. -/
  sent : Bool
  /-- When the webhook last answered. -/
  answered : Option UInt32

namespace OnlineAnswers

/-- The calls of the actions with these answers. -/
def calls (answers : OnlineAnswers) : List Exchange :=
  [⟨.readBattery, answers.reading⟩, ⟨.signalQuality, answers.quality⟩, ⟨.loadRemote, answers.remote⟩] ++
    answers.data.toList.map (fun data => ⟨.publishData data.1, data.2⟩) ++
    [⟨.pendingCount, answers.pending⟩, ⟨.publishStatus answers.health, answers.sent⟩,
      ⟨.lastHookResponse, answers.answered⟩]

/-- The figures were to be published, and did not go out. -/
def dataFailed (answers : OnlineAnswers) : Bool := answers.data.any (!·.2)

/-- The webhook answered not too long ago. -/
def hookFresh (answers : OnlineAnswers) (now : UInt32) : Bool :=
  answers.answered.any (secsBetween · now ≤ webhookStaleSecs)

end OnlineAnswers

/-- The slot after the actions with these answers, the remote settings having been applied in full or not. -/
def AlertSlot.afterOnline (slot : AlertSlot) (answers : OnlineAnswers) (applied : Bool) (now : UInt32) : AlertSlot :=
  let failed := ((((slot.clearIf Alert.isConnectivity).value.afterReading now answers.reading).raiseIf
    (!applied) .configApplyFailed now).raiseIf answers.dataFailed .dataPublishFailed now).raiseIf
    (!answers.sent) .statusPublishFailed now
  if answers.hookFresh now then (failed.clearIf (· == .webhookStale)).value else failed

namespace Records

variable {records : Records}

/-- A load makes one call, and its answer decides what becomes of the settings and of the slot. -/
theorem ensures_reloadRemote (now : UInt32) :
    (records.reloadRemote now).Ensures fun trace result =>
      ∃ answer, trace = [⟨.loadRemote, answer⟩] ∧ result.2.config = records.config.leftByLoad answer ∧
        result.2.status.alert =
          records.status.alert.raiseIf (!records.config.acceptsAll answer) .configApplyFailed now := by
  intro trace result hpath
  obtain ⟨answer, rfl, rfl⟩ := path_reloadRemote_iff.mp hpath
  obtain ⟨testSocOverride, hleft⟩ := records.reloaded_eq now answer
  refine ⟨answer, rfl, ?_⟩
  rw [hleft]
  cases records.config.acceptsAll answer <;> exact ⟨rfl, rfl⟩

/-- Where a message that does not go out is made known by an alert, that is all that is shown of it in the records. -/
theorem ensures_publishing {send : Program Bool} {exchange : Bool → Exchange}
    (hsend : send.Ensures fun trace sent => trace = [exchange sent]) (text : String) (alert : Alert) (now : UInt32) :
    Program.Ensures (do
      if ← send then
        return (true, records)
      note .warn .radio text
      return (false, ← records.raiseAlert alert now)) fun trace result =>
      trace = [exchange result.1] ∧ result.2.config = records.config ∧
        result.2.status.alert = records.status.alert.raiseIf (!result.1) alert now := by
  refine ensures_bind.mpr (hsend.mono fun trace sent htrace => ensures_ite.mpr ⟨fun hsent => ?_, fun hlost => ?_⟩)
  · exact ensures_pure.mpr (by simp [htrace, hsent, AlertSlot.raiseIf])
  · refine ensures_logged_bind.mpr (ensures_logged_bind.mpr (ensures_pure.mpr ?_))
    obtain rfl : sent = false := by simpa using hlost
    exact ⟨by rw [htrace]; rfl, rfl, rfl⟩

/-- So it is with a publication of the figures. -/
theorem ensures_publishData (now : UInt32) :
    (records.publishData now).Ensures fun trace result =>
      trace = [⟨.publishData (.capture records.status none now), result.1⟩] ∧
        result.2.config = records.config ∧
        result.2.status.alert = records.status.alert.raiseIf (!result.1) .dataPublishFailed now :=
  ensures_publishing (ensures_call.mpr fun _ => rfl) _ _ _

/-- So it is with a publication of the health. -/
theorem ensures_publishStatus (pending : UInt32) (healthy : Bool) (now : UInt32) :
    (records.publishStatus pending healthy now).Ensures fun trace result =>
      trace = [⟨.publishStatus (.capture records.config records.status pending healthy now), result.1⟩] ∧
        result.2.config = records.config ∧
        result.2.status.alert = records.status.alert.raiseIf (!result.1) .statusPublishFailed now :=
  ensures_publishing (ensures_call.mpr fun _ => rfl) _ _ _

/-- The time of the last webhook answer is taken over if there is one, and a fresh one cures the alert for a
silent webhook. -/
theorem ensures_noteHookResponse (now : UInt32) :
    (records.noteHookResponse now).Ensures fun trace result =>
      ∃ answered, trace = [⟨.lastHookResponse, answered⟩] ∧
        result.config =
          { records.config with lastHookResponse := answered.getD records.config.lastHookResponse } ∧
        result.status.alert = if answered.any (secsBetween · now ≤ webhookStaleSecs)
          then (records.status.alert.clearIf (· == .webhookStale)).value else records.status.alert := by
  unfold noteHookResponse
  refine ensures_bind.mpr (ensures_call.mpr fun answered => ?_)
  cases answered with
  | none => exact ensures_pure.mpr ⟨none, rfl, rfl, rfl⟩
  | some time =>
    refine ensures_ite.mpr ⟨fun hstale => ensures_pure.mpr ⟨some time, rfl, rfl, ?_⟩, fun hfresh => ?_⟩
    · rw [Option.any_some, if_neg (by simpa using hstale)]
    · refine ensures_logged_bind.mpr (ensures_pure.mpr ⟨some time, rfl, rfl, ?_⟩)
      rw [Option.any_some, if_pos (by simpa using hfresh)]
      rfl

end Records

/-- The settings after the actions with these answers, where a systemic alert was left on show or not. -/
def DeviceConfig.afterOnline (config : DeviceConfig) (answers : OnlineAnswers) (systemic : Bool) (now : UInt32) :
    DeviceConfig :=
  { config.leftByLoad answers.remote with
    resetCount := if systemic then config.resetCount else 0
    lastConnection := now
    lastHookResponse := answers.answered.getD config.lastHookResponse }

/-- The actions after a connection make each of their calls once, take the slot through their failures, and
leave the settings as the answers have them. -/
theorem ensures_actOnline (records : Records) (healthy publish : Bool) (now : UInt32) :
    (actOnline records healthy publish now).Ensures fun trace result =>
      ∃ answers, trace = OnlineAnswers.calls answers ∧ answers.data.isSome = publish ∧
        result.2.status.alert =
          records.status.alert.afterOnline answers (records.config.acceptsAll answers.remote) now ∧
        result.2.config =
          records.config.afterOnline answers (result.2.status.alert.shows Alert.isSystemic) now := by
  unfold actOnline
  refine ensures_logged_bind.mpr (ensures_bind.mpr (ensures_call.mpr fun reading => ?_))
  refine ensures_logged_bind.mpr (ensures_bind.mpr (ensures_call.mpr fun quality => ?_))
  refine ensures_bind.mpr ((Records.ensures_reloadRemote now).mono ?_)
  rintro _ result ⟨remote, rfl, hconfig, hreloaded⟩
  split
  rename_i report reloaded
  extract_lets rest
  have hrest : ∀ (data : Option (DataSnapshot × Bool)) (published : Option Bool × Records),
      published.2.config = reloaded.config →
      published.2.status.alert = reloaded.status.alert.raiseIf (data.any (!·.2)) .dataPublishFailed now →
      (rest published).Ensures fun trace result =>
        ∃ pending health sent answered, trace = [⟨.pendingCount, pending⟩, ⟨.publishStatus health, sent⟩,
            ⟨.lastHookResponse, answered⟩] ∧
          result.2.status.alert = records.status.alert.afterOnline
            ⟨reading, quality, remote, data, pending, health, sent, answered⟩
            (records.config.acceptsAll remote) now ∧
          result.2.config = records.config.afterOnline
            ⟨reading, quality, remote, data, pending, health, sent, answered⟩
            (result.2.status.alert.shows Alert.isSystemic) now := by
    rintro data ⟨dataPublished, published⟩ hsame hpublished
    refine ensures_bind.mpr (ensures_call.mpr fun pending => ensures_bind.mpr ?_)
    refine (Records.ensures_publishStatus pending healthy now).mono ?_
    rintro _ ⟨sent, left⟩ ⟨rfl, hleftConfig, hleft⟩
    refine ensures_bind.mpr ((Records.ensures_noteHookResponse now).mono ?_)
    rintro _ noted ⟨answered, rfl, hnotedConfig, hnoted⟩
    refine ensures_logged_bind.mpr (ensures_pure.mpr ⟨pending, _, sent, answered, rfl, ?_, ?_⟩)
    · rw [Records.status_settleResetCount]
      refine hnoted.trans ?_
      rw [hleft, hpublished, hreloaded, RuntimeStatus.value_updateBattery]
      rfl
    · rw [Records.status_settleResetCount, Records.value_settleResetCount]
      have hloaded : noted.config = { records.config.leftByLoad remote with
          lastHookResponse := answered.getD records.config.lastHookResponse } := by
        rw [hnotedConfig, hleftConfig, hsame, hconfig]
        cases remote <;> rfl
      dsimp only
      rw [hloaded]
      unfold DeviceConfig.afterOnline
      split
      · cases remote <;> rfl
      · rfl
  refine ensures_ite.mpr ⟨fun hpublish => ?_, fun hskip => ?_⟩
  · refine ensures_bind.mpr (ensures_map.mpr ((Records.ensures_publishData now).mono ?_))
    rintro _ ⟨sent, published⟩ ⟨rfl, hsame, hpublished⟩
    refine (hrest (some (.capture reloaded.status none now, sent)) (some sent, published) hsame hpublished).mono ?_
    rintro _ result ⟨pending, health, went, answered, rfl, hleft⟩
    exact ⟨⟨reading, quality, remote, some (_, sent), pending, health, went, answered⟩, rfl, hpublish.symm, hleft⟩
  · refine ensures_bind.mpr (ensures_pure.mpr ((hrest none (none, reloaded) rfl rfl).mono ?_))
    rintro _ result ⟨pending, health, went, answered, rfl, hleft⟩
    exact ⟨⟨reading, quality, remote, none, pending, health, went, answered⟩, rfl,
      (Bool.eq_false_iff.mpr hskip).symm, hleft⟩

end FieldCounter
