import FieldCounter.Proofs.Mirror
import FieldCounter.Proofs.RemoteFieldwise

/-!
# The budgets in force

A stored budget that went bad does what its factory value does. Each budget is handed out within its range, so
the settings are put beside those in which the budgets in force have taken the place of the stored ones, and
no part of a tick tells the two apart, but for what it writes of them.
-/

namespace FieldCounter

open Program

/-- The settings with the budgets in force in place of the stored ones. -/
def DeviceConfig.inForce (config : DeviceConfig) : DeviceConfig :=
  { config with
    connectBudget := config.connectSecs
    cloudDisconnectBudget := config.cloudDisconnectSecs
    modemOffBudget := config.modemOffSecs }

/-- A value that is handed out is handed out again as it is. -/
theorem FieldRange.orFactory_orFactory {range : FieldRange} (h : range ∈ all) (value : UInt32) :
    range.orFactory (range.orFactory value) = range.orFactory value := by
  rw [orFactory, if_pos (contains_orFactory h value)]

namespace DeviceConfig

/-- The budget in force for a connection is in force where it is stored, too. -/
theorem connectSecs_inForce (config : DeviceConfig) : config.inForce.connectSecs = config.connectSecs :=
  FieldRange.orFactory_orFactory (by decide) config.connectBudget

/-- So is the budget for closing the cloud session. -/
theorem cloudDisconnectSecs_inForce (config : DeviceConfig) :
    config.inForce.cloudDisconnectSecs = config.cloudDisconnectSecs :=
  FieldRange.orFactory_orFactory (by decide) config.cloudDisconnectBudget

/-- So is the budget for the modem to go off. -/
theorem modemOffSecs_inForce (config : DeviceConfig) : config.inForce.modemOffSecs = config.modemOffSecs :=
  FieldRange.orFactory_orFactory (by decide) config.modemOffBudget

end DeviceConfig

namespace Controller

/-- The controller with the budgets in force, and without the memory of what is stored of the settings. -/
def veiled (c : Controller) : Controller := { c with config := { value := c.config.value.inForce } }

end Controller

/-! ## Steps that do not see the stored budgets -/

/-- The steps have come to the same value, with controllers that differ in the stored budgets only. -/
def Step.Same {α : Type} (result other : α × Controller) : Prop :=
  result.1 = other.1 ∧ result.2.veiled = other.2.veiled

/-- From controllers that differ in the stored budgets only, the step goes the same way. -/
def Step.Blind {α : Type} (x : Step α) : Prop :=
  ∀ ⦃c d : Controller⦄, c.veiled = d.veiled → Mirrors Step.Same (x.run c) (x.run d)

/-- A plain call leaves the stored settings alone. -/
theorem Call.not_isOfConfig_of_isPlain {call : Call} (h : call.isPlain = true) : call.isOfConfig = false := by
  cases call <;> first | rfl | cases h

/-- A program that makes only calls of a kind that is plain leaves the stored settings alone. -/
theorem Program.Calls.apart {α : Type} {x : Program α} {kind : Call → Bool} (h : x.Calls (kind · = true))
    (hkind : ∀ call, kind call = true → call.isPlain = true) : x.Calls (·.isOfConfig = false) :=
  h.mono fun _ _ hcalls exchange hmem => Call.not_isOfConfig_of_isPlain (hkind _ (hcalls exchange hmem))

/-- What follows a look at the controller is run from the controller that was looked at. -/
theorem Step.run_get_bind {β : Type} (f : Controller → Step β) (c : Controller) :
    (get >>= f : Step β).run c = (f c).run c := rfl

/-- What follows a change of the controller is run from the changed one. -/
theorem Step.run_modify_bind {β : Type} (change : Controller → Controller) (f : PUnit → Step β) (c : Controller) :
    (modify change >>= f : Step β).run c = (f ⟨⟩).run (change c) := rfl

/-- What follows a program is run from the controller that the program was run from. -/
theorem Step.run_lift_bind {m : Type → Type} [MonadLiftT m Program] {α β : Type} (x : m α) (f : α → Step β)
    (c : Controller) : ((liftM x : Step α) >>= f : Step β).run c = (liftM x : Program α) >>= fun a => (f a).run c := by
  rw [StateT.run_bind]
  show (liftM x : Program α) >>= (fun a => Pure.pure (a, c)) >>= _ = _
  rw [Program.bind_assoc]
  rfl

namespace Step.Blind

variable {α β : Type}

/-- A value on its own is the same for both. -/
theorem pure (a : α) : Blind (Pure.pure a : Step α) := fun _ _ h => .done ⟨rfl, h⟩

/-- Two steps in a row are blind if each of them is, whatever the first one comes to. -/
theorem bind {x : Step α} {f : α → Step β} (hx : Blind x) (hf : ∀ a, Blind (f a)) : Blind (x >>= f : Step β) := by
  intro c d h
  rw [StateT.run_bind, StateT.run_bind]
  refine (hx h).bind fun first second hsame => ?_
  obtain ⟨a, between⟩ := first
  obtain ⟨b, other⟩ := second
  obtain ⟨hvalue, hbetween⟩ := hsame
  obtain rfl : a = b := hvalue
  exact hf a hbetween

/-- A look at the controller shows the same where nothing is made of the stored budgets. -/
theorem get {f : Controller → Step β} (hf : ∀ c, f c.veiled = f c) (h : ∀ c, Blind (f c)) :
    Blind (MonadState.get >>= f : Step β) := by
  intro c d hveiled
  have hsame : f c = f d := by rw [← hf c, hveiled, hf d]
  rw [run_get_bind, run_get_bind, hsame]
  exact h d hveiled

/-- A change goes the same way where it leaves the stored budgets alone. -/
theorem modify {f : Controller → Controller} (hf : ∀ c, (f c).veiled = f c.veiled) :
    Blind (modify f : Step PUnit) := by
  intro c d hveiled
  refine .done ⟨rfl, ?_⟩
  show (f c).veiled = (f d).veiled
  rw [hf c, hveiled, hf d]

/-- A program that leaves the stored settings alone is the same on both sides. -/
theorem lift {x : Program α} (hx : x.Calls (·.isOfConfig = false)) : Blind (liftM x : Step α) := by
  intro c d hveiled
  show Mirrors Same (x >>= fun a => Pure.pure (a, c)) (x >>= fun a => Pure.pure (a, d))
  refine (Mirrors.refl hx).bind fun a b hab => ?_
  rw [hab]
  exact .done ⟨rfl, hveiled⟩

/-- A call that does not touch the stored settings is made in both runs. -/
theorem ask {call : Call} (h : call.isOfConfig = false) : Blind (liftM (FieldCounter.call call) : Step call.Answer) :=
  lift (.call h)

/-- What an operation writes to the log is not seen by what follows. -/
theorem logged {x : Logged α} {f : α → Step β} (hf : Blind (f x.value)) :
    Blind ((liftM x : Step α) >>= f : Step β) := by
  intro c d hveiled
  rw [run_lift_bind, run_lift_bind]
  exact .logged (hf hveiled)

/-- Notes are left out of the comparison. -/
theorem note {level : Level} {topic : Topic} {text : String} {f : Unit → Step β} (hf : Blind (f ())) :
    Blind ((liftM (FieldCounter.note level topic text) : Step Unit) >>= f : Step β) :=
  logged hf

/-- A choice is blind if both its sides are. -/
theorem ite {p : Prop} [Decidable p] {x y : Step α} (hx : Blind x) (hy : Blind y) :
    Blind (if p then x else y : Step α) := by
  split
  · exact hx
  · exact hy

/-- A function applied to the value sees nothing but the value. -/
theorem map {x : Step α} {f : α → β} (hx : Blind x) : Blind (f <$> x : Step β) := by
  rw [map_eq_pure_bind]
  exact bind hx fun a => pure (f a)

/-- Nothing is made of a value that is discarded. -/
theorem discard {x : Step α} (hx : Blind x) : Blind (Functor.discard x : Step PUnit) := map hx

/-- The second condition is looked at on both sides or on neither. -/
theorem and {x y : Step Bool} (hx : Blind x) (hy : Blind y) : Blind (x <&&> y : Step Bool) := by
  refine bind hx fun first => ?_
  cases first
  · exact pure false
  · exact hy

end Step.Blind

namespace Controller

open Step (Blind)

variable {α : Type}

/-! ## Operations on the parts -/

/-- The status is no part of the settings. -/
theorem blind_updateStatus {operation : RuntimeStatus → Logged RuntimeStatus} : Blind (updateStatus operation) :=
  .get (fun _ => rfl) fun _ => .logged (.modify fun _ => rfl)

/-- Raising an alert changes only the status. -/
theorem blind_raiseAlert {alert : Alert} {now : UInt32} : Blind (raiseAlert alert now) := blind_updateStatus

/-- Clearing an alert changes only the status. -/
theorem blind_clearAlert {alert : Alert} : Blind (clearAlert alert) :=
  .get (fun _ => rfl) fun _ => .bind blind_updateStatus fun _ => .pure _

/-- The counting engine works on the status. -/
theorem blind_onCounting
    {operation : CountingEngine → RuntimeStatus → Logged (α × CountingEngine × RuntimeStatus)} :
    Blind (onCounting operation) :=
  .get (fun _ => rfl) fun _ => .logged (.bind (.modify fun _ => rfl) fun _ =>
    .bind (.modify fun _ => rfl) fun _ => .pure _)

/-- The sensor manager keeps its own state. -/
theorem blind_onSensors {operation : SensorManager → Program (α × SensorManager)}
    (h : ∀ sensors, (operation sensors).Calls (·.isOfConfig = false)) : Blind (onSensors operation) :=
  .get (fun _ => rfl) fun c => .bind (.lift (h c.sensors)) fun _ => .bind (.modify fun _ => rfl) fun _ => .pure _

end Controller

/-! ## Operations on the records -/

/-- Two reports that account for the same verdicts are the same. -/
theorem ApplyReport.Accounts.unique {report other : ApplyReport} {verdicts : List (Option ConfigError)}
    (h : report.Accounts verdicts) (hother : other.Accounts verdicts) : report = other := by
  obtain ⟨applied, rejected⟩ := report
  obtain ⟨appliedOther, rejectedOther⟩ := other
  obtain rfl : applied = appliedOther := UInt8.toNat_inj.mp (h.applied.trans hother.applied.symm)
  obtain rfl : rejected = rejectedOther := h.rejected.trans hother.rejected.symm
  rfl

/-- A budget that is asked for or not is in force the same, whether the old one is stored or in force. -/
theorem FieldRange.orFactory_getD {range : FieldRange} (h : range ∈ all) (asked : Option UInt32) (old : UInt32) :
    range.orFactory (asked.getD (range.orFactory old)) = range.orFactory (asked.getD old) := by
  cases asked with
  | none => exact orFactory_orFactory h old
  | some value => rfl

/-- Remote settings leave the same budgets in force on all settings that have the same budgets in force. -/
theorem RemoteConfig.inForce_settled (remote : RemoteConfig) (config : DeviceConfig) :
    (remote.settled config.inForce).inForce = (remote.settled config).inForce := by
  unfold DeviceConfig.inForce DeviceConfig.connectSecs DeviceConfig.cloudDisconnectSecs DeviceConfig.modemOffSecs
    RemoteConfig.settled
  dsimp only
  rw [FieldRange.orFactory_getD (by decide), FieldRange.orFactory_getD (by decide),
    FieldRange.orFactory_getD (by decide)]
  rfl

/-- They are reported on in the same way, too. -/
theorem DeviceConfig.inForce_applyRemote {config other : DeviceConfig} (h : config.inForce = other.inForce)
    (remote : RemoteConfig) :
    (config.applyRemote remote).value.1.inForce = (other.applyRemote remote).value.1.inForce ∧
      (config.applyRemote remote).value.2 = (other.applyRemote remote).value.2 := by
  obtain ⟨hleft, hreport⟩ := config.applyRemote_settles remote
  obtain ⟨hleftOther, hreportOther⟩ := other.applyRemote_settles remote
  have hverdicts : remote.verdicts config = remote.verdicts other := by
    show remote.verdicts config.inForce = remote.verdicts other.inForce
    rw [h]
  rw [hleft, hleftOther, ← remote.inForce_settled config, h, remote.inForce_settled other]
  rw [hverdicts] at hreport
  exact ⟨rfl, hreport.unique hreportOther⟩

namespace Records

/-- The records differ in the stored budgets only. -/
inductive Alike : Records → Records → Prop where
  | mk {config other : DeviceConfig} {status : RuntimeStatus} :
      config.inForce = other.inForce → Alike ⟨config, status⟩ ⟨other, status⟩

/-- The operations have come to the same value, with records that differ in the stored budgets only. -/
inductive Same {α : Type} : α × Records → α × Records → Prop where
  | mk (a : α) {records others : Records} : Alike records others → Same (a, records) (a, others)

variable {records others : Records} (h : Alike records others)
include h

/-- Remote settings are applied alike over budgets that differ in storage only. -/
theorem mirrors_reloadRemote (now : UInt32) : Mirrors Same (records.reloadRemote now) (others.reloadRemote now) := by
  cases h with
  | mk hconfig =>
    refine .call rfl fun answer => ?_
    cases answer with
    | none => exact .logged (.logged (.done ⟨none, ⟨hconfig⟩⟩))
    | some remote =>
      obtain ⟨hleft, hreport⟩ := DeviceConfig.inForce_applyRemote hconfig remote
      refine .logged ?_
      dsimp only
      rw [hreport]
      exact .logged (.ite (.done ⟨_, ⟨hleft⟩⟩) (.logged (.done ⟨_, ⟨hleft⟩⟩)))

/-- The figures that are published do not show the stored budgets. -/
theorem mirrors_publishData (now : UInt32) : Mirrors Same (records.publishData now) (others.publishData now) := by
  cases h with
  | mk hconfig =>
    refine .call rfl fun sent => .ite (.done ⟨true, ⟨hconfig⟩⟩) ?_
    exact .logged (.logged (.done ⟨false, ⟨hconfig⟩⟩))

/-- The health that is published does not show the stored budgets. -/
theorem mirrors_publishStatus (pending : UInt32) (healthy : Bool) (now : UInt32) :
    Mirrors Same (records.publishStatus pending healthy now) (others.publishStatus pending healthy now) := by
  cases h with
  | @mk config other status hconfig =>
    have hsnapshot : StatusSnapshot.capture config status pending healthy now =
        StatusSnapshot.capture other status pending healthy now := by
      show StatusSnapshot.capture config.inForce status pending healthy now = _
      rw [hconfig]
      rfl
    unfold publishStatus
    dsimp only
    rw [hsnapshot]
    refine .call rfl fun sent => .ite (.done ⟨true, ⟨hconfig⟩⟩) ?_
    exact .logged (.logged (.done ⟨false, ⟨hconfig⟩⟩))

/-- The answer of the webhook is noted beside the budgets. -/
theorem mirrors_noteHookResponse (now : UInt32) :
    Mirrors Alike (records.noteHookResponse now) (others.noteHookResponse now) := by
  cases h with
  | @mk config other status hconfig =>
    refine .call rfl fun answered => ?_
    cases answered with
    | none => exact .done ⟨hconfig⟩
    | some time =>
      have hanswered : ({ config with lastHookResponse := time } : DeviceConfig).inForce =
          { other with lastHookResponse := time }.inForce :=
        congrArg (fun config : DeviceConfig => { config with lastHookResponse := time }) hconfig
      exact .ite (.done ⟨hanswered⟩) (.logged (.done ⟨hanswered⟩))

/-- Settling the count of resets does not depend on the stored budgets. -/
theorem Alike.settleResetCount : Alike records.settleResetCount.value others.settleResetCount.value := by
  cases h with
  | @mk config other status hconfig =>
    rw [value_settleResetCount, value_settleResetCount]
    dsimp only
    split
    · exact ⟨hconfig⟩
    · have hcleared : config.clearResetCount.inForce = other.clearResetCount.inForce :=
        congrArg DeviceConfig.clearResetCount hconfig
      exact ⟨hcleared⟩

/-- The time of the connection is stored in both. -/
theorem Alike.connectedAt (now : UInt32) :
    Alike { records with config := { records.config with lastConnection := now } }
      { others with config := { others.config with lastConnection := now } } := by
  cases h with
  | @mk config other status hconfig =>
    have hconnected : ({ config with lastConnection := now } : DeviceConfig).inForce =
        { other with lastConnection := now }.inForce :=
      congrArg (fun config : DeviceConfig => { config with lastConnection := now }) hconfig
    exact ⟨hconnected⟩

/-- The actions after a connection do not see the stored budgets. -/
theorem mirrors_actOnline (healthy publish : Bool) (now : UInt32) :
    Mirrors Same (actOnline records healthy publish now) (actOnline others healthy publish now) := by
  cases h with
  | mk hconfig =>
    refine .logged (.call rfl fun reading => .logged (.call rfl fun quality => ?_))
    refine (mirrors_reloadRemote ⟨hconfig⟩ now).bind fun reloaded second hreloaded => ?_
    obtain ⟨report, hleft⟩ := hreloaded
    dsimp -zeta only
    extract_lets rest
    have hrest : ∀ published second, Same published second → Mirrors Same (rest published) (rest second) := by
      intro published second hpublished
      obtain ⟨dataSent, hdata⟩ := hpublished
      refine .call rfl fun pending => (mirrors_publishStatus hdata pending healthy now).bind fun told second htold => ?_
      obtain ⟨sent, hsent⟩ := htold
      refine (mirrors_noteHookResponse hsent now).bind fun noted second hnoted => ?_
      exact .logged (.done ⟨_, (hnoted.connectedAt now).settleResetCount⟩)
    refine .ite ?_ (hrest _ _ ⟨none, hleft⟩)
    refine ((mirrors_publishData hleft now).map (S := Same) fun published second hpublished => ?_).bind hrest
    obtain ⟨sent, hdata⟩ := hpublished
    exact ⟨some sent, hdata⟩

end Records

namespace Controller

open Step (Blind)

variable {α : Type}

/-- An operation on the records is blind where it goes the same way on records with the same budgets in force. -/
theorem blind_onRecords {operation : Records → Program (α × Records)}
    (h : ∀ ⦃records others : Records⦄, records.Alike others →
      Mirrors Records.Same (operation records) (operation others)) : Blind (onRecords operation) := by
  intro c d hveiled
  have hconfig : c.config.value.inForce = d.config.value.inForce := congrArg (·.config.value) hveiled
  have hstatus : c.status.value = d.status.value := congrArg (·.status.value) hveiled
  have hrecords : c.records.Alike d.records := by
    show Records.Alike ⟨c.config.value, c.status.value⟩ ⟨d.config.value, d.status.value⟩
    rw [hstatus]
    exact ⟨hconfig⟩
  have hrun (c : Controller) : (onRecords operation).run c =
      operation c.records >>= fun result => Pure.pure (result.1, c.setRecords result.2) := by
    show operation c.records >>= (fun result => Pure.pure (result, c)) >>= _ = _
    rw [Program.bind_assoc]
    rfl
  have hsetting (c : Controller) (config : DeviceConfig) (status : RuntimeStatus) :
      (c.setRecords ⟨config, status⟩).veiled = c.veiled.setRecords ⟨config.inForce, status⟩ := rfl
  rw [hrun, hrun]
  refine (h hrecords).bind fun result other hsame => ?_
  obtain ⟨a, hleft⟩ := hsame
  obtain ⟨hinForce⟩ := hleft
  refine .done ⟨rfl, ?_⟩
  rw [hsetting, hsetting, hinForce, hveiled]

/-! ## Writing the records -/

/-- A write of the settings may be made on one side only, and whether it succeeds does not matter. -/
theorem mirrors_flush_left {β γ : Type} {R : β → γ → Prop} {record : Persisted DeviceConfig}
    {f : Except StorageError Bool × Persisted DeviceConfig → Program β} {y : Program γ}
    (h : ∀ written saved, Mirrors R (f (written, { record with saved })) y) : Mirrors R (record.flush >>= f) y := by
  unfold Persisted.flush
  by_cases hdirty : record.isDirty = true
  · rw [hdirty]
    cases Record.encodeWithin recordCapacity record.value with
    | error error => exact h (.error error) record.saved
    | ok bytes =>
      refine .writeLeft fun answer => ?_
      cases answer with
      | error error => exact h (.error error) record.saved
      | ok done => exact h (.ok true) (some record.value)
  · rw [Bool.eq_false_iff.mpr hdirty]
    exact h (.ok false) record.saved

/-- The same with the write on the other side. -/
theorem mirrors_flush_right {β γ : Type} {R : β → γ → Prop} {x : Program β} {record : Persisted DeviceConfig}
    {g : Except StorageError Bool × Persisted DeviceConfig → Program γ}
    (h : ∀ written saved, Mirrors R x (g (written, { record with saved }))) : Mirrors R x (record.flush >>= g) :=
  (mirrors_flush_left fun written saved => (h written saved).symm).symm

/-- A flush of the status leaves the stored settings alone. -/
theorem calls_flush_status (record : Persisted RuntimeStatus) : record.flush.Calls (·.isOfConfig = false) := by
  unfold Persisted.flush
  refine .ite (.pure _) ?_
  cases Record.encodeWithin recordCapacity record.value with
  | error error => exact .pure _
  | ok bytes => exact .bind (.call rfl) fun answer => by cases answer <;> exact .pure _

/-- Writing the records is the one thing in which two runs may differ, and it is left out of the comparison. -/
theorem blind_flush : Blind flush := by
  intro c d hveiled
  unfold flush
  rw [Step.run_get_bind, Step.run_get_bind, Step.run_lift_bind, Step.run_lift_bind]
  refine mirrors_flush_left fun written saved => mirrors_flush_right fun writtenOther savedOther => ?_
  dsimp -zeta only
  rw [Step.run_modify_bind, Step.run_modify_bind]
  extract_lets rest
  have hrest : Blind (rest ()) := by
    refine .get (fun _ => rfl) fun c => .bind (.lift (calls_flush_status c.status)) fun result => ?_
    refine .bind (.modify fun _ => rfl) fun _ => ?_
    split
    · exact .lift (.logged _)
    · exact .pure _
  have hstatus := hrest (c := { c with config := { c.config with saved } })
    (d := { d with config := { d.config with saved := savedOther } }) hveiled
  -- either side may have to say that the settings could not be written
  cases written <;> cases writtenOther
  · rw [Step.run_lift_bind, Step.run_lift_bind]
    exact .logged hstatus
  · rw [Step.run_lift_bind]
    exact .logged_left hstatus
  · rw [Step.run_lift_bind]
    exact .logged_right hstatus
  · exact hstatus

/-! ## The states

Where a state makes use of a budget, it is the one in force. -/

/-- Reading the gauge does not see the stored budgets. -/
theorem blind_checkBattery (now : UInt32) : Blind (checkBattery now) := .bind (.ask rfl) fun _ => blind_updateStatus

/-- The driver of the sensor knows nothing of the budgets. -/
theorem blind_ensureSensor (now : UInt32) : Blind (ensureSensor now) := by
  refine .get (fun _ => rfl) fun c => .bind (blind_onSensors fun sensors => ?_) fun ready => ?_
  · exact (sensors.calls_powerUp _).apart fun _ h => Call.isPlain_of_isSensor (Call.isSensor_of_isBringUp h)
  · exact .ite (.pure _) (.note blind_raiseAlert)

/-- Starting up does not see the stored budgets. -/
theorem blind_startUp (moment : Moment) : Blind (startUp moment) := by
  refine .bind (.ask rfl) fun reason => .get (fun _ => rfl) fun c => .note ?_
  extract_lets rest sense clear
  have hrest : Blind (rest ()) := by
    refine .bind (.ask rfl) fun pressed => .bind (.ask rfl) fun held => .get (fun _ => rfl) fun c => .ite (.pure _) ?_
    exact .note (.pure _)
  have hsense : Blind (sense ()) :=
    .bind (blind_checkBattery _) fun _ =>
      .get (fun _ => rfl) fun c => .ite (.bind (blind_ensureSensor _) fun _ => hrest) hrest
  have hclear : Blind (clear ()) :=
    .ite (.bind blind_clearAlert fun cleared => .ite (.note hsense) hsense) hsense
  exact .ite (.note (.bind (.modify fun _ => rfl) fun _ => hclear)) hclear

/-- Whether the device may rest does not depend on them. -/
theorem blind_mayRest (moment : Moment) : Blind (mayRest moment) :=
  .get (fun _ => rfl) fun _ => .ite (.pure _) (.bind (.ask rfl) fun _ => .bind (.ask rfl) fun _ => .pure _)

/-- Idling does not see the stored budgets. -/
theorem blind_idle (moment : Moment) : Blind (idle moment) := by
  refine .bind (.ask rfl) fun pressed => .ite (.note (.pure _)) (.get (fun _ => rfl) fun c => ?_)
  split
  · exact .note (.pure _)
  refine .bind (.and (.pure _) (.and (.ask rfl) (.ask rfl))) fun offered => .ite ?_ ?_
  · exact .bind (.modify fun _ => rfl) fun _ => .pure _
  refine .ite (.pure _) (.ite (.pure _) ?_)
  refine .bind (.and (.pure _) (.map (.ask rfl))) fun offline => .ite (.note (.pure _)) ?_
  exact .bind (blind_mayRest moment) fun rests => .ite (.pure _) (.note (.pure _))

/-- The last connection and the last answer are held apart from the budgets. -/
theorem blind_checkConnectionHealth (now : UInt32) : Blind (checkConnectionHealth now) := by
  refine .get (fun _ => rfl) fun c => ?_
  extract_lets config offline threshold silent rest
  have hrest : Blind (rest ()) := .ite (.note blind_raiseAlert) (.pure _)
  exact .ite (.note (.bind blind_raiseAlert fun _ => hrest)) hrest

/-- Closing the period does not see the stored budgets. -/
theorem blind_closePeriod (moment : Moment) : Blind (closePeriod moment) := by
  refine .get (fun _ => rfl) fun c => .bind (.modify fun _ => rfl) fun _ => ?_
  extract_lets rest
  have hrest : Blind (rest ()) := .get (fun _ => rfl) fun c => .ite blind_updateStatus (.pure _)
  exact .ite (.note hrest) hrest

/-- The report that is queued holds no budget. -/
theorem blind_queueReport (now : UInt32) : Blind (queueReport now) := by
  refine .get (fun _ => rfl) fun c => .bind (.lift ?_) fun sample => .bind (.ask rfl) fun taken => ?_
  · exact c.sensors.calls_sample.apart fun _ h => Call.isPlain_of_isSensor (Call.isSensor_of_isLook h)
  · exact .ite (.note (.pure _)) (.note blind_raiseAlert)

/-- Where the device goes after a report does not depend on them. -/
theorem blind_afterReportOffline (now : UInt32) : Blind (afterReportOffline now) := by
  refine .get (fun _ => rfl) fun c => ?_
  split
  · exact .pure _
  · exact .pure _
  · exact .ite (.pure _) (.note (.pure _))

/-- Reporting does not see the stored budgets. -/
theorem blind_reporting (moment : Moment) : Blind (reporting moment) := by
  refine .bind (blind_closePeriod moment) fun _ => .bind (blind_checkBattery moment.now) fun _ => ?_
  refine .bind (blind_queueReport moment.now) fun _ => .bind (.modify fun _ => rfl) fun _ => ?_
  refine .bind (.modify fun _ => rfl) fun _ => ?_
  extract_lets rest
  have hrest : Blind (rest ()) :=
    .bind (.ask rfl) fun online => .ite (.pure _) (blind_afterReportOffline moment.now)
  exact .ite (.bind (blind_checkConnectionHealth _) fun _ => hrest) hrest

/-- The actions after a connection are done alike. -/
theorem blind_afterConnect (moment : Moment) : Blind (afterConnect moment) := by
  refine .get (fun _ => rfl) fun c => .ite (.pure _) (.bind (.lift ?_) fun healthy => ?_)
  · exact c.sensors.calls_isHealthy.apart fun _ h => Call.isPlain_of_isSensor (Call.isSensor_of_isLook h)
  refine .bind (blind_onRecords fun records others h => Records.mirrors_actOnline h _ _ _) fun summary => ?_
  refine .bind (.modify fun _ => rfl) fun _ => .get (fun _ => rfl) fun _ => .note (.ite (.note ?_) (.pure _))
  exact .modify fun _ => rfl

/-- Being online does not see the stored budgets. -/
theorem blind_online (moment : Moment) : Blind (online moment) := by
  refine .bind (blind_afterConnect moment) fun _ => .bind (.ask rfl) fun offered => ?_
  extract_lets rest
  have hrest : Blind (rest ()) := .get (fun _ => rfl) fun _ => .pure _
  exact .ite (.bind (.modify fun _ => rfl) fun _ => hrest) hrest

/-- With the same budget in hand, the session takes the same step. -/
theorem blind_stepConnect (budget : UInt32) (moment : Moment) : Blind (stepConnect budget moment) := by
  refine .get (fun _ => rfl) fun c => .bind (.lift ?_) fun result => .bind (.modify fun _ => rfl) fun _ => .pure _
  exact (c.connect.calls_step _ _).apart fun _ => Call.isPlain_of_isRadio

/-- The budgets for switching the radio off are read where they are in force. -/
theorem blind_stepDisconnect (moment : Moment) : Blind (stepDisconnect moment) := by
  refine .get (fun c => ?_) fun c => .bind (.lift ?_) fun result => .bind (.modify fun _ => rfl) fun _ => .pure _
  · dsimp only
    have hcloud := c.config.value.cloudDisconnectSecs_inForce
    have hmodem := c.config.value.modemOffSecs_inForce
    show (liftM (c.disconnect.step c.config.value.inForce.cloudDisconnectSecs c.config.value.inForce.modemOffSecs
      moment.uptimeMs) >>= _) = _
    rw [hcloud, hmodem]
  · exact (c.disconnect.calls_step _ _ _).apart fun _ h => Call.isPlain_of_isRadio (Call.isRadio_of_isTeardown h)

/-- So is the budget for coming online. -/
theorem blind_connecting (moment : Moment) : Blind (connecting moment) := by
  refine .get (fun c => ?_) fun c => .bind (blind_stepConnect _ moment) fun progress => ?_
  · show (stepConnect c.config.value.inForce.connectSecs moment >>= _) = _
    rw [c.config.value.connectSecs_inForce]
  · split
    · exact .pure _
    · exact blind_online moment
    · exact .note (blind_online moment)
    · refine .note (.bind blind_raiseAlert fun _ => .bind (.lift ?_) fun _ => .pure _)
      exact calls_forceRadioOff.apart fun _ h => Call.isPlain_of_isRadio (Call.isRadio_of_isTeardown h)

/-- The settings are reloaded once in both runs, or in neither. -/
theorem blind_reloadOnce (now : UInt32) : Blind (reloadOnce now) := by
  refine .get (fun _ => rfl) fun c => .ite (.pure _) (.bind (.modify fun _ => rfl) fun _ => .discard ?_)
  exact blind_onRecords fun records others h => Records.mirrors_reloadRemote h now

/-- Putting an update off does not see the stored budgets. -/
theorem blind_deferUpdate : Blind deferUpdate := .bind (.modify fun _ => rfl) fun _ => .pure _

/-- The update state does not see the stored budgets, either. -/
theorem blind_updating (moment : Moment) : Blind (updating moment) := by
  refine .bind (.ask rfl) fun pressed => .ite (.note blind_deferUpdate) (.get (fun _ => rfl) fun c => ?_)
  refine .ite (.note blind_deferUpdate) (.bind (blind_stepConnect _ moment) fun progress => ?_)
  refine .ite (.pure _) (.bind (.ask rfl) fun online => .ite (.pure _) ?_)
  refine .bind (blind_reloadOnce moment.now) fun _ => .bind (.ask rfl) fun offered => ?_
  exact .ite (.pure _) (.note (.bind (.modify fun _ => rfl) fun _ => .pure _))

/-- A reset writes the settings, and is made whatever was written. -/
theorem blind_recover (resolution : Resolution) : Blind (recover resolution) := by
  refine .bind (.modify fun _ => rfl) fun _ => .bind blind_flush fun _ => .get (fun _ => rfl) fun c => .note ?_
  split
  · exact .bind (.ask rfl) fun _ => .pure _
  · exact .bind (.ask rfl) fun _ => .pure _
  · exact .pure _

/-- The ladder looks at the count of resets, not at the budgets. -/
theorem blind_consultLadder (moment : Moment) : Blind (consultLadder moment) := by
  refine .get (fun _ => rfl) fun c => .logged (.bind (.modify fun _ => rfl) fun _ => .ite ?_ ?_)
  · exact .bind (.modify fun _ => rfl) fun _ => .pure _
  · exact .note (.bind (.modify fun _ => rfl) fun _ => .pure _)

/-- The error state sees only the budgets in force, by which it takes the radio down. -/
theorem blind_rescuing (moment : Moment) : Blind (rescuing moment) := by
  refine .get (fun _ => rfl) fun c => ?_
  split
  · exact .ite (.pure _) (blind_recover _)
  · exact .bind (blind_stepDisconnect moment) fun _ => .ite (.pure _) (blind_consultLadder moment)

/-- What a sleep is planned from holds no budget. -/
theorem blind_sleepInputs (moment : Moment) : Blind (sleepInputs moment) := by
  refine .get (fun _ => rfl) fun c => .bind (.lift ?_) fun _ => .pure _
  exact c.sensors.calls_usesInterrupt.apart fun _ h => Call.isPlain_of_isSensor (Call.isSensor_of_isLook h)

/-- A wake is accounted for in the status. -/
theorem blind_accountForWake (cause : WakeCause) (moment : Moment) : Blind (accountForWake cause moment) := by
  cases cause with
  | manual => exact .discard (.ask rfl)
  | sensor => exact .bind (.discard (.ask rfl)) fun _ => .get (fun _ => rfl) fun c => .discard blind_onCounting
  | timer => exact .pure _

/-- Waking up does not see the stored budgets. -/
theorem blind_wakeUp (pins : WakePins) : Blind (wakeUp pins) := by
  refine .bind (.ask rfl) fun moment => .get (fun _ => rfl) fun c => .note ?_
  extract_lets rest
  have hrest : Blind (rest ()) :=
    .bind (blind_accountForWake _ moment) fun _ => .get (fun _ => rfl) fun _ => .pure _
  refine .ite (.bind (.modify fun _ => rfl) fun _ => ?_) hrest
  exact .bind (blind_ensureSensor moment.now) fun _ => hrest

/-- Powering the sensor down does not see the stored budgets. -/
theorem blind_powerDownSensor : Blind powerDownSensor := by
  refine blind_onSensors fun sensors => .map (sensors.calls_powerDown.mono ?_)
  intro trace after hcalls exchange hmem
  rw [hcalls exchange hmem]
  rfl

/-- A timed sleep goes the same way, whatever was written before it. -/
theorem blind_timedSleep (plan : SleepPlan) : Blind (timedSleep plan) := by
  unfold timedSleep
  extract_lets rest
  have hrest : Blind (rest ()) :=
    .bind blind_flush fun _ => .note (.bind (.ask rfl) fun pins => blind_wakeUp pins)
  exact .ite (.bind blind_powerDownSensor fun _ => hrest) hrest

/-- What follows a deep sleep that came back does not see the stored budgets. -/
theorem blind_afterFailedDeepSleep : Blind afterFailedDeepSleep := by
  refine .bind (.ask rfl) fun moment => .bind blind_raiseAlert fun _ => .get (fun _ => rfl) fun c => .logged ?_
  refine .bind (.modify fun _ => rfl) fun _ => .bind (blind_sleepInputs moment) fun inputs => ?_
  exact .logged (blind_timedSleep _)

/-- A deep sleep writes the records first, and goes the same way after it. -/
theorem blind_deepSleep (plan : SleepPlan) (now : UInt32) : Blind (deepSleep plan now) := by
  refine .bind blind_powerDownSensor fun _ => .bind (.discard blind_onCounting) fun _ => ?_
  refine .bind blind_flush fun _ => .note (.bind (.ask rfl) fun outcome => ?_)
  cases outcome with
  | restarting => exact .pure _
  | resumed => exact blind_afterFailedDeepSleep

/-- Planning the sleep and taking it does not see the stored budgets. -/
theorem blind_sleepNow (moment : Moment) : Blind (sleepNow moment) := by
  refine .bind (blind_sleepInputs moment) fun inputs => .get (fun _ => rfl) fun c => .logged ?_
  refine .bind (.modify fun _ => rfl) fun _ => ?_
  split
  · exact blind_deepSleep _ _
  · exact blind_timedSleep _

/-- The sleeping state sees only the budgets in force, by which it takes the radio down. -/
theorem blind_sleeping (moment : Moment) : Blind (sleeping moment) := by
  refine .get (fun _ => rfl) fun c => .get (fun _ => rfl) fun c =>
    .ite (.note (.pure _)) (.bind ?_ fun busy => .ite ?_ ?_)
  · exact .and (.ask rfl) (.map (.ask rfl))
  · exact .bind (.ask rfl) fun pending => .note (.pure _)
  refine .bind (blind_stepDisconnect moment) fun progress => ?_
  split
  · exact .pure _
  · refine .ite (.note (.bind blind_raiseAlert fun _ => .pure _)) (.note (blind_sleepNow moment))
  · exact .bind blind_clearAlert fun cleared => .ite (.note (blind_sleepNow moment)) (blind_sleepNow moment)

/-! ## The tick -/

/-- So no state sees the stored budgets. -/
theorem blind_carryOut (moment : Moment) : Blind (carryOut moment) := by
  refine .get (fun _ => rfl) fun c => ?_
  cases c.runState with
  | initialization => exact blind_startUp moment
  | error => exact blind_rescuing moment
  | idle => exact blind_idle moment
  | sleeping => exact blind_sleeping moment
  | connecting => exact blind_connecting moment
  | reporting => exact blind_reporting moment
  | firmwareUpdate => exact blind_updating moment

/-- Accounting for detections does not see the stored budgets. -/
theorem blind_serviceCounting (moment : Moment) : Blind (serviceCounting moment) := by
  refine .bind (.ask rfl) fun marked => .get (fun _ => rfl) fun c => .bind (.lift ?_) fun polled => ?_
  · exact c.sensors.calls_poll.apart fun _ h => Call.isPlain_of_isSensor (Call.isSensor_of_isLook h)
  · exact .get (fun _ => rfl) fun c => .discard blind_onCounting

/-- Setting a state up does not depend on the stored budgets. -/
theorem veiled_prepare (c : Controller) (uptimeMs : UInt64) :
    (c.prepare uptimeMs).veiled = c.veiled.prepare uptimeMs := by
  obtain ⟨runState⟩ := c
  cases runState <;> rfl

/-- Entering a state does not look at the settings. -/
theorem blind_enterState (moment : Moment) : Blind (enterState moment) := by
  intro c d hveiled
  have hprevious : c.veiled.previous = d.veiled.previous := by rw [hveiled]
  have hstate : c.veiled.runState = d.veiled.runState := by rw [hveiled]
  change c.previous = d.previous at hprevious
  change c.runState = d.runState at hstate
  have hentered : ({ c.prepare moment.uptimeMs with previous := some c.runState } : Controller).veiled =
      { d.prepare moment.uptimeMs with previous := some d.runState }.veiled := by
    show { (c.prepare moment.uptimeMs).veiled with previous := some c.runState } =
      { (d.prepare moment.uptimeMs).veiled with previous := some d.runState }
    rw [veiled_prepare, veiled_prepare, hveiled, hstate]
  unfold enterState
  rw [Step.run_get_bind, Step.run_get_bind, ← hprevious]
  rw [← hstate] at hentered ⊢
  by_cases hsame : c.previous = some c.runState
  · rw [if_pos hsame, if_pos hsame]
    exact .done ⟨rfl, hveiled⟩
  · rw [if_neg hsame, if_neg hsame]
    split
    all_goals
      rw [Step.run_lift_bind, Step.run_lift_bind]
      exact .logged (.done ⟨rfl, hentered⟩)

/-- Following a decision does not look at the settings. -/
theorem blind_follow (outcome : Outcome) : Blind (follow outcome) := by
  cases outcome with
  | remain => exact .pure _
  | moveTo next => exact .bind (.modify fun _ => rfl) fun _ => .pure _
  | restart => exact .pure _

/-- A tick does not see the stored budgets. -/
theorem blind_tick : Blind tick := by
  refine .bind (.ask rfl) fun moment => .bind (blind_serviceCounting moment) fun _ => ?_
  refine .bind (blind_enterState moment) fun _ => .bind (blind_carryOut moment) fun outcome => ?_
  exact .bind (blind_follow outcome) fun control => .bind blind_flush fun _ => .pure _

end Controller

end FieldCounter
