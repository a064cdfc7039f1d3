import FieldCounter.Controller.Tick
import FieldCounter.Proofs.Step

/-!
# Effects

A tick is a long program, but there are only a few kinds of things that any part of it does: a call
to a device, a step of a session, a change of one of the records or of what else the controller
remembers. These are the effects, and a step is within a set of them when every path of it is a
sequence of such effects. A law that every effect of the set keeps is then a law of the step, by
induction on the sequence.
-/

namespace FieldCounter

open Program (Path)

/-- A kind of thing that a part of a tick does. -/
inductive Effect where
  /-- One call to a device. -/
  | ask (call : Call)
  /-- A look at the sensor. -/
  | sense
  | powerUp
  | powerDown
  /-- A step of the connect session. -/
  | connect
  /-- A step of the disconnect session. -/
  | disconnect
  | radioOff
  | battery
  | raise (alert : Alert)
  | clear (alert : Alert)
  /-- The alert slot is settled by the recovery ladder. -/
  | settle
  /-- Detections are accounted for, once per tick. -/
  | service
  /-- The detection that ended a sleep is accounted for. -/
  | detection
  /-- The open session is closed before a deep sleep. -/
  | closeSession
  /-- The open session is credited to the period. -/
  | credit
  | newDay
  | newPeriod
  /-- The time of the report is stored. -/
  | reported
  /-- It is stored whether a firmware update waits. -/
  | markUpdate (pending : Bool)
  /-- The actions after a connection. -/
  | actOnline
  /-- The remote settings are fetched and applied. -/
  | reload
  /-- One more reset is counted. -/
  | countReset
  /-- The settings are written if they changed. -/
  | writeConfig
  /-- The status is written if it changed. -/
  | writeStatus
  | suppressWebhook
  /-- The actions after a connection are noted as done. -/
  | noteActed
  | noteConnected
  | noteReloaded
  | deferUpdate
  /-- The error state is put off. -/
  | putOff
  /-- A reset is decided on. -/
  | decide
  /-- The planner remembers a plan or what it saw. -/
  | plan
  /-- The present state is entered. -/
  | enter
  /-- The next state is chosen. -/
  | move
deriving DecidableEq

namespace Controller

/-- Put new settings in place of the present ones. -/
def setConfig (controller : Controller) (config : DeviceConfig) : Controller :=
  { controller with config := { controller.config with value := config } }

/-- Put a new status in place of the present one. -/
def setStatus (controller : Controller) (status : RuntimeStatus) : Controller :=
  { controller with status := { controller.status with value := status } }

/-- What is left in memory after counting. -/
def setCounting {α : Type} (controller : Controller) (result : α × CountingEngine × RuntimeStatus) :
    Controller :=
  { controller with counting := result.2.1 }.setStatus result.2.2

end Controller

/-- One effect: the controller before it, the calls it makes and the controller after it. -/
inductive Effect.Does : Effect → Controller → List Exchange → Controller → Prop where
  | ask (c : Controller) (call : Call) (answer : call.Answer) : Does (.ask call) c [⟨call, answer⟩] c
  | poll {c trace found} : Path c.sensors.poll trace found → Does .sense c trace c
  | sample {c trace sample} : Path c.sensors.sample trace sample → Does .sense c trace c
  | interrupt {c trace uses} : Path c.sensors.usesInterrupt trace uses → Does .sense c trace c
  | health {c trace healthy} : Path c.sensors.isHealthy trace healthy → Does .sense c trace c
  | powerUp {c trace ready sensors} :
      Path (c.sensors.powerUp c.config.value.sensorType) trace (ready, sensors) →
      Does .powerUp c trace { c with sensors }
  | powerDown {c trace sensors} : Path c.sensors.powerDown trace sensors →
      Does .powerDown c trace { c with sensors }
  | connect {c budget uptime trace progress connect} :
      Path (c.connect.step budget uptime) trace (progress, connect) → Does .connect c trace { c with connect }
  | disconnect {c uptime trace progress disconnect} :
      Path (c.disconnect.step c.config.value.cloudDisconnectSecs c.config.value.modemOffSecs uptime) trace
        (progress, disconnect) →
      Does .disconnect c trace { c with disconnect }
  | radioOff {c trace} : Path forceRadioOff trace () → Does .radioOff c trace c
  | battery (c reading now) : Does .battery c [⟨.readBattery, reading⟩]
      (c.setStatus (c.status.value.updateBattery reading now).value)
  | raise (c alert now) : Does (.raise alert) c [] (c.setStatus (c.status.value.raiseAlert alert now).value)
  | clear (c alert) : Does (.clear alert) c [] (c.setStatus (c.status.value.clearAlertIf (· == alert)).value)
  | settle (c moment) : Does .settle c [] (c.setStatus { c.status.value with
      alert := (resolveAlert c.status.value.alert (c.recoveryContext moment)).value.2 })
  | service (c edge moment) : Does .service c [] (c.setCounting (c.counting.service edge
      c.config.value.countingMode c.config.value.debounceMs c.status.value moment).value)
  | detection (c moment) : Does .detection c [] (c.setCounting (c.counting.recordEvent
      c.config.value.countingMode c.status.value moment).value)
  | closeSession (c now) : Does .closeSession c []
      (c.setCounting (c.counting.closeOccupancy c.status.value now).value)
  | credit (c now) : Does .credit c [] (c.setStatus (c.status.value.creditOpenOccupancy now).2)
  | newDay (c) : Does .newDay c [] (c.setStatus c.status.value.resetDaily.value)
  | newPeriod (c) : Does .newPeriod c [] (c.setStatus c.status.value.resetHourly)
  | reported (c now) : Does .reported c [] (c.setConfig { c.config.value with lastReport := now })
  | markUpdate (c pending) : Does (.markUpdate pending) c []
      (c.setStatus { c.status.value with updatePending := pending })
  | actOnline {c healthy publishData now trace summary records} :
      Path (FieldCounter.actOnline c.records healthy publishData now) trace (summary, records) →
      Does .actOnline c trace (c.setRecords records)
  | reload {c now trace report records} : Path (c.records.reloadRemote now) trace (report, records) →
      Does .reload c trace (c.setRecords records)
  | countReset (c) : Does .countReset c [] (c.setConfig c.config.value.incrementResetCount)
  | writeConfig {c trace written config} : Path c.config.flush trace (written, config) →
      Does .writeConfig c trace { c with config }
  | writeStatus {c trace written status} : Path c.status.flush trace (written, status) →
      Does .writeStatus c trace { c with status }
  | suppressWebhook (c) : Does .suppressWebhook c [] { c with suppressWebhookAlert := true }
  | noteActed (c) : Does .noteActed c [] { c with actedOnline := true }
  | noteConnected (c) : Does .noteConnected c [] { c with connectedOnce := true }
  | noteReloaded (c) : Does .noteReloaded c [] { c with update := { c.update with reloaded := true } }
  | deferUpdate (c) : Does .deferUpdate c [] { c with updateDeferred := true }
  | putOff (c later) : Does .putOff c [] { c with errorRecheckAt := later }
  | decide (c decision) : Does .decide c [] { c with decision := some decision }
  | plan {c : Controller} {planner : SleepPlanner} :
      -- what failed once in this boot is not made available again
      (planner.isDeepAvailable = true → c.planner.isDeepAvailable = true) → Does .plan c [] { c with planner }
  | enter {c : Controller} (uptime) : c.previous ≠ some c.runState →
      Does .enter c [] { c.prepare uptime with previous := some c.runState }
  | move (c next) : Does .move c [] { c with runState := next }

/-- Setting a state up does not change it. -/
@[simp] theorem Controller.runState_prepare (c : Controller) (uptimeMs : UInt64) :
    (c.prepare uptimeMs).runState = c.runState := by
  unfold prepare
  split <;> rfl

/-- Nor does it touch the settings. -/
@[simp] theorem Controller.config_prepare (c : Controller) (uptimeMs : UInt64) :
    (c.prepare uptimeMs).config = c.config := by
  unfold prepare
  split <;> rfl

/-- Nor the status. -/
@[simp] theorem Controller.status_prepare (c : Controller) (uptimeMs : UInt64) :
    (c.prepare uptimeMs).status = c.status := by
  unfold prepare
  split <;> rfl

/-- A decision is forgotten on entering the error state, and kept otherwise. -/
theorem Controller.decision_prepare (c : Controller) (uptimeMs : UInt64) :
    (c.prepare uptimeMs).decision = c.decision ∨ (c.prepare uptimeMs).decision = none := by
  unfold prepare
  cases c.runState with
  | error => exact .inr rfl
  | _ => exact .inl rfl

/-- Only a move changes the state. -/
theorem Effect.Does.runState_eq {effect : Effect} {before after : Controller} {trace : List Exchange}
    (h : effect.Does before trace after) (hmove : effect ≠ .move) : after.runState = before.runState := by
  cases h with
  | move => exact absurd rfl hmove
  | enter uptime => exact before.runState_prepare uptime
  | _ => rfl

/-- A sequence of allowed effects, with all the calls it makes. -/
inductive Effects (allowed : Effect → Bool) : Controller → List Exchange → Controller → Prop where
  | none (c : Controller) : Effects allowed c [] c
  | cons {effect : Effect} {before between after : Controller} {trace rest : List Exchange} :
      allowed effect = true → effect.Does before trace between → Effects allowed between rest after →
      Effects allowed before (trace ++ rest) after

namespace Effects

variable {allowed : Effect → Bool} {before between after : Controller} {trace rest : List Exchange}

/-- One effect is a sequence. -/
theorem single {effect : Effect} (hallowed : allowed effect = true) (h : effect.Does before trace after) :
    Effects allowed before trace after := by
  have hcons := Effects.cons hallowed h (.none after)
  rwa [List.append_nil] at hcons

/-- One sequence after another. -/
theorem append (h : Effects allowed before trace between) (hrest : Effects allowed between rest after) :
    Effects allowed before (trace ++ rest) after := by
  induction h with
  | none c => exact hrest
  | cons hallowed hdoes _ ih =>
    rw [List.append_assoc]
    exact .cons hallowed hdoes (ih hrest)

/-- More effects may be allowed. -/
theorem mono {more : Effect → Bool} (h : Effects allowed before trace after)
    (hmore : ∀ effect, allowed effect = true → more effect = true) : Effects more before trace after := by
  induction h with
  | none c => exact .none c
  | cons hallowed hdoes _ ih => exact .cons (hmore _ hallowed) hdoes ih

/-- A relation that holds of doing nothing, and goes on holding with every allowed effect, holds of
the whole sequence. -/
theorem fold {R : Controller → List Exchange → Controller → Prop} (hnone : ∀ c, R c [] c)
    (hcons : ∀ ⦃effect before trace between rest after⦄, allowed effect = true →
      effect.Does before trace between → R between rest after → R before (trace ++ rest) after)
    (h : Effects allowed before trace after) : R before trace after := by
  induction h with
  | none c => exact hnone c
  | cons hallowed hdoes _ ih => exact hcons hallowed hdoes ih

/-- Without a move the state stays. -/
theorem runState_eq (h : Effects allowed before trace after) (hmove : allowed .move = false) :
    after.runState = before.runState := by
  refine h.fold (R := fun before _ after => after.runState = before.runState) (fun _ => rfl) ?_
  intro effect before trace between rest after hallowed hdoes hrest
  rw [hrest]
  exact hdoes.runState_eq fun heq => by simp [heq, hmove] at hallowed

end Effects

namespace Step

open Controller

variable {α β : Type} {allowed : Effect → Bool} {c : Controller}

/-- Every path of the step from the controller is a sequence of allowed effects. -/
def Within (allowed : Effect → Bool) (x : Step α) (c : Controller) : Prop :=
  x.Ensures c fun trace _ after => Effects allowed c trace after

namespace Within

/-- A value on its own has no effect. -/
theorem pure (a : α) : Within allowed (Pure.pure a : Step α) c := ensures_pure.mpr (.none c)

/-- Two steps in a row have the effects of both. -/
theorem bind {x : Step α} {f : α → Step β} (hx : Within allowed x c)
    (hf : ∀ a between, Within allowed (f a) between) : Within allowed (x >>= f : Step β) c :=
  ensures_bind.mpr fun _ _ hbefore _ _ hafter => (hx hbefore).append (hf _ _ hafter)

/-- Looking at the controller is no effect, and what follows is seen from that controller. -/
theorem get {f : Controller → Step β} (hf : Within allowed (f c) c) :
    Within allowed (MonadState.get >>= f : Step β) c := by
  refine ensures_bind.mpr (ensures_get.mpr ?_)
  simp only [List.nil_append]
  exact hf

/-- What an operation writes to the log is no effect. -/
theorem logged {x : Logged α} {f : α → Step β} (hf : Within allowed (f x.value) c) :
    Within allowed ((liftM x : Step α) >>= f : Step β) c := by
  refine ensures_bind.mpr (ensures_logged.mpr ?_)
  simp only [List.nil_append]
  exact hf

/-- Writing a note is no effect. -/
theorem note {level : Level} {topic : Topic} {text : String} {f : Unit → Step β}
    (hf : Within allowed (f ()) c) :
    Within allowed ((liftM (FieldCounter.note level topic text) : Step Unit) >>= f : Step β) c :=
  logged hf

/-- A choice has the effects of one of its sides. -/
theorem ite {p : Prop} [Decidable p] {x y : Step α} (hx : Within allowed x c) (hy : Within allowed y c) :
    Within allowed (if p then x else y : Step α) c :=
  ensures_ite.mpr ⟨fun _ => hx, fun _ => hy⟩

/-- A function applied to the value has no effect. -/
theorem map {x : Step α} {f : α → β} (hx : Within allowed x c) : Within allowed (f <$> x : Step β) c :=
  ensures_map.mpr hx

/-- Discarding the value has no effect. -/
theorem discard {x : Step α} (hx : Within allowed x c) : Within allowed (Functor.discard x : Step PUnit) c :=
  ensures_discard.mpr hx

/-- A conjunction has no effects but those of its conditions. -/
theorem and {x y : Step Bool} (hx : Within allowed x c) (hy : ∀ between, Within allowed y between) :
    Within allowed (x <&&> y : Step Bool) c := by
  refine bind hx fun first between => ?_
  cases first
  · exact pure _
  · exact hy between

/-- A step keeps within a longer list of effects. -/
theorem mono {more : Effect → Bool} {x : Step α} (hx : Within allowed x c)
    (hmore : ∀ effect, allowed effect = true → more effect = true) : Within more x c :=
  Ensures.mono hx fun _ _ _ h => h.mono hmore

/-! ## Steps that are one effect -/

/-- A call on its own is the one effect of making it. -/
theorem ask {call : Call} (h : allowed (.ask call) = true) :
    Within allowed (liftM (FieldCounter.call call) : Step call.Answer) c :=
  ensures_call.mpr fun answer => .single h (.ask c call answer)

/-- A program of the controller's parts is one effect where each of its paths is. -/
theorem lift {effect : Effect} {x : Program α} (h : allowed effect = true)
    (hx : ∀ trace a, Path x trace a → effect.Does c trace c) : Within allowed (liftM x : Step α) c :=
  ensures_lift.mpr fun _ _ hpath => .single h (hx _ _ hpath)

/-- What follows a program is seen after each of its paths. -/
theorem program {x : Program α} {f : α → Step β}
    (h : ∀ trace a, Path x trace a →
      Step.Ensures (f a) c fun rest _ after => Effects allowed c (trace ++ rest) after) :
    Within allowed ((liftM x : Step α) >>= f : Step β) c :=
  ensures_bind.mpr (ensures_lift.mpr fun _ _ hpath => h _ _ hpath)

/-- A program that ran on a part of the controller is one effect once the part is put back. -/
theorem putBack {effect : Effect} {trace : List Exchange} {put : Controller → Controller} {f : PUnit → Step β}
    (h : allowed effect = true) (hdoes : effect.Does c trace (put c)) (hf : Within allowed (f ⟨⟩) (put c)) :
    Step.Ensures (modify put >>= f : Step β) c
      fun rest _ after => Effects allowed c (trace ++ rest) after := by
  refine ensures_bind.mpr (ensures_modify.mpr (Ensures.mono hf fun rest _ after hrest => ?_))
  exact .cons h hdoes hrest

/-- A change of what the controller remembers is one effect. -/
theorem modify {effect : Effect} {f : Controller → Controller} (h : allowed effect = true)
    (hf : effect.Does c [] (f c)) : Within allowed (modify f : Step PUnit) c :=
  ensures_modify.mpr (.single h hf)

end Within

end Step

end FieldCounter
