import FieldCounter.Proofs.BringUp
import FieldCounter.Proofs.Run
import FieldCounter.Proofs.Sleeping

/-!
# What became of the sensor

What the sensor is told, and what it answers, are calls, so whether it is up, or was given up, can be
read off the calls since the boot. That is what the sensor manager remembers of it, after every effect
and so after every tick.
-/

namespace FieldCounter

open Program (Path)

/-- What became of the sensor in this boot. -/
inductive Supply where
  /-- It was not brought up, or powered down since. -/
  | off
  | up
  /-- The last attempt to bring it up failed. -/
  | failed
deriving DecidableEq, Repr

/-- What a call and its answer make of it. -/
def Supply.next : Supply → Exchange → Supply
  | _, ⟨.isSensorReady, ready⟩ => if ready = true then .up else .failed
  | supply, ⟨.initSensor, responded⟩ => if responded = true then supply else .failed
  | _, ⟨.sleepSensor, _⟩ => .off
  | supply, _ => supply

/-- What an event makes of it. -/
def Supply.after : Supply → Event → Supply
  | _, .boot _ _ => .off
  | supply, .tick _ calls _ _ => calls.foldl next supply
  | supply, .raise _ _ => supply

/-- What has become of the sensor by the end of the history. -/
def sensorSupply (history : List Event) : Supply := history.foldl Supply.after .off

/-- One more event is accounted for last. -/
theorem sensorSupply_concat (history : List Event) (event : Event) :
    sensorSupply (history ++ [event]) = (sensorSupply history).after event := by
  rw [sensorSupply, List.foldl_append]
  rfl

/-- The manager knows whether the sensor is up. -/
def Supply.Known (supply : Supply) (manager : SensorManager) : Prop := supply = .up ↔ manager.powered = true

/-! ## Calls -/

/-- The call neither sleeps in place nor belongs to an attempt to bring the sensor up. -/
def Call.keepsDark : Call → Bool
  | .timedSleep _ _ | .buildSensor _ | .initSensor | .wakeSensor | .isSensorReady => false
  | _ => true

/-- Nor does it power the sensor down. -/
def Call.keepsSupply : Call → Bool
  | .sleepSensor => false
  | call => call.keepsDark

/-- The calls neither sleep in place nor bring the sensor up. -/
def Dark (calls : List Exchange) : Prop := ∀ exchange ∈ calls, exchange.call.keepsDark = true

/-- Nor do they power the sensor down. -/
def Still (calls : List Exchange) : Prop := ∀ exchange ∈ calls, exchange.call.keepsSupply = true

/-- The sensor was powered down in one of the calls. -/
def PowersDown (calls : List Exchange) : Prop := Call.sleepSensor ∈ calls.map Exchange.call

/-- A call that leaves the sensor alone does not bring it up. -/
theorem Call.keepsDark_of_keepsSupply {call : Call} (h : call.keepsSupply = true) : call.keepsDark = true := by
  cases call <;> first | rfl | cases h

/-- The only one that does not bring it up and still changes it is the one that powers it down. -/
theorem Call.keepsSupply_of_ne {call : Call} (h : call.keepsDark = true) (hne : call ≠ .sleepSensor) :
    call.keepsSupply = true := by
  cases call <;> first | exact h | exact absurd rfl hne

section
variable {calls first rest : List Exchange} {supply : Supply}

/-- Calls that leave the sensor alone do not bring it up. -/
theorem Still.dark (h : Still calls) : Dark calls := fun exchange hmem =>
  Call.keepsDark_of_keepsSupply (h exchange hmem)

/-- An empty list of calls leaves the sensor alone. -/
theorem still_nil : Still [] := fun _ hmem => absurd hmem List.not_mem_nil

/-- One more call that leaves the sensor alone makes no difference. -/
theorem Still.cons {exchange : Exchange} (h : exchange.call.keepsSupply = true) (hcalls : Still calls) :
    Still (exchange :: calls) :=
  List.forall_mem_cons.mpr ⟨h, hcalls⟩

/-- Two parts that leave the sensor alone do so together. -/
theorem Still.append (h : Still first) (hrest : Still rest) : Still (first ++ rest) :=
  List.forall_mem_append.mpr ⟨h, hrest⟩

/-- One more call that does not bring the sensor up makes no difference. -/
theorem Dark.cons {exchange : Exchange} (h : exchange.call.keepsDark = true) (hcalls : Dark calls) :
    Dark (exchange :: calls) :=
  List.forall_mem_cons.mpr ⟨h, hcalls⟩

/-- Two parts that do not bring the sensor up do not do so together. -/
theorem Dark.append (h : Dark first) (hrest : Dark rest) : Dark (first ++ rest) :=
  List.forall_mem_append.mpr ⟨h, hrest⟩

/-- The sensor is powered down by the first call or by a later one. -/
theorem powersDown_cons {exchange : Exchange} :
    PowersDown (exchange :: calls) ↔ exchange.call = .sleepSensor ∨ PowersDown calls := by
  simp [PowersDown, eq_comm]

/-- The sensor is powered down in one of the parts. -/
theorem powersDown_append : PowersDown (first ++ rest) ↔ PowersDown first ∨ PowersDown rest := by
  simp [PowersDown]

/-- Calls that leave the sensor alone do not power it down. -/
theorem Still.not_powersDown (h : Still calls) : ¬PowersDown calls := by
  intro hdown
  obtain ⟨exchange, hmem, hcall⟩ := List.mem_map.mp hdown
  have hkeeps := h exchange hmem
  rw [hcall] at hkeeps
  cases hkeeps

/-- A call that leaves the sensor alone changes nothing about it. -/
theorem Supply.next_of_keepsSupply {exchange : Exchange} (h : exchange.call.keepsSupply = true) :
    supply.next exchange = supply := by
  obtain ⟨call, answer⟩ := exchange
  cases call <;> first | rfl | cases h

/-- A call that is not to the sensor changes nothing about it. -/
theorem Supply.next_of_not_isSensor {exchange : Exchange} (h : exchange.call.isSensor = false) :
    supply.next exchange = supply := by
  obtain ⟨call, answer⟩ := exchange
  cases call <;> first | rfl | cases h

/-- Calls that leave the sensor alone make nothing of it. -/
theorem Still.supply_eq (h : Still calls) : calls.foldl Supply.next supply = supply := by
  induction calls with
  | nil => rfl
  | cons exchange calls ih =>
    obtain ⟨hfirst, hrest⟩ := List.forall_mem_cons.mp h
    rw [List.foldl_cons, Supply.next_of_keepsSupply hfirst, ih hrest]

/-- Calls that bring nothing up leave it off, or power it down. -/
theorem Dark.supply_eq_off_iff (h : Dark calls) :
    calls.foldl Supply.next supply = .off ↔ PowersDown calls ∨ supply = .off := by
  induction calls generalizing supply with
  | nil => simp [PowersDown]
  | cons exchange calls ih =>
    obtain ⟨hfirst, hrest⟩ := List.forall_mem_cons.mp h
    rw [List.foldl_cons, ih hrest, powersDown_cons]
    obtain ⟨call, answer⟩ := exchange
    by_cases hdown : call = .sleepSensor
    · subst hdown
      simp [Supply.next]
    · have hkeeps : call.keepsSupply = true := Call.keepsSupply_of_ne hfirst hdown
      have hnext : supply.next ⟨call, answer⟩ = supply := Supply.next_of_keepsSupply hkeeps
      simp [hnext, hdown]

end

/-! ## The sensor manager -/

namespace SensorManager

variable {manager next : SensorManager} {left : Nat} {calls : List Exchange} {ready : Bool} {supply : Supply}

/-- The answers to the attempts say whether the sensor is up; once they are used up, the last one has failed. -/
theorem Attempts.supply_eq (h : Attempts left calls ready) (hsupply : 0 < left ∨ supply = .failed) :
    calls.foldl Supply.next supply = if ready = true then .up else .failed := by
  induction h generalizing supply with
  | exhausted => simpa using hsupply
  | succeeds => rfl
  | silent _ ih | unready _ ih => exact ih (.inr rfl)

/-- Having the driver in use ready leaves the sensor up, or failed. -/
theorem Readies.supply_eq (h : manager.Readies calls ready next) :
    calls.foldl Supply.next supply = if ready = true then .up else .failed := by
  cases h with
  | wasReady => rfl
  | lost _ htrying | tries _ htrying => exact htrying.supply_eq (.inl (by decide))

variable (manager)

/-- An attempt to have a powered sensor says whether it is up, whatever was known of it. -/
theorem ensures_powerUp (code : UInt8) :
    (manager.powerUp code).Ensures fun trace result => result.2.powered = result.1 ∧
      ∀ supply : Supply, trace.foldl Supply.next supply = if result.1 = true then .up else .failed := by
  refine (manager.ensures_powerUp_parts code).mono ?_
  rintro _ result ⟨waking, woken, building, installed, readying, _, _, hreadies, rfl⟩
  refine ⟨hreadies.powered_eq, fun supply => ?_⟩
  rw [List.foldl_append, List.foldl_append]
  exact hreadies.supply_eq

/-- Powering the sensor down leaves it off, unless it was not up. -/
theorem ensures_powerDown :
    manager.powerDown.Ensures fun trace result => ∀ supply : Supply, supply.Known manager →
      (trace.foldl Supply.next supply).Known result := by
  refine manager.ensures_goesDown.mono fun trace result hdown supply hknown => ?_
  cases hdown with
  | wasDown => exact hknown
  | sleeps => simp [Supply.Known, Supply.next]

end SensorManager

/-! ## Effects -/

/-- The effect neither sleeps in place nor brings the sensor up nor powers it down. -/
def Effect.keepsSupply : Effect → Bool
  | .powerUp | .powerDown => false
  | .ask call => call.keepsSupply
  | _ => true

/-- An effect that leaves the sensor alone makes only calls that do. -/
theorem Effect.keepsSupply_of_mayCall {effect : Effect} {call : Call} (h : effect.mayCall call = true)
    (hkeeps : effect.keepsSupply = true) : call.keepsSupply = true := by
  cases effect with
  | powerUp | powerDown => cases hkeeps
  | ask asked =>
    rw [← eq_of_beq h]
    exact hkeeps
  | battery | reload =>
    rw [eq_of_beq h]
    rfl
  | _ => cases call <;> first | rfl | cases h

namespace Effect

variable {effect : Effect}

/-- The opening of a tick leaves the sensor alone. -/
theorem keepsSupply_of_opens (h : effect.opens = true) : effect.keepsSupply = true := by
  unfold opens at h
  split at h <;> first | rfl | cases h

/-- Winding the radio down leaves the sensor alone. -/
theorem keepsSupply_of_windsDown (h : effect.windsDown = true) : effect.keepsSupply = true := by
  unfold windsDown at h
  split at h <;> first | rfl | cases h

/-- Planning a sleep leaves the sensor alone. -/
theorem keepsSupply_of_plans (h : effect.plans = true) : effect.keepsSupply = true := by
  unfold plans at h
  split at h <;> first | rfl | cases h

/-- Planning another sleep after a deep one came back leaves the sensor alone. -/
theorem keepsSupply_of_replans (h : effect.replans = true) : effect.keepsSupply = true := by
  unfold replans at h
  split at h <;> first | rfl | cases h

/-- Accounting for what ended a sleep leaves the sensor alone. -/
theorem keepsSupply_of_accounts (h : effect.accounts = true) : effect.keepsSupply = true := by
  unfold accounts at h
  split at h <;> first | rfl | cases h

/-- Writing the records leaves the sensor alone. -/
theorem keepsSupply_of_writes (h : effect.writes = true) : effect.keepsSupply = true := by
  unfold writes at h
  split at h <;> first | rfl | cases h

end Effect

/-- Only powering up or down changes the manager. -/
theorem Effect.Does.sensors_eq {effect : Effect} {before after : Controller} {trace : List Exchange}
    (h : effect.Does before trace after) (hup : effect ≠ .powerUp) (hdown : effect ≠ .powerDown) :
    after.sensors = before.sensors := by
  cases h with
  | powerUp => exact absurd rfl hup
  | powerDown => exact absurd rfl hdown
  | enter uptime =>
    show (before.prepare uptime).sensors = _
    unfold Controller.prepare
    split <;> rfl
  | _ => rfl

/-- Effects that leave the sensor alone make no calls that do not. -/
theorem Effects.still {allowed : Effect → Bool} {before after : Controller} {trace : List Exchange}
    (h : Effects allowed before trace after) (hkeeps : ∀ effect, allowed effect = true → effect.keepsSupply = true) :
    Still trace := by
  intro exchange hmem
  obtain ⟨effect, hallowed, hcall⟩ := h.mayCall exchange hmem
  exact Effect.keepsSupply_of_mayCall hcall (hkeeps effect hallowed)

/-- Whatever an effect does, the manager goes on knowing whether the sensor is up. -/
theorem Effect.Does.known {effect : Effect} {before after : Controller} {trace : List Exchange} {supply : Supply}
    (h : effect.Does before trace after) (hask : ∀ call, effect = .ask call → call.isSensor = false)
    (hknown : supply.Known before.sensors) : (trace.foldl Supply.next supply).Known after.sensors := by
  by_cases hkeeps : effect.keepsSupply = true
  · have hstill : Still trace := fun exchange hmem =>
      Effect.keepsSupply_of_mayCall (h.mayCall exchange hmem) hkeeps
    have hsame : after.sensors = before.sensors := by
      refine h.sensors_eq ?_ ?_
      all_goals
        rintro rfl
        cases hkeeps
    rwa [hstill.supply_eq, hsame]
  · cases h with
    | ask c call answer =>
      have hcall : call.isSensor = false := hask call rfl
      have hnext : supply.next ⟨call, answer⟩ = supply := Supply.next_of_not_isSensor hcall
      rwa [List.foldl_cons, List.foldl_nil, hnext]
    | powerUp hpath =>
      obtain ⟨hpowered, hsupply⟩ := SensorManager.ensures_powerUp _ _ hpath
      rw [hsupply, Supply.Known, hpowered]
      split <;> simp_all
    | powerDown hpath => exact SensorManager.ensures_powerDown _ hpath supply hknown
    | _ => exact absurd rfl hkeeps

/-- Any effects whose own calls are not to the sensor keep it known whether it is up. -/
theorem Effects.known {allowed : Effect → Bool} {before after : Controller} {trace : List Exchange} {supply : Supply}
    (h : Effects allowed before trace after) (hask : ∀ call, allowed (.ask call) = true → call.isSensor = false)
    (hknown : supply.Known before.sensors) : (trace.foldl Supply.next supply).Known after.sensors := by
  induction h generalizing supply with
  | none c => exact hknown
  | cons hallowed hdoes _ ih =>
    rw [List.foldl_append]
    refine ih (hdoes.known (fun call heq => ?_) hknown)
    rw [heq] at hallowed
    exact hask call hallowed

/-- The bare calls of a tick are not to the sensor, which is dealt with by its manager. -/
theorem RunState.isSensor_of_ticks {state : RunState} {call : Call} (h : state.ticks (.ask call) = true) :
    call.isSensor = false := by
  cases state <;> cases call <;> first | rfl | cases h

/-- So it does through a tick. -/
theorem Controller.known_of_tick {before after : Controller} {calls : List Exchange} {control : Control}
    {supply : Supply} (h : Path (tick.run before) calls (control, after)) (hknown : supply.Known before.sensors) :
    (calls.foldl Supply.next supply).Known after.sensors := by
  obtain ⟨first, closing, ready, heffects, hflush, rfl⟩ := effects_tick h
  have hall : Effects before.runState.ticks before (first ++ closing) after :=
    heffects.append (within_flush rfl rfl hflush)
  exact hall.known (fun call => RunState.isSensor_of_ticks) hknown

end FieldCounter
