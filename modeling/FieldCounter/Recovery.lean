import FieldCounter.Alert.Slot
import FieldCounter.Clock
import FieldCounter.Config.Mode

/-!
# The recovery ladder

A systemic alert is met with a reset, and the resets made so far decide how hard a one: first the
processor is restarted, then the supply is cut, and in the end nothing more is done until a good
connection has cleared the count. Every alert has its own ladder on the one count, and none goes
past the fourth reset.
-/

namespace FieldCounter

/-- A webhook answer older than this counts as stale, in seconds. -/
def webhookStaleSecs : Nat := 3 * 3600

/-- How long nothing is done about an alert after the ladder came to its end, in seconds. -/
def errorRecheckSecs : Nat := 3600

/-- The pause between the decision and the reset, in milliseconds. -/
def resetSettleMs : Nat := 10000

/-- What is done about an alert. -/
inductive Resolution where
  | noAction
  | softReset
  | hardPowerCycle
deriving DecidableEq, Repr

/-- The name of the resolution. -/
def Resolution.name : Resolution → String
  | .noAction => "NoAction"
  | .softReset => "SoftReset"
  | .hardPowerCycle => "HardPowerCycle"

/-- A ladder: soft resets below the first count, power cycles from there to the second. -/
structure Ladder where
  softBelow : Nat
  hardBelow : Nat
deriving DecidableEq, Repr

/-- The rung for a number of resets made so far. -/
def Ladder.rung (ladder : Ladder) (resets : Nat) : Resolution :=
  if resets < ladder.softBelow then .softReset
  else if resets < ladder.hardBelow then .hardPowerCycle
  else .noAction

/-- The ladder on which nothing is ever done. -/
def Ladder.flat : Ladder := ⟨0, 0⟩

/-- The ladder of an alert. -/
def Alert.ladder : Alert → Ladder
  | .outOfMemory | .webhookStale => ⟨3, 3⟩
  | .connectTimeout | .modemFault | .prolongedOffline => ⟨2, 4⟩
  | .sleepFault => ⟨1, 4⟩
  | _ => .flat

/-- The alert is no fault in a device that is not always online. -/
def Alert.onlyInConnectedMode : Alert → Bool
  | .connectTimeout | .modemFault | .prolongedOffline | .sleepFault => true
  | _ => false

/-- What the ladder goes by besides the alert. -/
structure RecoveryContext where
  resetCount : UInt8
  mode : OperatingMode
  timeValid : Bool
  lastHookResponse : UInt32
  now : UInt32
deriving DecidableEq, Repr

/-- The webhook answered once, and not for too long since. -/
def RecoveryContext.isHookStale (context : RecoveryContext) : Bool :=
  context.timeValid && context.lastHookResponse != 0 &&
    webhookStaleSecs < secsBetween context.lastHookResponse context.now

/-- What to do about an alert that is a fault in the present mode. -/
def RecoveryContext.decide (context : RecoveryContext) (alert : Alert) : Resolution :=
  if alert = .webhookStale ∧ !context.isHookStale then .noAction
  else alert.ladder.rung context.resetCount.toNat

/-- Settle the alert on show: what to do about it, and the slot afterwards. An alert that is no fault
in the present mode is cleared. -/
def resolveAlert (slot : AlertSlot) (context : RecoveryContext) : Logged (Resolution × AlertSlot) := do
  let some alert := slot.current
    | return (.noAction, slot)
  let (resolution, slot) ←
    if alert.onlyInConnectedMode && context.mode != .connected then do
      note .info .recovery s!" Alert {alert.code} cleared, not expected in {context.mode.name} mode"
      pure (Resolution.noAction, ← slot.clear)
    else pure (context.decide alert, slot)
  match resolution with
  | .noAction =>
    note .info .recovery s!" Alert {alert.code} ({alert.label}): no action, {context.resetCount} resets"
  | _ =>
    note .warn .recovery
      s!" Alert {alert.code} ({alert.label}): {resolution.name} after {context.resetCount} resets"
  return (resolution, slot)

/-- No ladder goes past the fourth reset. -/
theorem Ladder.rung_eq_noAction (alert : Alert) {resets : Nat} (h : 4 ≤ resets) :
    alert.ladder.rung resets = .noAction := by
  have hladder : alert.ladder.softBelow ≤ 4 ∧ alert.ladder.hardBelow ≤ 4 := by cases alert <;> decide
  simp only [Ladder.rung]
  rw [if_neg (by omega), if_neg (by omega)]

end FieldCounter
