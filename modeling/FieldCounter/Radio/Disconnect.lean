import FieldCounter.Clock
import FieldCounter.Device.Program

/-!
# Going offline

A disconnect session first closes the cloud session and then switches the modem off. Each part has
a budget; a cloud session that does not close in time is cut off with the modem, and both budgets
together are the most that is waited for the modem.
-/

namespace FieldCounter

/-- How far a disconnect session has come. -/
inductive DisconnectProgress where
  | pending
  | done
  | timedOut (secs : UInt32)
deriving DecidableEq, Repr

/-- What a disconnect session waits for. -/
inductive DisconnectPhase where
  | notStarted
  /-- The cloud session closes, since the given uptime. -/
  | cloudTeardown (since : UInt64)
  | modemOff
  | done
  | timedOut
deriving DecidableEq, Repr

/-- One attempt to switch the radio off. -/
structure DisconnectSession where
  phase : DisconnectPhase := .notStarted
  startedAt : UInt64 := 0
deriving DecidableEq, Repr

namespace DisconnectSession

/-- The first step: nothing to do, close the cloud session, or go straight to the modem. -/
def start (uptimeMs : UInt64) : Program (DisconnectProgress × DisconnectSession) := do
  if ← (not <$> call .isConnected) <&&> call .isModemOff then
    return (.done, ⟨.done, uptimeMs⟩)
  if ← call .isConnected <||> (not <$> call .isDisconnected) then
    note .info .radio " Disconnecting from cloud"
    call .requestDisconnect
    return (.pending, ⟨.cloudTeardown uptimeMs, uptimeMs⟩)
  note .info .radio " Powering modem off"
  call .requestModemOff
  return (.pending, ⟨.modemOff, uptimeMs⟩)

/-- Wait for the cloud session to close, then switch the modem off; also once its budget is used up. -/
def awaitCloud (session : DisconnectSession) (since : UInt64) (cloudBudget : UInt32) (uptimeMs : UInt64) :
    Program (DisconnectProgress × DisconnectSession) := do
  let secs := uptimeSecs since uptimeMs
  if ← call .isDisconnected then
    note .info .radio s!" Cloud disconnected after {secs}s, powering modem off"
  else if cloudBudget < secs then
    note .warn .radio s!" Cloud teardown exceeded {cloudBudget}s budget, forcing modem off"
  else
    return (.pending, session)
  call .requestModemOff
  return (.pending, { session with phase := .modemOff })

/-- Wait for the modem to go off, until both budgets together are used up. -/
def awaitModem (session : DisconnectSession) (cloudBudget modemBudget : UInt32) (uptimeMs : UInt64) :
    Program (DisconnectProgress × DisconnectSession) := do
  let secs := uptimeSecs session.startedAt uptimeMs
  if ← call .isModemOff then
    note .info .radio s!" Modem off after {secs}s"
    return (.done, { session with phase := .done })
  if addSat cloudBudget modemBudget < secs then
    note .warn .radio
      s!" Disconnect not finished after {secs}s (budget {cloudBudget}s + {modemBudget}s)"
    return (.timedOut secs, { session with phase := .timedOut })
  return (.pending, session)

/-- One look at the radio. -/
def step (session : DisconnectSession) (cloudBudget modemBudget : UInt32) (uptimeMs : UInt64) :
    Program (DisconnectProgress × DisconnectSession) :=
  match session.phase with
  | .notStarted => start uptimeMs
  | .cloudTeardown since => session.awaitCloud since cloudBudget uptimeMs
  | .modemOff => session.awaitModem cloudBudget modemBudget uptimeMs
  | .done => return (.done, session)
  | .timedOut => return (.timedOut (uptimeSecs session.startedAt uptimeMs), session)

end DisconnectSession

/-- Switch the radio off at once, without waiting for anything. -/
def forceRadioOff : Program Unit := do
  if ← call .isConnected <||> (not <$> call .isDisconnected) then
    call .requestDisconnect
  if !(← call .isModemOff) then
    call .requestModemOff

end FieldCounter
