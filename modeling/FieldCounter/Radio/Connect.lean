import FieldCounter.Clock
import FieldCounter.Device.Program

/-!
# Coming online

A connect session asks for a connection once and then waits for it, one look at the radio per step,
until the budget is used up. A session that ran out of time stays so, whatever the radio does later.
-/

namespace FieldCounter

/-- How far a connect session has come. -/
inductive ConnectProgress where
  | pending
  /-- The connection is seen for the first time since it was last down. -/
  | justConnected (secs : UInt32)
  | connected
  | timedOut (secs : UInt32)
deriving DecidableEq, Repr

/-- One attempt to come online. -/
structure ConnectSession where
  /-- Uptime of the request, once it was made. -/
  requestedAt : Option UInt64 := none
  connected : Bool := false
  timedOut : Bool := false
deriving DecidableEq, Repr, Inhabited

namespace ConnectSession

/-- Whole seconds since the request. -/
def elapsed (session : ConnectSession) (uptimeMs : UInt64) : UInt32 :=
  match session.requestedAt with
  | some requested => uptimeSecs requested uptimeMs
  | none => 0

/-- One look at the radio: ask for a connection, wait for it, or give up. -/
def step (session : ConnectSession) (budget : UInt32) (uptimeMs : UInt64) :
    Program (ConnectProgress × ConnectSession) := do
  let secs := session.elapsed uptimeMs
  if session.timedOut then
    return (.timedOut secs, session)
  if ← call .isConnected then
    return (if session.connected then .connected else .justConnected secs,
      { session with connected := true })
  if session.requestedAt.isNone then
    note .info .radio s!" Requesting connection, budget {budget}s"
    call .requestConnect
    return (.pending, { session with connected := false, requestedAt := some uptimeMs })
  if budget < secs then
    note .warn .radio s!" Connection not up after {secs}s (budget {budget}s)"
    return (.timedOut secs, { session with connected := false, timedOut := true })
  return (.pending, { session with connected := false })

end ConnectSession

end FieldCounter
