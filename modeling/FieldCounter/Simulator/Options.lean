import FieldCounter.Config.Remote

/-!
# The simulator's options

The first argument is the number of days, the second the operating mode; what cannot be read counts
as not given.
-/

namespace FieldCounter.Simulator

/-- What is to be simulated. -/
structure Options where
  days : Nat := 3
  mode : OperatingMode := .lowPower
deriving DecidableEq, Repr

/-- The number that the digits write in base ten. -/
def decimalValue (digits : List Char) : Nat :=
  digits.foldl (fun value digit => value * 10 + (digit.toNat - '0'.toNat)) 0

/-- A number of days: decimal digits after an optional plus sign, and within a word. -/
def parseDays? (text : String) : Option Nat :=
  let digits := match text.toList with
    | '+' :: rest => rest
    | chars => chars
  let value := decimalValue digits
  if digits ≠ [] ∧ digits.all (·.isDigit) ∧ value ≤ wordMax then some value else none

/-- The operating mode that a word asks for. -/
def modeOfWord (word : Option String) : OperatingMode :=
  if word = some "connected" then .connected
  else if word = some "disconnected" then .disconnected
  else .lowPower

namespace Options

/-- The options given by the arguments. -/
def ofArgs (args : List String) : Options where
  days := (args[0]? >>= parseDays?).getD 3
  mode := modeOfWord args[1]?

/-- The number by which the operator asks for the mode. -/
def modeCode (options : Options) : UInt8 := UInt8.ofNat (OperatingMode.all.idxOf options.mode)

/-- The settings that the simulated operator asks for. -/
def remote (options : Options) : RemoteConfig where
  modes := { countingMode := some 0, operatingMode := some options.modeCode }
  timing := {
    openHour := some 6
    closeHour := some 22
    reportingInterval := some 3600
    connectBudget := some 120 }

end Options

end FieldCounter.Simulator
