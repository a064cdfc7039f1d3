import FieldCounter.Log

/-!
# Sensor models

The supported sensors, by the code under which the settings name them.
-/

namespace FieldCounter

/-- What the device knows of one sensor model. -/
structure SensorModel where
  code : UInt8
  name : String
  /-- Detections arrive as an interrupt rather than by polling. -/
  usesInterrupt : Bool
  /-- The sensor can tell that a place stays occupied. -/
  supportsOccupancy : Bool
deriving DecidableEq, Repr

namespace SensorModel

/-- A passive infrared sensor, the model used where the settings name none that is known. -/
def infrared : SensorModel := ⟨1, "PIR", true, true⟩

/-- Every supported model. -/
def table : List SensorModel :=
  [infrared,
   ⟨2, "Pressure tube", true, false⟩,
   ⟨3, "Radar", false, true⟩,
   ⟨4, "Magnetometer", false, true⟩]

/-- The model with the given code. -/
def lookup? (code : UInt8) : Option SensorModel := table.find? (·.code == code)

/-- The code is that of a supported model. -/
def isKnown (code : UInt8) : Bool := (lookup? code).isSome

/-- The model with the given code, or the infrared sensor. -/
def lookup (code : UInt8) : Logged SensorModel := do
  match lookup? code with
  | some model => return model
  | none =>
    note .warn .sensor s!" Unknown sensor type {code}, using default"
    return infrared

/-- Apart from the notes, a type code that is not known stands for the infrared sensor. -/
@[simp] theorem value_lookup (code : UInt8) : (lookup code).value = (lookup? code).getD infrared := by
  unfold lookup
  cases lookup? code <;> rfl

/-- The model that is found for a type code has that code. -/
theorem code_of_lookup? {code : UInt8} {model : SensorModel} (h : lookup? code = some model) :
    model.code = code := by
  simpa using List.find?_some h

end SensorModel

end FieldCounter
