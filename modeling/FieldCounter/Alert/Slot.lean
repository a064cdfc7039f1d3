import FieldCounter.Alert
import FieldCounter.Log

/-!
# The alert slot

The device shows one alert at a time. A new alert takes the slot unless a more severe one holds it,
so the slot keeps the worst alert since it was last cleared, with the time that alert was last
raised. Code zero stands for an empty slot.
-/

namespace FieldCounter

/-- The alert on show and the time it was raised. -/
structure AlertSlot where
  code : Int8 := 0
  timestamp : UInt32 := 0
deriving DecidableEq, Repr, Inhabited

namespace AlertSlot

/-- The empty slot. -/
def empty : AlertSlot := {}

/-- The alert on show, if the code is a known one. -/
def current (slot : AlertSlot) : Option Alert := Alert.ofCode? slot.code

/-- Some known alert is on show for which `p` holds. -/
def shows (slot : AlertSlot) (p : Alert → Bool) : Bool := slot.current.any p

/-- The slot gives way to `alert`: what it shows is at most as severe. -/
def accepts (slot : AlertSlot) (alert : Alert) : Bool := slot.current.all (·.severity ≤ alert.severity)

/-- The code on show, as it is written in a note. -/
def currentText (slot : AlertSlot) : String :=
  match slot.current with
  | some alert => s!"Some({alert.code})"
  | none => "None"

/-- Raise an alert; it takes the slot only where the slot accepts it. -/
def raise (slot : AlertSlot) (alert : Alert) (now : UInt32) : Logged AlertSlot := do
  match slot.current with
  | some existing =>
    if alert.severity < existing.severity then
      note .debug .alert
        s!" Alert {alert.code} ({alert.label}) not raised, {existing.code} ({existing.label}) is more severe"
      return slot
  | none => pure ()
  note .info .alert
    s!" Alert {alert.code} ({alert.label}) raised, severity {alert.severity}, replaces {slot.currentText}"
  return ⟨alert.code, now⟩

/-- Empty the slot, whatever it shows. -/
def clear (slot : AlertSlot) : Logged AlertSlot := do
  if slot.code ≠ 0 then
    note .info .alert s!" Alert {slot.code} cleared"
  return empty

/-- Empty the slot if it shows a known alert for which `p` holds. -/
def clearIf (slot : AlertSlot) (p : Alert → Bool) : Logged AlertSlot :=
  if slot.shows p then slot.clear else pure slot

/-- The code is zero or a known one. -/
def isKnown (slot : AlertSlot) : Bool := slot.code == 0 || slot.current.isSome

/-- Drop a code that is not a known one. -/
def sanitize (slot : AlertSlot) : Logged AlertSlot :=
  if slot.isKnown then pure slot else slot.clear

/-- Raising writes the alert exactly where the slot accepts it. -/
@[simp] theorem value_raise (slot : AlertSlot) (alert : Alert) (now : UInt32) :
    (slot.raise alert now).value = if slot.accepts alert then ⟨alert.code, now⟩ else slot := by
  unfold raise accepts
  cases h : slot.current with
  | none => simp
  | some existing =>
    by_cases hs : alert.severity < existing.severity
    · simp [hs, Nat.not_le.mpr hs]
    · simp [hs, Nat.not_lt.mp hs]

/-- Apart from the notes, clearing leaves the empty slot. -/
@[simp] theorem value_clear (slot : AlertSlot) : slot.clear.value = empty := by
  unfold clear
  split <;> rfl

/-- Apart from the notes, the slot is emptied exactly where it shows an alert of the kind. -/
@[simp] theorem value_clearIf (slot : AlertSlot) (p : Alert → Bool) :
    (slot.clearIf p).value = if slot.shows p then empty else slot := by
  unfold clearIf
  split <;> simp

/-- Apart from the notes, the slot is emptied exactly where its code is not a known one. -/
@[simp] theorem value_sanitize (slot : AlertSlot) :
    slot.sanitize.value = if slot.isKnown then slot else empty := by
  unfold sanitize
  split <;> simp

/-- A slot that an alert took shows the alert. -/
@[simp] theorem current_mk_code (alert : Alert) (now : UInt32) :
    (AlertSlot.mk alert.code now).current = some alert := Alert.ofCode?_code alert

end AlertSlot

end FieldCounter
