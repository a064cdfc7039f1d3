import FieldCounter.Alert.Slot

/-!
# The worst alert since the last clear

The slot keeps one alert and forgets the others. Beside it stands here the list of all that were
raised since it was last emptied, each with its time, and whatever is done to the slot, it shows the
most severe alert of that list at the time it was last raised.
-/

namespace FieldCounter

/-- What can be done to the slot. -/
inductive SlotOperation where
  | raise (alert : Alert) (now : UInt32)
  | clear
  | clearIf (p : Alert → Bool)
  | sanitize

/-- An alert and the time it was raised. -/
abbrev RaisedAlert := Alert × UInt32

namespace SlotOperation

/-- The slot after the operation. -/
def perform (slot : AlertSlot) : SlotOperation → AlertSlot
  | .raise alert now => (slot.raise alert now).value
  | .clear => slot.clear.value
  | .clearIf p => (slot.clearIf p).value
  | .sanitize => slot.sanitize.value

/-- The operation is a clear, and its condition holds for what the slot shows. -/
def clears (slot : AlertSlot) : SlotOperation → Bool
  | .raise _ _ => false
  | .clear => true
  | .clearIf p => slot.shows p
  | .sanitize => !slot.isKnown

/-- What the operation raises, whether or not the slot accepts it. -/
def raised : SlotOperation → List RaisedAlert
  | .raise alert now => [(alert, now)]
  | .clear | .clearIf _ | .sanitize => []

end SlotOperation

namespace AlertSlot

/-- The slot after all the operations. -/
def performAll (slot : AlertSlot) (operations : List SlotOperation) : AlertSlot :=
  operations.foldl SlotOperation.perform slot

/-- The alert on show, as one that was raised. -/
def raised (slot : AlertSlot) : List RaisedAlert := slot.current.toList.map (·, slot.timestamp)

/-- What was raised since the last operation that cleared the slot; `earlier` was raised before the first
operation. -/
def raisedSince (slot : AlertSlot) (earlier : List RaisedAlert) : List SlotOperation → List RaisedAlert
  | [] => earlier
  | operation :: rest =>
    (operation.perform slot).raisedSince
      (if operation.clears slot then [] else earlier ++ operation.raised) rest

variable {slot : AlertSlot} {list : List RaisedAlert}

/-- The slot shows the most severe alert of the list at the time it was last raised, and nothing where the
list is empty. -/
inductive ShowsWorst : AlertSlot → List RaisedAlert → Prop where
  | nothing : ShowsWorst empty []
  | worst {earlier later : List RaisedAlert} (alert : Alert) (time : UInt32) :
      (∀ other ∈ earlier, other.1.severity ≤ alert.severity) →
      (∀ other ∈ later, other.1.severity < alert.severity) →
      ShowsWorst ⟨alert.code, time⟩ (earlier ++ (alert, time) :: later)

/-- A single alert is the worst one. -/
theorem showsWorst_single (alert : Alert) (time : UInt32) :
    ShowsWorst ⟨alert.code, time⟩ [(alert, time)] := by
  rw [← List.nil_append [(alert, time)]]
  apply ShowsWorst.worst alert time
  · intro other hmem
    exact absurd hmem List.not_mem_nil
  · intro other hmem
    exact absurd hmem List.not_mem_nil

/-- A slot that is empty or shows a known alert shows the worst of what it shows. -/
theorem showsWorst_raised (h : slot = empty ∨ slot.current.isSome) : slot.ShowsWorst slot.raised := by
  rcases h with rfl | hknown
  · exact .nothing
  · obtain ⟨alert, hcurrent⟩ := Option.isSome_iff_exists.mp hknown
    have hcode : slot.code = alert.code := Alert.ofCode?_eq_some_iff.mp hcurrent
    have hslot : slot = ⟨alert.code, slot.timestamp⟩ := by rw [← hcode]
    have hraised : slot.raised = [(alert, slot.timestamp)] := by simp [raised, hcurrent]
    rw [hraised, hslot]
    exact showsWorst_single alert slot.timestamp

/-- Nothing that was raised is more severe than the alert on show. -/
theorem severity_le_of_mem {earlier later : List RaisedAlert} {alert : Alert} {time : UInt32}
    (hearlier : ∀ other ∈ earlier, other.1.severity ≤ alert.severity)
    (hlater : ∀ other ∈ later, other.1.severity < alert.severity) {other : RaisedAlert}
    (hmem : other ∈ earlier ++ (alert, time) :: later) : other.1.severity ≤ alert.severity := by
  rcases List.mem_append.mp hmem with hmem | hmem
  · exact hearlier other hmem
  · rcases List.mem_cons.mp hmem with rfl | hmem
    · exact Nat.le_refl _
    · exact Nat.le_of_lt (hlater other hmem)

/-- An alert that the slot accepts becomes the worst, and one that it refuses changes nothing. -/
theorem ShowsWorst.raise (h : slot.ShowsWorst list) (alert : Alert) (now : UInt32) :
    (slot.raise alert now).value.ShowsWorst (list ++ [(alert, now)]) := by
  rw [value_raise]
  cases h with
  | nothing => exact showsWorst_single alert now
  | @worst earlier later shown time hearlier hlater =>
    rw [accepts, current_mk_code, Option.all_some]
    by_cases hle : shown.severity ≤ alert.severity
    · rw [decide_eq_true hle, if_pos rfl]
      apply ShowsWorst.worst
      · intro other hmem
        exact Nat.le_trans (severity_le_of_mem hearlier hlater hmem) hle
      · intro other hmem
        cases hmem
    · rw [decide_eq_false hle, if_neg Bool.false_ne_true, List.append_assoc, List.cons_append]
      apply ShowsWorst.worst shown time hearlier
      intro other hmem
      rcases List.mem_append.mp hmem with hmem | hmem
      · exact hlater other hmem
      · rw [List.mem_singleton.mp hmem]
        exact Nat.lt_of_not_le hle

/-- A slot that shows the worst of some alerts holds no unknown code. -/
theorem ShowsWorst.isKnown (h : slot.ShowsWorst list) : slot.isKnown = true := by
  cases h with
  | nothing => rfl
  | worst alert time => simp [AlertSlot.isKnown]

/-- Each operation keeps the slot at the worst of what was raised since it was last cleared. -/
theorem ShowsWorst.perform (h : slot.ShowsWorst list) (operation : SlotOperation) :
    (operation.perform slot).ShowsWorst (if operation.clears slot then [] else list ++ operation.raised) := by
  cases operation with
  | raise alert now => exact h.raise alert now
  | clear =>
    rw [SlotOperation.perform, value_clear]
    exact .nothing
  | clearIf p =>
    rw [SlotOperation.perform, SlotOperation.clears, value_clearIf]
    split
    · exact .nothing
    · rwa [SlotOperation.raised, List.append_nil]
  | sanitize =>
    rw [SlotOperation.perform, SlotOperation.clears, value_sanitize, h.isKnown]
    simpa [SlotOperation.raised] using h

/-- Over any operations, the slot shows the worst that was raised since it was last cleared. -/
theorem ShowsWorst.performAll (h : slot.ShowsWorst list) (operations : List SlotOperation) :
    (slot.performAll operations).ShowsWorst (slot.raisedSince list operations) := by
  induction operations generalizing slot list with
  | nil => exact h
  | cons operation rest ih => exact ih (h.perform operation)

/-- Of all the alerts that were raised since the slot was last cleared, and of the one it started with if it
never was, the slot shows the most severe one, with the time it was last raised. Where there is none, the
slot is empty. -/
theorem performAll_eq_worst (start : AlertSlot) (operations : List SlotOperation)
    (hstart : start = empty ∨ start.current.isSome) :
    (start.raisedSince start.raised operations = [] ∧ start.performAll operations = empty) ∨
      ∃ earlier alert later,
        start.raisedSince start.raised operations =
          earlier ++ (alert, (start.performAll operations).timestamp) :: later ∧
        (start.performAll operations).current = some alert ∧
        (∀ other ∈ start.raisedSince start.raised operations, other.1.severity ≤ alert.severity) ∧
        ∀ other ∈ later, other.1 ≠ alert := by
  have hworst := (showsWorst_raised hstart).performAll operations
  generalize start.performAll operations = slot at hworst ⊢
  generalize start.raisedSince start.raised operations = list at hworst ⊢
  cases hworst with
  | nothing => exact .inl ⟨rfl, rfl⟩
  | @worst earlier later alert time hearlier hlater =>
    refine .inr ⟨earlier, alert, later, rfl, current_mk_code alert time, ?_, ?_⟩
    · intro other hmem
      exact severity_le_of_mem hearlier hlater hmem
    · intro other hmem heq
      exact absurd (hlater other hmem) (by rw [heq]; exact Nat.lt_irrefl _)

/-- A stale webhook gives way to a connection that timed out, which hides the time offline and is cleared;
after that the slot goes between two failed reports, and keeps the later and more severe one. -/
theorem performAll_mixed :
    let start : AlertSlot := ⟨40, 5⟩
    let operations : List SlotOperation :=
      [.raise .connectTimeout 10, .raise .prolongedOffline 20, .clearIf Alert.isConnectivity,
        .raise .statusPublishFailed 30, .raise .dataPublishFailed 40, .raise .statusPublishFailed 50,
        .clearIf Alert.isConnectivity, .sanitize, .raise .webhookStale 60]
    start.current.isSome ∧ start.performAll operations = ⟨43, 50⟩ ∧
      start.raisedSince start.raised operations = [(.statusPublishFailed, 30), (.dataPublishFailed, 40),
        (.statusPublishFailed, 50), (.webhookStale, 60)] ∧
      ((start.raisedSince start.raised operations = [] ∧ start.performAll operations = empty) ∨
        ∃ earlier alert later,
          start.raisedSince start.raised operations =
            earlier ++ (alert, (start.performAll operations).timestamp) :: later ∧
          (start.performAll operations).current = some alert ∧
          (∀ other ∈ start.raisedSince start.raised operations, other.1.severity ≤ alert.severity) ∧
          ∀ other ∈ later, other.1 ≠ alert) :=
  ⟨rfl, by decide, by decide, performAll_eq_worst ⟨40, 5⟩ _ (.inr rfl)⟩

end AlertSlot

end FieldCounter
