import FieldCounter.Controller
import FieldCounter.Proofs.Path

/-!
# What a step ensures

A step of the controller is a program over what the controller remembers. It ensures a property from
a given controller when the property holds of the calls, the value and the controller at the end of
every path from there. The rules follow the construction of a step and keep the controller in view,
so that a test of what it remembers can be decided.
-/

namespace FieldCounter

namespace Step

variable {α β : Type}

/-- Every path of the step from the controller has the property. -/
def Ensures (x : Step α) (before : Controller) (property : List Exchange → α → Controller → Prop) : Prop :=
  (x.run before).Ensures fun trace result => property trace result.1 result.2

variable {c : Controller} {P : List Exchange → α → Controller → Prop}

/-- A weaker property is ensured as well. -/
theorem Ensures.mono {Q : List Exchange → α → Controller → Prop} {x : Step α} (hx : x.Ensures c P)
    (h : ∀ trace a after, P trace a after → Q trace a after) : x.Ensures c Q :=
  Program.Ensures.mono hx fun _ _ => h _ _ _

/-- What follows goes on from the controller that what comes first has left. -/
theorem ensures_bind {x : Step α} {f : α → Step β} {P : List Exchange → β → Controller → Prop} :
    (x >>= f : Step β).Ensures c P ↔
      x.Ensures c fun trace a between => (f a).Ensures between fun rest b after => P (trace ++ rest) b after := by
  unfold Ensures
  rw [StateT.run_bind, Program.ensures_bind]

/-- A value on its own leaves the controller as it is. -/
theorem ensures_pure {a : α} : (pure a : Step α).Ensures c P ↔ P [] a c := by
  unfold Ensures
  rw [StateT.run_pure, Program.ensures_pure]

/-- Looking at the controller leaves it as it is. -/
theorem ensures_get {P : List Exchange → Controller → Controller → Prop} :
    (get : Step Controller).Ensures c P ↔ P [] c c := by
  unfold Ensures
  rw [StateT.run_get, Program.ensures_pure]

/-- Another controller takes the place of the one before. -/
theorem ensures_set {after : Controller} {P : List Exchange → PUnit → Controller → Prop} :
    (set after : Step PUnit).Ensures c P ↔ P [] ⟨⟩ after := by
  unfold Ensures
  rw [StateT.run_set, Program.ensures_pure]

/-- The controller is changed in place. -/
theorem ensures_modify {f : Controller → Controller} {P : List Exchange → PUnit → Controller → Prop} :
    (modify f : Step PUnit).Ensures c P ↔ P [] ⟨⟩ (f c) := by
  unfold Ensures
  rw [StateT.run_modify, Program.ensures_pure]

/-- A program that a step runs leaves the controller as it is. -/
theorem ensures_lift {x : Program α} :
    (liftM x : Step α).Ensures c P ↔ x.Ensures fun trace a => P trace a c := by
  have hrun : (liftM x : Step α).run c = x >>= fun a => pure (a, c) := rfl
  unfold Ensures
  rw [hrun, Program.ensures_bind]
  simp only [Program.ensures_pure, List.append_nil]

/-- A call gets any answer and leaves the controller as it is. -/
theorem ensures_call {call : Call} {P : List Exchange → call.Answer → Controller → Prop} :
    (liftM (FieldCounter.call call) : Step call.Answer).Ensures c P ↔ ∀ answer, P [⟨call, answer⟩] answer c :=
  ensures_lift.trans Program.ensures_call

/-- Notes leave the controller as it is. -/
theorem ensures_logged {x : Logged α} : (liftM x : Step α).Ensures c P ↔ P [] x.value c :=
  (ensures_lift (x := Program.ofLogged x)).trans Program.ensures_logged

/-- What follows a look at the controller is seen from that controller. -/
theorem ensures_get_bind {f : Controller → Step β} {P : List Exchange → β → Controller → Prop} :
    (get >>= f : Step β).Ensures c P ↔ (f c).Ensures c P := by
  rw [ensures_bind, ensures_get]
  simp only [List.nil_append]

/-- What follows a change is seen from the changed controller. -/
theorem ensures_modify_bind {change : Controller → Controller} {f : PUnit → Step β}
    {P : List Exchange → β → Controller → Prop} :
    (modify change >>= f : Step β).Ensures c P ↔ (f ⟨⟩).Ensures (change c) P := by
  rw [ensures_bind, ensures_modify]
  simp only [List.nil_append]

/-- What follows notes is seen from the same controller. -/
theorem ensures_logged_bind {x : Logged α} {f : α → Step β} {P : List Exchange → β → Controller → Prop} :
    ((liftM x : Step α) >>= f : Step β).Ensures c P ↔ (f x.value).Ensures c P := by
  rw [ensures_bind, ensures_logged]
  simp only [List.nil_append]

/-- What follows a call is seen under every answer. -/
theorem ensures_call_bind {call : Call} {f : call.Answer → Step β} {P : List Exchange → β → Controller → Prop} :
    ((liftM (FieldCounter.call call) : Step call.Answer) >>= f : Step β).Ensures c P ↔
      ∀ answer, (f answer).Ensures c fun rest b after => P (⟨call, answer⟩ :: rest) b after := by
  rw [ensures_bind, ensures_call]
  rfl

/-- A function applied to the value leaves the calls and the controller alone. -/
theorem ensures_map {x : Step α} {f : α → β} {P : List Exchange → β → Controller → Prop} :
    (f <$> x : Step β).Ensures c P ↔ x.Ensures c fun trace a after => P trace (f a) after := by
  rw [map_eq_pure_bind, ensures_bind]
  simp only [ensures_pure, List.append_nil]

/-- What the step comes to is not looked at. -/
theorem ensures_discard {x : Step α} {P : List Exchange → PUnit → Controller → Prop} :
    (discard x : Step PUnit).Ensures c P ↔ x.Ensures c fun trace _ after => P trace ⟨⟩ after :=
  ensures_map

/-- A choice ensures what each side does on its condition. -/
theorem ensures_ite {p : Prop} [Decidable p] {x y : Step α} :
    (if p then x else y : Step α).Ensures c P ↔ (p → x.Ensures c P) ∧ (¬p → y.Ensures c P) := by
  by_cases hp : p <;> simp [hp]

/-- The second condition is only looked at where the first one holds. -/
theorem ensures_and {x y : Step Bool} {P : List Exchange → Bool → Controller → Prop} :
    (x <&&> y : Step Bool).Ensures c P ↔
      x.Ensures c fun trace first between =>
        if first then y.Ensures between fun rest second after => P (trace ++ rest) second after
        else P trace false between := by
  unfold andM
  rw [ensures_bind]
  constructor <;> intro h
  all_goals
    refine h.mono ?_
    intro trace first between hfirst
    cases first
    · simpa [toBool, ensures_pure] using hfirst
    · exact hfirst

/-! ## Changes of the records -/

/-- Only the settings in memory are changed. -/
theorem ensures_modifyConfig {change : DeviceConfig → DeviceConfig}
    {P : List Exchange → Unit → Controller → Prop} :
    (Controller.modifyConfig change).Ensures c P ↔
      P [] () { c with config := { c.config with value := change c.config.value } } :=
  ensures_modify

/-- Only the status in memory is changed. -/
theorem ensures_modifyStatus {change : RuntimeStatus → RuntimeStatus}
    {P : List Exchange → Unit → Controller → Prop} :
    (Controller.modifyStatus change).Ensures c P ↔
      P [] () { c with status := { c.status with value := change c.status.value } } :=
  ensures_modify

/-- An operation on the status changes only the status in memory. -/
theorem ensures_updateStatus {operation : RuntimeStatus → Logged RuntimeStatus}
    {P : List Exchange → Unit → Controller → Prop} :
    (Controller.updateStatus operation).Ensures c P ↔
      P [] () { c with status := { c.status with value := (operation c.status.value).value } } := by
  simp only [Controller.updateStatus, ensures_bind, ensures_get, ensures_logged, ensures_modifyStatus,
    List.nil_append]

/-- A program on the records is carried out on the two in memory. -/
theorem ensures_onRecords {operation : Records → Program (α × Records)} :
    (Controller.onRecords operation).Ensures c P ↔
      (operation c.records).Ensures fun trace result => P trace result.1 (c.setRecords result.2) := by
  simp only [Controller.onRecords, ensures_bind, ensures_get, ensures_lift, ensures_modify, ensures_pure,
    List.nil_append, List.append_nil]

/-- An operation of the counting engine changes the engine and the status. -/
theorem ensures_onCounting
    {operation : CountingEngine → RuntimeStatus → Logged (α × CountingEngine × RuntimeStatus)} :
    (Controller.onCounting operation).Ensures c P ↔
      P [] (operation c.counting c.status.value).value.1
        { c with
          counting := (operation c.counting c.status.value).value.2.1
          status := { c.status with value := (operation c.counting c.status.value).value.2.2 } } := by
  simp only [Controller.onCounting, ensures_bind, ensures_get, ensures_logged, ensures_modify,
    ensures_modifyStatus, ensures_pure, List.nil_append]

/-- A program of the sensor manager changes the manager alone. -/
theorem ensures_onSensors {operation : SensorManager → Program (α × SensorManager)} :
    (Controller.onSensors operation).Ensures c P ↔
      (operation c.sensors).Ensures fun trace result => P trace result.1 { c with sensors := result.2 } := by
  simp only [Controller.onSensors, ensures_bind, ensures_get, ensures_lift, ensures_modify, ensures_pure,
    List.nil_append, List.append_nil]

end Step

end FieldCounter
