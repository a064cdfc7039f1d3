import Mathlib.Data.List.Basic
import FieldCounter.Proofs.Run
import FieldCounter.Proofs.SensorLifecycle

/-!
# Sensors that are replaced

A driver for another type takes the place of the one in use, and nothing tells that one to sleep. It sleeps already
where it was powered down before. It is left up where it is still taken for powered, where it has just been woken only
to be replaced, and where the manager had given it up: a sensor that responds but does not get ready is taken for down,
and so is not powered down any more.
-/

namespace FieldCounter

/-- The driver says that the sensor has come up. -/
def Exchange.BringsUp (exchange : Exchange) : Prop :=
  exchange = ⟨.initSensor, true⟩ ∨ exchange = ⟨.wakeSensor, true⟩

/-- After the call the sensor is as it was: it is neither sent to sleep nor replaced. -/
def Exchange.KeepsUp (exchange : Exchange) : Prop := exchange.call ≠ .sleepSensor ∧ exchange.built = none

/-- The calls leave the sensor up: one of them brought it up, and none since has sent it to sleep or replaced it. -/
def LeftUp (calls : List Exchange) : Prop :=
  ∃ first up rest, calls = first ++ up :: rest ∧ up.BringsUp ∧ ∀ exchange ∈ rest, exchange.KeepsUp

namespace SensorStep

/-- The operation gives a sensor up that is up: it came up in the operation, or was up before and is still in use. -/
def GivesUpAwake (step : SensorStep) : Prop :=
  step.reply = .ready false ∧ (LeftUp step.calls ∨ step.before.powered = true ∧ builtIn step.calls = [])

/-- The operation neither brings the sensor up nor replaces it. -/
def LeavesDown (step : SensorStep) : Prop := step.after.powered = false ∧ builtIn step.calls = []

end SensorStep

/-- The sensor is up and nobody knows: an operation gave it up, and none since has brought it up or replaced it. -/
def Stranded (steps : List SensorStep) : Prop :=
  ∃ earlier step later, steps = earlier ++ step :: later ∧ step.GivesUpAwake ∧ ∀ other ∈ later, other.LeavesDown

/-- Whether the sensor is stranded is told from the last operation, and from the ones before it. -/
theorem stranded_concat_iff {steps : List SensorStep} {step : SensorStep} :
    Stranded (steps ++ [step]) ↔ step.GivesUpAwake ∨ step.LeavesDown ∧ Stranded steps :=
  exists_split_concat_iff

section
variable {calls more : List Exchange}

/-- The sensor is left up by the later calls, or by the earlier ones while the later ones keep it up. -/
theorem leftUp_append_iff :
    LeftUp (calls ++ more) ↔ LeftUp more ∨ LeftUp calls ∧ ∀ exchange ∈ more, exchange.KeepsUp :=
  exists_split_append_iff

/-- What came before does not matter to calls that leave the sensor up themselves. -/
theorem LeftUp.append_left (h : LeftUp more) : LeftUp (calls ++ more) := leftUp_append_iff.mpr (.inl h)

/-- Without a call nothing is left up. -/
theorem not_leftUp_nil : ¬LeftUp [] := not_exists_split_nil

/-- A sensor that is sent to sleep is not left up. -/
theorem not_leftUp_concat_sleepSensor : ¬LeftUp (calls ++ [⟨.sleepSensor, ()⟩]) := by
  refine exists_split_concat_iff.not.mpr (not_or.mpr ⟨?_, fun h => h.1.1 rfl⟩)
  simp [Exchange.BringsUp]

/-- No driver is built where none of the calls builds one. -/
theorem builtIn_eq_nil_iff : builtIn calls = [] ↔ ∀ exchange ∈ calls, exchange.built = none :=
  List.filterMap_eq_nil_iff

/-- Calls that do not send the sensor to sleep leave it as it was unless they replace it. -/
theorem keepsUp_iff (hawake : ∀ exchange ∈ calls, exchange.call ≠ .sleepSensor) :
    (∀ exchange ∈ calls, exchange.KeepsUp) ↔ builtIn calls = [] := by
  rw [builtIn_eq_nil_iff]
  exact forall₂_congr fun exchange hmem => and_iff_right (hawake exchange hmem)

end

namespace SensorManager

open Program (Path)

variable {manager woken next last : SensorManager} {model : SensorModel} {code : UInt8} {ready : Bool}
  {calls early late : List Exchange} {step : SensorStep} {past steps before after : List SensorStep}

/-! ## What a dialogue leaves up -/

/-- A sensor that is to come up is not sent to sleep on the way. -/
theorem Rouses.call_ne_sleepSensor (h : Rouses calls) : ∀ exchange ∈ calls, exchange.call ≠ .sleepSensor := by
  intro exchange hmem hsleep
  rcases h exchange hmem with hcall | hcall | hcall <;> exact absurd (hcall.symm.trans hsleep) nofun

/-- Bringing a sensor up neither sends it to sleep nor replaces it. -/
theorem Rouses.keepsUp (h : Rouses calls) : ∀ exchange ∈ calls, exchange.KeepsUp :=
  (keepsUp_iff h.call_ne_sleepSensor).mpr h.builtIn_eq

/-- So it is left up as soon as one of the calls brought it up. -/
theorem Rouses.leftUp_iff (h : Rouses calls) : LeftUp calls ↔ ∃ up ∈ calls, up.BringsUp := by
  constructor
  · rintro ⟨first, up, rest, rfl, hup, _⟩
    exact ⟨up, by simp, hup⟩
  · rintro ⟨up, hmem, hup⟩
    obtain ⟨first, rest, rfl⟩ := List.append_of_mem hmem
    exact ⟨first, up, rest, rfl, hup, fun exchange hrest => h.keepsUp exchange (by simp [hrest])⟩

/-- A sensor that came up ready has said so to an attempt. -/
theorem Attempts.init_mem {left : Nat} (h : Attempts left calls true) : ⟨.initSensor, true⟩ ∈ calls := by
  generalize hready : true = ready at h
  induction h with
  | exhausted => cases hready
  | succeeds => exact List.mem_cons_self
  | silent _ ih => exact List.mem_cons_of_mem _ (ih hready)
  | unready _ ih => exact List.mem_cons_of_mem _ (List.mem_cons_of_mem _ (ih hready))

/-- Letting the driver wake leaves the sensor up exactly where it says that it woke. -/
theorem Wakes.leftUp_iff (h : manager.Wakes calls woken) : LeftUp calls ↔ ⟨.wakeSensor, true⟩ ∈ calls := by
  rw [h.rouses.leftUp_iff]
  cases h <;> simp [Exchange.BringsUp]

/-- A sensor that is taken for powered after it was let wake has woken or was powered before. -/
theorem Wakes.powered_cases (h : manager.Wakes calls woken) (hpowered : woken.powered = true) :
    manager.powered = true ∨ ⟨.wakeSensor, true⟩ ∈ calls := by
  cases h with
  | skipped | silent | unready => exact .inl hpowered
  | awake => exact .inr List.mem_cons_self

/-- A sensor that is ready afterwards has come up, unless it was powered and is still the same. -/
theorem Readies.leftUp (h : manager.Readies calls true next) : LeftUp calls ∨ manager.powered = true := by
  cases h with
  | wasReady hpowered | lost hpowered => exact .inr hpowered
  | tries _ htrying => exact .inl (htrying.rouses.leftUp_iff.mpr ⟨_, htrying.init_mem, .inl rfl⟩)

/-- Having a sensor ready does not send one to sleep. -/
theorem Brings.call_ne_sleepSensor (h : manager.Brings code calls ready next) :
    ∀ exchange ∈ calls, exchange.call ≠ .sleepSensor := by
  intro exchange hmem hsleep
  rcases h.call_cases exchange hmem with hcall | hcall | hcall | hcall <;> exact absurd (hcall.symm.trans hsleep) nofun

/-- A sensor that is ready was brought up by the calls, or it was taken for powered and kept. -/
theorem Brings.leftUp (h : manager.Brings code calls true next) :
    LeftUp calls ∨ manager.powered = true ∧ builtIn calls = [] := by
  cases h with
  | @mk waking building readying woken installed _ _ hwaking hinstalls hreadies =>
    rcases hreadies.leftUp with hready | hpowered
    · exact .inl hready.append_left.append_left
    cases hinstalls with
    | replaced => cases hpowered
    | same =>
      rw [List.nil_append]
      rcases hwaking with ⟨rfl, rfl⟩ | hwakes
      · exact .inr ⟨hpowered, hreadies.rouses.builtIn_eq⟩
      rcases hwakes.powered_cases hpowered with hbefore | hwoke
      · refine .inr ⟨hbefore, ?_⟩
        rw [builtIn_append, hwakes.rouses.builtIn_eq, hreadies.rouses.builtIn_eq, List.append_nil]
      · exact .inl (leftUp_append_iff.mpr (.inr ⟨hwakes.leftUp_iff.mpr hwoke, hreadies.rouses.keepsUp⟩))

/-- Before a driver is replaced, it may be let wake, and that is all. -/
theorem Handles.before_built {order : SensorOrder} {reply : SensorReply} (h : manager.Handles order calls reply next)
    (hbuilt : calls = early ++ ⟨.buildSensor model, ()⟩ :: late) :
    early = [] ∨ ∃ woken, manager.Wakes early woken := by
  have hmem : ⟨.buildSensor model, ()⟩ ∈ calls := by simp [hbuilt]
  cases h with
  | goesDown hdown => cases hdown <;> simp at hmem
  | polls hpolls => cases hpolls <;> simp at hmem
  | samples hsamples => cases hsamples <;> simp at hmem
  | brings _ hbrings =>
    cases hbrings with
    | @mk waking building readying woken _ _ _ hwaking hinstalls hreadies =>
      have hunbuilt : ∀ {calls : List Exchange}, Rouses calls → ⟨.buildSensor model, ()⟩ ∉ calls := by
        intro calls hrouses hmem
        rcases hrouses _ hmem with hcall | hcall | hcall <;> cases hcall
      have hrouses : Rouses waking := by
        rcases hwaking with ⟨rfl, rfl⟩ | hwakes
        · exact fun _ hmem => absurd hmem List.not_mem_nil
        · exact hwakes.rouses
      cases hinstalls with
      | same =>
        rw [List.nil_append, List.mem_append] at hmem
        exact absurd hmem (not_or.mpr ⟨hunbuilt hrouses, hunbuilt hreadies.rouses⟩)
      | replaced =>
        obtain ⟨rfl, _⟩ :=
          (List.append_cons_inj_of_notMem (hunbuilt hrouses) (hunbuilt hreadies.rouses)).mp hbuilt
        exact hwaking.imp And.left fun hwakes => ⟨woken, hwakes⟩

/-! ## Who knows that the sensor is up -/

/-- The sensor is up just where it is taken for powered, or else stranded. -/
structure KnowsUp (manager : SensorManager) (past : List SensorStep) : Prop where
  leftUp : LeftUp (sensorCalls past) ↔ manager.powered = true ∨ Stranded past
  down : Stranded past → manager.powered = false

/-- At first there is no sensor and none is up. -/
theorem knowsUp_nil : ({} : SensorManager).KnowsUp [] where
  leftUp := iff_of_false not_leftUp_nil (not_or.mpr ⟨Bool.false_ne_true, not_exists_split_nil⟩)
  down := fun _ => rfl

/-- Where the calls neither bring the sensor up nor send it to sleep nor replace it, everything stays as it was. -/
theorem knowsUp_of_idle {order : SensorOrder} {reply : SensorReply}
    (hcalls : ∀ exchange ∈ calls, exchange.KeepsUp ∧ ¬exchange.BringsUp) (hreply : reply ≠ .ready false)
    (hknows : manager.KnowsUp past) : manager.KnowsUp (past ++ [⟨manager, order, calls, reply, manager⟩]) := by
  have hkeeps : ∀ exchange ∈ calls, exchange.KeepsUp := fun exchange hmem => (hcalls exchange hmem).1
  have hquiet : ¬LeftUp calls := by
    rintro ⟨first, up, rest, rfl, hup, _⟩
    exact (hcalls up (by simp)).2 hup
  have hbuilt : builtIn calls = [] := builtIn_eq_nil_iff.mpr fun exchange hmem => (hkeeps exchange hmem).2
  have hstranded : Stranded (past ++ [⟨manager, order, calls, reply, manager⟩]) ↔ Stranded past := by
    rw [stranded_concat_iff]
    refine ⟨fun h => h.elim (fun hgives => absurd hgives.1 hreply) And.right, fun h => .inr ⟨?_, h⟩⟩
    exact ⟨hknows.down h, hbuilt⟩
  refine ⟨?_, fun h => hknows.down (hstranded.mp h)⟩
  rw [sensorCalls_concat, hstranded, ← hknows.leftUp]
  exact leftUp_append_iff.trans ((or_iff_right hquiet).trans (and_iff_left hkeeps))

/-- Having a sensor ready, the manager knows whether it is up, or it has stranded it. -/
theorem Brings.knowsUp {order : SensorOrder} (h : manager.Brings code calls ready next)
    (hknows : manager.KnowsUp past) : next.KnowsUp (past ++ [⟨manager, order, calls, .ready ready, next⟩]) := by
  have hpowered := h.powered_eq
  refine ⟨?_, fun hstranded => ?_⟩
  · rw [sensorCalls_concat, leftUp_append_iff, stranded_concat_iff, keepsUp_iff h.call_ne_sleepSensor, hknows.leftUp,
      hpowered]
    cases ready with
    | true => exact iff_of_true (h.leftUp.imp_right (And.imp_left .inl)) (.inl rfl)
    | false =>
      rw [or_iff_right Bool.false_ne_true, SensorStep.GivesUpAwake, SensorStep.LeavesDown, and_iff_right rfl,
        and_iff_right hpowered, or_and_right, or_assoc, and_comm (b := Stranded past)]
  · rcases stranded_concat_iff.mp hstranded with hgives | ⟨hleaves, _⟩
    · exact hpowered.trans (SensorReply.ready.inj hgives.1)
    · exact hleaves.1

/-- Powering down, the manager still knows. -/
theorem GoesDown.knowsUp {order : SensorOrder} (h : manager.GoesDown calls next) (hknows : manager.KnowsUp past) :
    next.KnowsUp (past ++ [⟨manager, order, calls, .poweredDown, next⟩]) := by
  cases h with
  | wasDown => exact knowsUp_of_idle (fun _ hmem => absurd hmem List.not_mem_nil) SensorReply.noConfusion hknows
  | sleeps _ hpowered =>
    have hknown : ¬Stranded past := fun h => Bool.false_ne_true ((hknows.down h).symm.trans hpowered)
    refine ⟨iff_of_false ?_ (not_or.mpr ⟨Bool.false_ne_true, ?_⟩), fun _ => rfl⟩
    · rw [sensorCalls_concat]
      exact not_leftUp_concat_sleepSensor
    · rw [stranded_concat_iff]
      rintro (⟨hreply, _⟩ | ⟨_, hstranded⟩)
      · cases hreply
      · exact hknown hstranded

/-- Every operation keeps it known. -/
theorem Handles.knowsUp (h : step.before.Handles step.order step.calls step.reply step.after)
    (hknows : step.before.KnowsUp past) : step.after.KnowsUp (past ++ [step]) := by
  obtain ⟨before, order, calls, reply, after⟩ := step
  change before.Handles order calls reply after at h
  cases h with
  | brings _ hbrings => exact hbrings.knowsUp hknows
  | goesDown hdown => exact hdown.knowsUp hknows
  | polls hpolls =>
    refine knowsUp_of_idle ?_ SensorReply.noConfusion hknows
    cases hpolls <;> simp [Exchange.KeepsUp, Exchange.BringsUp, Exchange.built]
  | samples hsamples =>
    refine knowsUp_of_idle ?_ SensorReply.noConfusion hknows
    cases hsamples <;> simp [Exchange.KeepsUp, Exchange.BringsUp, Exchange.built]

/-- After any operations, the sensor is up just where it is taken for powered, or else it is stranded. -/
theorem Runs.knowsUp (h : ({} : SensorManager).Runs steps last) : last.KnowsUp steps :=
  h.invariant (I := fun steps manager => manager.KnowsUp steps) knowsUp_nil fun _ _ => Handles.knowsUp

/-! ## Replacing the driver -/

/-- Of whatever a new manager is asked for, and whatever its drivers answer: a driver that is replaced is left up just
where it is taken for powered, or has just been woken, or is stranded. -/
theorem replaced_leftUp_iff (h : ({} : SensorManager).Runs steps last) (hsplit : steps = before ++ step :: after)
    (hbuilt : step.calls = early ++ ⟨.buildSensor model, ()⟩ :: late) :
    LeftUp (sensorCalls before ++ early) ↔
      step.before.powered = true ∨ ⟨.wakeSensor, true⟩ ∈ early ∨ Stranded before := by
  subst hsplit
  obtain ⟨hbefore, hstep⟩ := h.reach
  rw [leftUp_append_iff, hbefore.knowsUp.leftUp]
  rcases hstep.before_built hbuilt with rfl | ⟨woken, hwakes⟩
  · simp [not_leftUp_nil]
  · rw [hwakes.leftUp_iff, and_iff_left hwakes.rouses.keepsUp, or_left_comm]

/-- An infrared sensor responds to every attempt and never gets ready. It is given up, not powered down before the
sleep that follows, and left up when the type is a radar after that. -/
theorem replaced_leftUp_iff_stranded :
    let radar : SensorModel := ⟨3, "Radar", false, true⟩
    let givenUp : SensorStep := ⟨{}, .ensureReady 1, [⟨.buildSensor .infrared, ()⟩, ⟨.initSensor, true⟩,
      ⟨.isSensorReady, false⟩, ⟨.initSensor, true⟩, ⟨.isSensorReady, false⟩], .ready false, ⟨some .infrared, false⟩⟩
    let down : SensorStep := ⟨⟨some .infrared, false⟩, .powerDown, [], .poweredDown, ⟨some .infrared, false⟩⟩
    let early : List Exchange := [⟨.wakeSensor, false⟩]
    let late : List Exchange := [⟨.initSensor, true⟩, ⟨.isSensorReady, true⟩]
    let replacing : SensorStep := ⟨⟨some .infrared, false⟩, .powerUp 3, early ++ ⟨.buildSensor radar, ()⟩ :: late,
      .ready true, ⟨some radar, true⟩⟩
    ({} : SensorManager).Runs [givenUp, down, replacing] replacing.after ∧ Stranded [givenUp, down] ∧
      LeftUp (sensorCalls [givenUp, down] ++ early) := by
  intro radar givenUp down early late replacing
  have hruns : ({} : SensorManager).Runs [givenUp, down, replacing] replacing.after := by
    refine .cons (.mk ?_) (.cons (.mk (.done _)) (.cons (.mk ?_) (.nil _)))
    · exact .log (.ask (.ask (.ask (.log (.ask (.ask (.log (.log (.done _)))))))))
    · exact .ask (.log (.ask (.ask (.ask (.log (.done _))))))
  have hup : LeftUp givenUp.calls := by
    refine ⟨[_, _, _], _, [_], rfl, .inl rfl, ?_⟩
    simp [Exchange.KeepsUp, Exchange.built]
  have hstranded : Stranded [givenUp, down] := by
    refine ⟨[], givenUp, [down], rfl, ⟨rfl, .inl hup⟩, ?_⟩
    exact List.forall_mem_singleton.mpr ⟨rfl, rfl⟩
  have hsplit : [givenUp, down, replacing] = [givenUp, down] ++ replacing :: [] := rfl
  exact ⟨hruns, hstranded, (replaced_leftUp_iff hruns hsplit rfl).mpr (.inr (.inr hstranded))⟩

/-- A driver for an infrared sensor is replaced while the sensor is up, and the radar in its place was powered down and
is woken before it is replaced itself. -/
theorem sensor_replaced_awake :
    let radar : SensorModel := ⟨3, "Radar", false, true⟩
    let ready : List Exchange := [⟨.initSensor, true⟩, ⟨.isSensorReady, true⟩]
    let first : SensorStep := ⟨{}, .ensureReady 1, ⟨.buildSensor .infrared, ()⟩ :: ready, .ready true,
      ⟨some .infrared, true⟩⟩
    let second : SensorStep := ⟨⟨some .infrared, true⟩, .ensureReady 3, ⟨.buildSensor radar, ()⟩ :: ready, .ready true,
      ⟨some radar, true⟩⟩
    let down : SensorStep := ⟨⟨some radar, true⟩, .powerDown, [⟨.sleepSensor, ()⟩], .poweredDown, ⟨some radar, false⟩⟩
    let waking : List Exchange := [⟨.wakeSensor, true⟩, ⟨.isSensorReady, true⟩]
    let third : SensorStep := ⟨⟨some radar, false⟩, .powerUp 1, waking ++ ⟨.buildSensor .infrared, ()⟩ :: ready,
      .ready true, ⟨some .infrared, true⟩⟩
    ({} : SensorManager).Runs [first, second, down, third] third.after ∧ LeftUp (sensorCalls [first]) ∧
      LeftUp (sensorCalls [first, second, down] ++ waking) := by
  intro radar ready first second down waking third
  refine ⟨?_, ?_, ?_⟩
  · refine .cons (.mk ?_) (.cons (.mk ?_) (.cons (.mk (.ask (.log (.done _)))) (.cons (.mk ?_) (.nil _))))
    · exact .log (.ask (.ask (.ask (.log (.done _)))))
    · exact .log (.ask (.ask (.ask (.log (.done _)))))
    · exact .ask (.ask (.log (.log (.ask (.ask (.ask (.log (.done _))))))))
  · refine ⟨[_], _, [_], rfl, .inl rfl, ?_⟩
    simp [Exchange.KeepsUp, Exchange.built]
  · refine ⟨sensorCalls [first, second, down], _, [_], rfl, .inr rfl, ?_⟩
    simp [Exchange.KeepsUp, Exchange.built]

end SensorManager

end FieldCounter
