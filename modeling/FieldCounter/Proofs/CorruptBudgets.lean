import Mathlib.Data.List.Forall2
import FieldCounter.Proofs.BudgetsInForce
import FieldCounter.Proofs.Run

/-!
# A corrupt budget

Two devices are booted from settings with the same budgets in force: where a budget is out of range in one of
them, the other may hold the factory value. Over the same other devices they make the same calls throughout, and
are in the same state before and after every tick. They differ in the stored budgets, and in when the settings
are written, only.
-/

namespace FieldCounter

open Program

/-- The reads of the settings get the same answer, or settings with the same budgets in force. -/
inductive ReadsAlike : Except StorageError Bytes → Except StorageError Bytes → Prop where
  | same (answer : Except StorageError Bytes) : ReadsAlike answer answer
  | budgets {bytes corrupt : Bytes} {config other : DeviceConfig} :
      Record.decodeRaw (bytes.take recordCapacity) = .ok config →
      Record.decodeRaw (corrupt.take recordCapacity) = .ok other → config.inForce = other.inForce →
      ReadsAlike (.ok bytes) (.ok corrupt)

/-- The events are of one kind, and a boot reads settings alike. -/
inductive Event.Parallel : Event → Event → Prop where
  | boot {calls others : List Exchange} {c d : Controller} :
      (∀ answer other, ⟨.readRecord .config, answer⟩ ∈ calls → ⟨.readRecord .config, other⟩ ∈ others →
        ReadsAlike answer other) →
      Parallel (.boot calls c) (.boot others d)
  | tick {before after first last : Controller} {calls others : List Exchange} {control ends : Control} :
      Parallel (.tick before calls control after) (.tick first others ends last)
  | raise (alert : Alert) (now : UInt32) : Parallel (.raise alert now) (.raise alert now)

/-- The same happens in both events, but for the stored budgets and the writing of the settings. -/
inductive Event.Alike : Event → Event → Prop where
  | boot {calls others : List Exchange} {c d : Controller} :
      observed calls = observed others → c.veiled = d.veiled → Alike (.boot calls c) (.boot others d)
  | tick {before after first last : Controller} {calls others : List Exchange} {control : Control} :
      before.veiled = first.veiled → observed calls = observed others → after.veiled = last.veiled →
      Alike (.tick before calls control after) (.tick first others control last)
  | raise (alert : Alert) (now : UInt32) : Alike (.raise alert now) (.raise alert now)

/-! ## Boots -/

/-- The budgets do not make settings unusable. -/
theorem DeviceConfig.usable_of_inForce_eq {config other : DeviceConfig} (h : config.inForce = other.inForce)
    (husable : Record.Usable config) : Record.Usable other := by
  rw [usable_iff] at husable ⊢
  show other.inForce.isSane = true
  rwa [← h]

/-- Settings that can be used are read on both sides, or on neither. -/
theorem ReadsAlike.reads {answer other : Except StorageError Bytes} (h : ReadsAlike answer other)
    {config : DeviceConfig} (hreads : Persisted.Reads answer config) :
    ∃ corrupt : DeviceConfig, Persisted.Reads other corrupt ∧ config.inForce = corrupt.inForce := by
  cases h with
  | same => exact ⟨config, hreads, rfl⟩
  | @budgets bytes second raw corrupt hraw hcorrupt hinForce =>
    obtain ⟨read, hread, hdecode⟩ := hreads
    rw [← Except.ok.inj hread] at hdecode
    obtain ⟨hvalue, husable⟩ := Record.decode_eq_ok_iff.mp hdecode
    obtain rfl : raw = config := Except.ok.inj (hraw.symm.trans hvalue)
    have hdecoded := Record.decode_eq_ok_iff.mpr ⟨hcorrupt, DeviceConfig.usable_of_inForce_eq hinForce husable⟩
    exact ⟨corrupt, ⟨second, rfl, hdecoded⟩, hinForce⟩

/-- Which of the two answers comes first does not matter. -/
theorem ReadsAlike.symm {answer other : Except StorageError Bytes} (h : ReadsAlike answer other) :
    ReadsAlike other answer := by
  cases h with
  | same => exact .same answer
  | budgets hconfig hother hinForce => exact .budgets hother hconfig hinForce.symm

namespace Persisted

/-- What is read is one value. -/
theorem Reads.unique {α : Type} [Record α] {answer : Except StorageError Bytes} {value other : α}
    (h : Reads answer value) (hother : Reads answer other) : value = other := by
  obtain ⟨bytes, rfl, hdecode⟩ := h
  obtain ⟨same, hsame, hdecodeOther⟩ := hother
  rw [← Except.ok.inj hsame, hdecode] at hdecodeOther
  exact Except.ok.inj hdecodeOther

/-- A load makes calls about its own record only. -/
theorem calls_load {α : Type} [Record α] [DecidableEq α] [Record.Lawful α] :
    (load α).Calls fun call =>
      call = .readRecord (Record.key α) ∨ ∃ bytes, call = .writeRecord (Record.key α) bytes := by
  intro trace result hpath exchange hmem
  obtain ⟨answer, rest, rfl, hloaded | ⟨_, written, hinstalled⟩⟩ := load_cases hpath
  · obtain ⟨_, _, rfl, _⟩ := hloaded
    rw [List.mem_singleton.mp hmem]
    exact .inl rfl
  rcases List.mem_cons.mp hmem with rfl | hrest
  · exact .inl rfl
  · rcases flush_cases hinstalled with ⟨_, rfl, _⟩ | ⟨rfl, _⟩ | ⟨_, error, rfl, _⟩
    · cases hrest
    · rw [List.mem_singleton.mp hrest]
      exact .inr ⟨_, rfl⟩
    · rw [List.mem_singleton.mp hrest]
      exact .inr ⟨_, rfl⟩

variable {record other : Persisted DeviceConfig} {outcome outcomeOther : LoadOutcome} {first second : List Exchange}

/-- A load of the settings reads them first. -/
theorem value_of_load (h : Path (load DeviceConfig) first (record, outcome)) :
    ∃ answer, ⟨.readRecord .config, answer⟩ ∈ first ∧
      (Reads answer record.value ∨
        (∀ config : DeviceConfig, ¬Reads answer config) ∧ record.value = Record.factory) := by
  obtain ⟨answer, rest, rfl, hloaded | ⟨hnone, written, hinstalled⟩⟩ := load_cases h
  · obtain ⟨value, hreads, _, rfl, _⟩ := hloaded
    exact ⟨answer, List.mem_cons_self, .inl hreads⟩
  · exact ⟨answer, List.mem_cons_self, .inr ⟨hnone, value_of_flush hinstalled⟩⟩

/-- Settings that are read alike are loaded with the same budgets in force. -/
theorem inForce_load (hfirst : Path (load DeviceConfig) first (record, outcome))
    (hsecond : Path (load DeviceConfig) second (other, outcomeOther))
    (halike : ∀ answer other, ⟨.readRecord .config, answer⟩ ∈ first → ⟨.readRecord .config, other⟩ ∈ second →
      ReadsAlike answer other) : record.value.inForce = other.value.inForce := by
  obtain ⟨answer, hanswer, hvalue⟩ := value_of_load hfirst
  obtain ⟨given, hgiven, hvalueOther⟩ := value_of_load hsecond
  have hreads := halike answer given hanswer hgiven
  rcases hvalue with hvalue | ⟨hnone, hvalue⟩
  · obtain ⟨corrupt, hcorrupt, hinForce⟩ := hreads.reads hvalue
    rcases hvalueOther with hvalueOther | ⟨hnone, _⟩
    · rw [hinForce, hcorrupt.unique hvalueOther]
    · exact absurd hcorrupt (hnone corrupt)
  · rcases hvalueOther with hvalueOther | ⟨_, hvalueOther⟩
    · obtain ⟨config, hconfig, _⟩ := hreads.symm.reads hvalueOther
      exact absurd hconfig (hnone config)
    · rw [hvalue, hvalueOther]

/-- Nothing of it is observed. -/
theorem observed_load (h : Path (load DeviceConfig) first (record, outcome)) : observed first = [] := by
  apply List.filter_eq_nil_iff.mpr
  intro exchange hmem
  obtain hcall | ⟨bytes, hcall⟩ := calls_load h exchange hmem
  · rw [hcall]
    exact Bool.false_ne_true
  · rw [hcall]
    exact Bool.false_ne_true

/-- A load of the status leaves the stored settings alone. -/
theorem calls_load_status : (load RuntimeStatus).Calls (·.isOfConfig = false) := by
  refine calls_load.mono fun trace result hcalls exchange hmem => ?_
  obtain hcall | ⟨bytes, hcall⟩ := hcalls exchange hmem
  · rw [hcall]
    rfl
  · rw [hcall]
    rfl

end Persisted

/-- Boots that read settings alike leave the same state, but for the stored budgets. -/
theorem Controller.veiled_boot {devices : Behaviour} {earlier first second : List Exchange} {c d : Controller}
    (hfirst : Path boot first c) (hsecond : Path boot second d)
    (halike : ∀ answer other, ⟨.readRecord .config, answer⟩ ∈ first → ⟨.readRecord .config, other⟩ ∈ second →
      ReadsAlike answer other)
    (hanswers : devices.Answers earlier (observed first)) (hother : devices.Answers earlier (observed second)) :
    observed first = observed second ∧ c.veiled = d.veiled := by
  obtain ⟨config, _, status, outcome, reading, rest, hconfig, hstatus, rfl, rfl⟩ := boot_cases hfirst
  obtain ⟨configOther, _, statusOther, outcomeOther, readingOther, restOther, hconfigOther, hstatusOther, rfl, rfl⟩ :=
    boot_cases hsecond
  have hinForce := Persisted.inForce_load hconfig hconfigOther fun answer other hmem hmemOther =>
    halike answer other (List.mem_append_left _ hmem) (List.mem_append_left _ hmemOther)
  rw [observed_append, Persisted.observed_load hconfig, List.nil_append] at hanswers ⊢
  rw [observed_append, Persisted.observed_load hconfigOther, List.nil_append] at hother ⊢
  obtain ⟨hsame, hloaded⟩ := (Mirrors.refl Persisted.calls_load_status).agree hstatus hstatusOther hanswers hother
  obtain rfl : status = statusOther := congrArg Prod.fst hloaded
  refine ⟨hsame, ?_⟩
  show ({ ofRecords config status with config := { value := config.value.inForce } } : Controller) = _
  rw [hinForce]
  rfl

/-! ## Runs -/

/-- From states that differ in the stored budgets only, the same happens, and such states are left. -/
theorem Event.Leads.alike {devices : Behaviour} {earlier : List Exchange} {first second : Event}
    {state other next last : Option Controller} (hfirst : first.Leads state next) (hsecond : second.Leads other last)
    (hparallel : first.Parallel second) (hstate : state.map Controller.veiled = other.map Controller.veiled)
    (hanswers : devices.Answers earlier (observed first.calls))
    (hother : devices.Answers earlier (observed second.calls)) :
    first.Alike second ∧ observed first.calls = observed second.calls ∧
      next.map Controller.veiled = last.map Controller.veiled := by
  cases hparallel with
  | boot halike =>
    cases hfirst with
    | boot hpath =>
      cases hsecond with
      | boot hpathOther =>
        obtain ⟨hsame, hveiled⟩ := Controller.veiled_boot hpath hpathOther halike hanswers hother
        exact ⟨.boot hsame hveiled, hsame, congrArg some hveiled⟩
  | tick =>
    cases hfirst with
    | tick hpath =>
      cases hsecond with
      | tick hpathOther =>
        have hveiled := Option.some.inj hstate
        obtain ⟨hsame, hcontrol, hafter⟩ := (Controller.blind_tick hveiled).agree hpath hpathOther hanswers hother
        dsimp only at hcontrol hafter
        rw [← hcontrol]
        refine ⟨.tick hveiled hsame hafter, hsame, ?_⟩
        unfold Control.leaves
        split
        · exact congrArg some hafter
        · rfl
  | raise alert now =>
    cases hfirst with
    | raise c =>
      cases hsecond with
      | raise d =>
        have hveiled := Option.some.inj hstate
        have hstatus : c.status = d.status := congrArg (·.status) hveiled
        refine ⟨.raise alert now, rfl, congrArg some ?_⟩
        show c.veiled.setStatus (c.status.value.raiseAlert alert now).value =
          d.veiled.setStatus (d.status.value.raiseAlert alert now).value
        rw [hveiled, hstatus]

/-- From states that differ in the stored budgets only, the same goes on happening. -/
theorem Run.alike_of_veiled {devices : Behaviour} {earlier : List Exchange} {first second : List Event}
    {state other last lastOther : Option Controller} (hfirst : Run state first last)
    (hsecond : Run other second lastOther) (hparallel : List.Forall₂ Event.Parallel first second)
    (hstate : state.map Controller.veiled = other.map Controller.veiled)
    (hanswers : devices.Answers earlier (observed (callsOf first)))
    (hother : devices.Answers earlier (observed (callsOf second))) : List.Forall₂ Event.Alike first second := by
  induction hparallel generalizing earlier state other with
  | nil => exact .nil
  | @cons event counterpart rest restOther hevent _ ih =>
    cases hfirst with
    | cons hleads hrest =>
      cases hsecond with
      | cons hleadsOther hrestOther =>
        have hparts (event : Event) (rest : List Event) :
            observed (callsOf (event :: rest)) = observed event.calls ++ observed (callsOf rest) :=
          observed_append event.calls (callsOf rest)
        rw [hparts, Behaviour.answers_append_iff] at hanswers hother
        obtain ⟨halike, hsame, hnext⟩ := hleads.alike hleadsOther hevent hstate hanswers.1 hother.1
        rw [← hsame] at hother
        exact .cons halike (ih hrest hrestOther hnext hanswers.2 hother.2)

/-- A corrupt budget cannot be told from its factory value. Over the same devices, booted from settings that are
equal but for budgets that are out of range in one of them and factory values in the other, two devices make the
same calls, apart from the writing of the settings, and have the same state before and after every tick, apart
from the stored budgets. -/
theorem Run.alike_of_parallel {devices : Behaviour} {first second : List Event} {last lastOther : Option Controller}
    (hfirst : Run none first last) (hsecond : Run none second lastOther)
    (hparallel : List.Forall₂ Event.Parallel first second)
    (hanswers : devices.Answers [] (observed (callsOf first)))
    (hother : devices.Answers [] (observed (callsOf second))) : List.Forall₂ Event.Alike first second :=
  hfirst.alike_of_veiled hsecond hparallel rfl hanswers hother

/-! ## Two lives over the same devices -/

namespace Behaviour

/-- The devices, with fixed bytes where the settings are read, and what was observed so far. -/
def environment (devices : Behaviour) (stored : Bytes) : Environment (List Exchange) where
  answer
    | .readRecord .config, seen => (.ok stored, seen)
    | .writeRecord .config _, seen => (.ok (), seen)
    | call, seen => (devices seen call, seen ++ [⟨call, devices seen call⟩])
  log := fun _ seen => seen

/-- A tick, with what was observed before it. -/
def tick (devices : Behaviour) (stored : Bytes) (before : Controller) (seen : List Exchange) :
    (Control × Controller) × List Exchange :=
  (Controller.tick.run before).run (devices.environment stored) seen

/-- The ticks that follow, up to a number of them, until the device restarts. -/
def ticks (devices : Behaviour) (stored : Bytes) : Nat → Controller → List Exchange → List Event
  | 0, _, _ => []
  | more + 1, before, seen =>
    let ((control, after), later) := devices.tick stored before seen
    let trace := (Controller.tick.run before).trace (devices.environment stored) seen
    .tick before trace control after ::
      match control with
      | .proceed => devices.ticks stored more after later
      | .restart => []

/-- A boot and the ticks after it. -/
def life (devices : Behaviour) (stored : Bytes) (more : Nat) : List Event :=
  let (c, seen) := Controller.boot.run (devices.environment stored) []
  .boot (Controller.boot.trace (devices.environment stored) []) c :: devices.ticks stored more c seen

variable {devices : Behaviour} {stored : Bytes}

/-- A program is answered by the devices. -/
theorem answers_trace {α : Type} (x : Program α) (seen : List Exchange) :
    devices.Answers seen (observed (x.trace (devices.environment stored) seen)) ∧
      (x.run (devices.environment stored) seen).2 = seen ++ observed (x.trace (devices.environment stored) seen) := by
  induction x generalizing seen with
  | done a => exact ⟨trivial, (List.append_nil seen).symm⟩
  | log note rest ih => exact ih seen
  | ask call next ih =>
    by_cases hcall : call.isOfConfig = true
    · -- the settings are read and written apart from what is observed
      have hapart (answer : call.Answer) (rest : List Exchange) : observed (⟨call, answer⟩ :: rest) = observed rest :=
        List.filter_cons_of_neg (by rw [hcall]; exact Bool.false_ne_true)
      obtain ⟨answer, hanswer⟩ : ∃ answer, (devices.environment stored).answer call seen = (answer, seen) := by
        cases call with
        | readRecord key => cases key <;> first | exact ⟨_, rfl⟩ | cases hcall
        | writeRecord key bytes => cases key <;> first | exact ⟨_, rfl⟩ | cases hcall
        | _ => cases hcall
      rw [Program.trace, Program.run, hanswer, hapart]
      exact ih answer seen
    · rw [Bool.not_eq_true] at hcall
      have hobserved (answer : call.Answer) (rest : List Exchange) :
          observed (⟨call, answer⟩ :: rest) = ⟨call, answer⟩ :: observed rest :=
        List.filter_cons_of_pos (by rw [hcall]; rfl)
      have hanswer : (devices.environment stored).answer call seen =
          (devices seen call, seen ++ [⟨call, devices seen call⟩]) := by
        cases call with
        | readRecord key => cases key <;> first | rfl | cases hcall
        | writeRecord key bytes => cases key <;> first | rfl | cases hcall
        | _ => rfl
      rw [Program.trace, Program.run, hobserved, hanswer]
      obtain ⟨hanswers, hseen⟩ := ih (devices seen call) (seen ++ [⟨call, devices seen call⟩])
      refine ⟨⟨rfl, hanswers⟩, ?_⟩
      rw [← List.append_cons] at hseen
      exact hseen

/-- Ticks are a run that the devices answer. -/
theorem run_ticks (more : Nat) (before : Controller) (seen : List Exchange) :
    (∃ last, Run (some before) (devices.ticks stored more before seen) last) ∧
      devices.Answers seen (observed (callsOf (devices.ticks stored more before seen))) := by
  induction more generalizing before seen with
  | zero => exact ⟨⟨_, .nil _⟩, trivial⟩
  | succ more ih =>
    have hpath := (Controller.tick.run before).path_run (devices.environment stored) seen
    obtain ⟨hanswers, hseen⟩ := @answers_trace devices stored _ (Controller.tick.run before) seen
    unfold ticks tick
    generalize (Controller.tick.run before).trace (devices.environment stored) seen = trace at hpath hanswers hseen ⊢
    generalize (Controller.tick.run before).run (devices.environment stored) seen = result at hpath hseen ⊢
    obtain ⟨⟨control, after⟩, later⟩ := result
    obtain rfl : later = seen ++ observed trace := hseen
    have hparts (rest : List Event) :
        observed (callsOf (.tick before trace control after :: rest)) = observed trace ++ observed (callsOf rest) :=
      observed_append trace (callsOf rest)
    cases control with
    | restart =>
      refine ⟨⟨_, .cons (.tick hpath) (.nil _)⟩, ?_⟩
      rw [hparts]
      exact answers_append_iff.mpr ⟨hanswers, trivial⟩
    | proceed =>
      obtain ⟨⟨last, hrun⟩, hrest⟩ := ih after (seen ++ observed trace)
      refine ⟨⟨last, .cons (.tick hpath) hrun⟩, ?_⟩
      rw [hparts]
      exact answers_append_iff.mpr ⟨hanswers, hrest⟩

/-- A life is a run that the devices answer. -/
theorem run_life (devices : Behaviour) (stored : Bytes) (more : Nat) :
    (∃ last, Run none (devices.life stored more) last) ∧
      devices.Answers [] (observed (callsOf (devices.life stored more))) := by
  have hpath := Controller.boot.path_run (devices.environment stored) []
  obtain ⟨hanswers, hseen⟩ := @answers_trace devices stored _ Controller.boot []
  unfold life
  generalize Controller.boot.trace (devices.environment stored) [] = trace at hpath hanswers hseen ⊢
  generalize Controller.boot.run (devices.environment stored) [] = result at hpath hseen ⊢
  obtain ⟨c, seen⟩ := result
  obtain rfl : seen = observed trace := hseen
  obtain ⟨⟨last, hrun⟩, hrest⟩ := @run_ticks devices stored more c (observed trace)
  refine ⟨⟨last, .cons (.boot hpath) hrun⟩, ?_⟩
  show devices.Answers [] (observed (trace ++ callsOf (devices.ticks stored more c (observed trace))))
  rw [observed_append, answers_append_iff]
  exact ⟨hanswers, hrest⟩

/-- Whenever the settings are read, the bytes are those that were fixed. -/
theorem read_of_mem {α : Type} {x : Program α} {seen : List Exchange} {answer : Except StorageError Bytes}
    (hmem : ⟨.readRecord .config, answer⟩ ∈ x.trace (devices.environment stored) seen) : answer = .ok stored := by
  induction x generalizing seen with
  | done a => cases hmem
  | log note rest ih => exact ih hmem
  | ask call next ih =>
    rcases List.mem_cons.mp hmem with hfirst | hrest
    · cases hfirst
      rfl
    · exact ih _ hrest

/-- All that follows the boot is ticks. -/
theorem exists_of_mem_ticks {more : Nat} {before : Controller} {seen : List Exchange} {event : Event}
    (hmem : event ∈ devices.ticks stored more before seen) :
    ∃ before calls control after, event = .tick before calls control after := by
  induction more generalizing before seen with
  | zero => cases hmem
  | succ more ih =>
    rcases List.mem_cons.mp hmem with rfl | hrest
    · exact ⟨_, _, _, _, rfl⟩
    · split at hrest
      · exact ih hrest
      · cases hrest

/-- Lives of the same length are parallel where the settings are alike. -/
theorem parallel_life {corrupt : Bytes} {more : Nat} (hstored : ReadsAlike (.ok stored) (.ok corrupt))
    (hlength : (devices.life stored more).length = (devices.life corrupt more).length) :
    List.Forall₂ Event.Parallel (devices.life stored more) (devices.life corrupt more) := by
  refine .cons (.boot fun answer other hmem hother => ?_) (List.forall₂_iff_get.mpr ⟨Nat.succ.inj hlength, ?_⟩)
  · rw [read_of_mem hmem, read_of_mem hother]
    exact hstored
  · intro i hi hother
    obtain ⟨_, _, _, _, hevent⟩ := exists_of_mem_ticks (List.get_mem _ ⟨i, hi⟩)
    obtain ⟨_, _, _, _, hcounterpart⟩ := exists_of_mem_ticks (List.get_mem _ ⟨i, hother⟩)
    rw [hevent, hcounterpart]
    exact .tick

/-- Devices of which nothing is amiss but that the radio never comes online, at which the clocks go on by so many
seconds whenever they are read. -/
def offline (secs : Nat) : Behaviour := fun seen call =>
  Devices.afterNoon (secs * seen.countP (·.call matches .readClock)) false call

end Behaviour

/-- The state that a tick leaves the device in. -/
def Event.stateAfter : Event → Option RunState
  | .tick _ _ _ after => some after.runState
  | .boot _ _ | .raise _ _ => none

/-- The beginning of a life with the factory settings. -/
def factoryLife : List Event := (Behaviour.offline 150).life (Record.encode (default : DeviceConfig)) 10

/-- The same with a stored budget of five seconds for coming online, which is out of range. -/
def corruptLife : List Event :=
  (Behaviour.offline 150).life (Record.encode { (default : DeviceConfig) with connectBudget := 5 }) 10

/-- With a radio that never comes online, the device gives up only after the ten minutes of the factory budget. -/
theorem alike_corruptLife :
    (∃ last, Run none factoryLife last) ∧ (∃ last, Run none corruptLife last) ∧
      List.Forall₂ Event.Parallel factoryLife corruptLife ∧
      (Behaviour.offline 150).Answers [] (observed (callsOf factoryLife)) ∧
      (Behaviour.offline 150).Answers [] (observed (callsOf corruptLife)) ∧
      List.Forall₂ Event.Alike factoryLife corruptLife ∧
      corruptLife.filterMap Event.stateAfter =
        [.idle, .reporting, .connecting, .connecting, .connecting, .connecting, .connecting, .connecting, .sleeping,
          .idle] := by
  obtain ⟨⟨last, hrun⟩, hanswers⟩ := (Behaviour.offline 150).run_life (Record.encode (default : DeviceConfig)) 10
  obtain ⟨⟨lastOther, hrunOther⟩, hother⟩ := (Behaviour.offline 150).run_life
    (Record.encode { (default : DeviceConfig) with connectBudget := 5 }) 10
  have hdecode (config : DeviceConfig) :
      Record.decodeRaw ((Record.encode config).take recordCapacity) = .ok config := by
    rw [List.take_of_length_le (Record.length_encode_le config), Record.decodeRaw_encode]
  have hparallel : List.Forall₂ Event.Parallel factoryLife corruptLife := Behaviour.parallel_life
    (.budgets (hdecode _) (hdecode _) (by decide)) (by decide +kernel)
  have halike := Run.alike_of_parallel hrun hrunOther hparallel hanswers hother
  exact ⟨⟨last, hrun⟩, ⟨lastOther, hrunOther⟩, hparallel, hanswers, hother, halike, by decide +kernel⟩

end FieldCounter
