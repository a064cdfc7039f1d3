import FieldCounter.Proofs.Script
import FieldCounter.Proofs.Sleeping

/-!
# A step at a call

A path tells what a program comes to in the end. What it has in memory at one of its calls is in what it would
do with the answer: a program that reaches a call is left with the rest of itself, and where this is a step run
from a controller, that controller is in memory at the call. The rules follow the construction of a step up to
the calls at which the device may stop.
-/

namespace FieldCounter

namespace Program

variable {α β : Type}

/-- The program can make the listed calls and get the listed answers; then it makes this call, and goes on with
its answer. -/
inductive Reaches : Program α → List Exchange → (call : Call) → (call.Answer → Program α) → Prop where
  | now (call : Call) (next : call.Answer → Program α) : Reaches (.ask call next) [] call next
  | ask {asked call : Call} {next : asked.Answer → Program α} {answer : asked.Answer} {first : List Exchange}
      {rest : call.Answer → Program α} :
      Reaches (next answer) first call rest → Reaches (.ask asked next) (⟨asked, answer⟩ :: first) call rest
  | log {note : Note} {x : Program α} {first : List Exchange} {call : Call} {rest : call.Answer → Program α} :
      Reaches x first call rest → Reaches (.log note x) first call rest

variable {first later : List Exchange} {call : Call} {rest : call.Answer → Program α}

/-- The paths through the call are those of what is left of the program. -/
theorem Reaches.path_iff {x : Program α} {a : α} {answer : call.Answer} (h : Reaches x first call rest) :
    Path x (first ++ ⟨call, answer⟩ :: later) a ↔ Path (rest answer) later a := by
  induction h with
  | now call next =>
    refine path_ask_iff.trans ⟨fun hpath => ?_, fun hpath => ⟨answer, later, rfl, hpath⟩⟩
    obtain ⟨_, _, heq, hpath⟩ := hpath
    cases heq
    exact hpath
  | ask _ ih =>
    refine path_ask_iff.trans ⟨fun hpath => ?_, fun hpath => ⟨_, _, rfl, ih.mpr hpath⟩⟩
    obtain ⟨_, _, heq, hpath⟩ := hpath
    cases heq
    exact ih.mp hpath
  | log _ ih => exact path_log_iff.trans ih

/-- A program reaches every call on each of its paths. -/
theorem Path.reaches {x : Program α} {a : α} {answer : call.Answer} (h : Path x (first ++ ⟨call, answer⟩ :: later) a) :
    ∃ rest, Reaches x first call rest := by
  generalize htrace : first ++ ⟨call, answer⟩ :: later = trace at h
  induction h generalizing first with
  | done a => cases first <;> cases htrace
  | @ask _ next _ _ _ _ ih =>
    cases first with
    | nil =>
      cases htrace
      exact ⟨_, .now call next⟩
    | cons exchange first =>
      obtain ⟨rfl, hrest⟩ := List.cons.inj htrace
      obtain ⟨rest, hreaches⟩ := ih hrest
      exact ⟨rest, .ask hreaches⟩
  | log _ ih =>
    obtain ⟨rest, hreaches⟩ := ih htrace
    exact ⟨rest, .log hreaches⟩

/-- A call is reached in the first of two programs, or in the second. -/
theorem reaches_bind {x : Program α} {f : α → Program β} {rest : call.Answer → Program β}
    (h : Reaches (x >>= f) first call rest) :
    (∃ between, Reaches x first call between ∧ rest = fun answer => between answer >>= f) ∨
      ∃ a before after, Path x before a ∧ Reaches (f a) after call rest ∧ first = before ++ after := by
  induction x generalizing first with
  | done a => exact .inr ⟨a, [], first, .done a, h, rfl⟩
  | ask asked next ih =>
    cases h with
    | now => exact .inl ⟨next, .now _ next, rfl⟩
    | ask h =>
      rcases ih _ h with ⟨between, hreaches, hrest⟩ | ⟨a, before, after, hpath, hreaches, rfl⟩
      · exact .inl ⟨between, .ask hreaches, hrest⟩
      · exact .inr ⟨a, _, after, .ask hpath, hreaches, rfl⟩
  | log note x ih =>
    cases h with
    | log h =>
      rcases ih h with ⟨between, hreaches, hrest⟩ | ⟨a, before, after, hpath, hreaches, rfl⟩
      · exact .inl ⟨between, .log hreaches, hrest⟩
      · exact .inr ⟨a, before, after, .log hpath, hreaches, rfl⟩

/-- A call that is reached is on some path. -/
theorem Reaches.exists_path {x : Program α} (h : Reaches x first call rest) :
    ∃ answer later a, Path x (first ++ ⟨call, answer⟩ :: later) a := by
  let env : Environment Unit :=
    { answer := fun call _ => (Devices.afterNoon 0 false call, ())
      log := fun _ _ => () }
  exact ⟨Devices.afterNoon 0 false call, _, _, h.path_iff.mpr (path_run env (rest _) ())⟩

end Program

/-- At the call execution may stop: the device goes to sleep or is reset. -/
def Call.stops : Call → Bool
  | .deepSleep _ _ | .timedSleep _ _ | .softReset | .hardPowerCycle => true
  | _ => false

/-- At a reset execution may stop. -/
theorem Call.stops_of_isReset {call : Call} (h : call.isReset = true) : call.stops = true := by
  cases call <;> first | rfl | cases h

namespace Step

open Program (Reaches)

variable {α β : Type} {c : Controller} {x : Step α} {f : α → Step β}

/-- The step has no call at which execution may stop. -/
def Unstopped (x : Step α) (c : Controller) : Prop :=
  x.Ensures c fun trace _ _ => ∀ exchange ∈ trace, exchange.call.stops = false

/-- What an unstopped step reaches is no call at which execution may stop. -/
theorem Unstopped.not_stops (h : x.Unstopped c) {first : List Exchange} {call : Call}
    {rest : call.Answer → Program (α × Controller)} (hreaches : Reaches (x.run c) first call rest) :
    call.stops = false := by
  obtain ⟨answer, later, result, hpath⟩ := hreaches.exists_path
  exact h hpath ⟨call, answer⟩ (by simp)

/-- Steps within effects of which none is such a call have none. -/
theorem Within.unstopped {allowed : Effect → Bool} (h : Within allowed x c)
    (hask : ∀ call, allowed (.ask call) = true → call.stops = false) : x.Unstopped c := by
  refine Ensures.mono h fun trace _ _ heffects exchange hmem => ?_
  obtain ⟨effect, hallowed, hcall⟩ := heffects.mayCall exchange hmem
  cases effect with
  | ask call =>
    rw [← eq_of_beq hcall]
    exact hask call hallowed
  | _ => cases hstop : exchange.call <;> first | rfl | (rw [hstop] at hcall; cases hcall)

/-- Wherever execution may stop in the step, the property holds of the calls before, of the call and of the
controller in memory; and from there the device goes on with the answer as told. -/
def Stops (x : Step α) (c : Controller) (next : (call : Call) → call.Answer → Step α)
    (property : List Exchange → Call → Controller → Prop) : Prop :=
  ∀ ⦃first call rest⦄, Reaches (x.run c) first call rest → call.stops = true →
    ∃ halted, (rest = fun answer => (next call answer).run halted) ∧ property first call halted

variable {next : (call : Call) → call.Answer → Step β} {P Q : List Exchange → Call → Controller → Prop}

/-- A weaker property holds there as well. -/
theorem Stops.mono {x : Step β} (h : x.Stops c next P)
    (hmono : ∀ first call halted, P first call halted → Q first call halted) : x.Stops c next Q := by
  intro first call rest hreaches hstops
  obtain ⟨halted, hrest, hproperty⟩ := h hreaches hstops
  exact ⟨halted, hrest, hmono _ _ _ hproperty⟩

/-- Of an unstopped step anything holds where execution may stop in it. -/
theorem Unstopped.stops {x : Step β} (h : x.Unstopped c) : x.Stops c next P := by
  intro first call rest hreaches hstops
  rw [h.not_stops hreaches] at hstops
  cases hstops

/-- Where what comes first does not stop, what follows does. -/
theorem Unstopped.stops_bind (hx : x.Unstopped c)
    (hf : x.Ensures c fun trace a between => (f a).Stops between next fun first => P (trace ++ first)) :
    (x >>= f : Step β).Stops c next P := by
  intro first call rest hreaches hstops
  rw [StateT.run_bind] at hreaches
  rcases Program.reaches_bind hreaches with ⟨_, hfirst, _⟩ | ⟨result, before, after, hpath, hafter, rfl⟩
  · rw [hx.not_stops hfirst] at hstops
    cases hstops
  · exact hf hpath hafter hstops

/-- Where what follows does not stop, it is still to come at every stop. -/
theorem Stops.bind {next : (call : Call) → call.Answer → Step α} (hx : x.Stops c next P)
    (hf : ∀ a between, (f a).Unstopped between) :
    (x >>= f : Step β).Stops c (fun call answer => next call answer >>= f) P := by
  intro first call rest hreaches hstops
  rw [StateT.run_bind] at hreaches
  rcases Program.reaches_bind hreaches with ⟨between, hfirst, rfl⟩ | ⟨result, before, after, hpath, hafter, rfl⟩
  · obtain ⟨halted, rfl, hproperty⟩ := hx hfirst hstops
    exact ⟨halted, funext fun answer => (StateT.run_bind ..).symm, hproperty⟩
  · rw [(hf result.1 result.2).not_stops hafter] at hstops
    cases hstops

/-- The device stops at a call with what it has in memory, and perhaps again after it. -/
theorem stops_call_bind {stop : Call} {f : stop.Answer → Step β} (hnow : P [] stop c)
    (hnext : ∀ answer, f answer = next stop answer)
    (hlater : ∀ answer, (f answer).Stops c next fun first => P (⟨stop, answer⟩ :: first)) :
    ((liftM (FieldCounter.call stop) : Step stop.Answer) >>= f : Step β).Stops c next P := by
  intro first call rest hreaches hstops
  have hrun : ((liftM (FieldCounter.call stop) : Step stop.Answer) >>= f : Step β).run c =
      .ask stop fun answer => (f answer).run c := rfl
  rw [hrun] at hreaches
  cases hreaches with
  | now => exact ⟨c, funext fun answer => by rw [hnext], hnow⟩
  | ask h => exact hlater _ h hstops

/-- In a choice execution stops where it does on the side that is taken. -/
theorem stops_ite {p : Prop} [Decidable p] {x y : Step β} (hx : p → x.Stops c next P) (hy : ¬p → y.Stops c next P) :
    (if p then x else y : Step β).Stops c next P := by
  by_cases hp : p
  · rw [if_pos hp]
    exact hx hp
  · rw [if_neg hp]
    exact hy hp

/-- A look at the controller is no place to stop. -/
theorem stops_get_bind {f : Controller → Step β} (hf : (f c).Stops c next P) :
    (get >>= f : Step β).Stops c next P := by
  refine Unstopped.stops_bind (ensures_get.mpr fun _ hmem => absurd hmem List.not_mem_nil) ?_
  exact ensures_get.mpr hf

/-- Neither is a change of the controller. -/
theorem stops_modify_bind {change : Controller → Controller} {f : PUnit → Step β}
    (hf : (f ⟨⟩).Stops (change c) next P) : (modify change >>= f : Step β).Stops c next P := by
  refine Unstopped.stops_bind (ensures_modify.mpr fun _ hmem => absurd hmem List.not_mem_nil) ?_
  exact ensures_modify.mpr hf

/-- Neither are notes. -/
theorem stops_logged_bind {x : Logged α} (hf : (f x.value).Stops c next P) :
    ((liftM x : Step α) >>= f : Step β).Stops c next P := by
  refine Unstopped.stops_bind (ensures_logged.mpr fun _ hmem => absurd hmem List.not_mem_nil) ?_
  exact ensures_logged.mpr hf

end Step

end FieldCounter
