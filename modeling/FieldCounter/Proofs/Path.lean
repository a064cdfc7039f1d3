import FieldCounter.Device.Program

/-!
# What a program ensures

A program ensures a property when it holds of the calls and the value of every path, that is under
all answers of the devices. The rules here take a program apart along its construction, so a law
about a long program is put together from laws about its pieces; none of them looks at the notes.
-/

namespace FieldCounter

namespace Program

variable {α β γ : Type}

/-! ## The paths of the basic programs -/

/-- A finished program makes no calls. -/
theorem path_done_iff {a b : α} {trace : List Exchange} :
    Path (.done a) trace b ↔ trace = [] ∧ b = a := by
  constructor
  · intro h
    cases h
    exact ⟨rfl, rfl⟩
  · rintro ⟨rfl, rfl⟩
    exact .done _

/-- A program that asks first makes its call, and goes on with the answer. -/
theorem path_ask_iff {call : Call} {next : call.Answer → Program α} {trace : List Exchange} {a : α} :
    Path (.ask call next) trace a ↔
      ∃ answer rest, trace = ⟨call, answer⟩ :: rest ∧ Path (next answer) rest a := by
  constructor
  · intro h
    cases h with
    | ask h => exact ⟨_, _, rfl, h⟩
  · rintro ⟨answer, rest, rfl, h⟩
    exact .ask h

/-- A note leaves the paths as they are. -/
theorem path_log_iff {note : Note} {rest : Program α} {trace : List Exchange} {a : α} :
    Path (.log note rest) trace a ↔ Path rest trace a := by
  constructor
  · intro h
    cases h with
    | log h => exact h
  · exact .log

/-- Notes alone lead to their value without a call. -/
theorem path_ofLogged_iff {x : Logged α} {trace : List Exchange} {a : α} :
    Path (ofLogged x) trace a ↔ trace = [] ∧ a = x.value := by
  obtain ⟨value, notes⟩ := x
  induction notes with
  | nil => exact path_done_iff
  | cons note notes ih => exact path_log_iff.trans ih

/-- The answers alone decide how far a program goes and what it comes to. -/
theorem Path.unique {x : Program α} {trace other : List Exchange} {a b : α} (h : Path x trace a)
    (hother : Path x other b) {rest more : List Exchange} (heq : trace ++ rest = other ++ more) :
    trace = other ∧ a = b ∧ rest = more := by
  induction h generalizing other with
  | done a =>
    obtain ⟨rfl, rfl⟩ := path_done_iff.mp hother
    exact ⟨rfl, rfl, heq⟩
  | ask _ ih =>
    obtain ⟨answer, later, rfl, hlater⟩ := path_ask_iff.mp hother
    obtain ⟨hexchange, hrest⟩ := List.cons.inj heq
    cases hexchange
    obtain ⟨rfl, hsame, hmore⟩ := ih hlater hrest
    exact ⟨rfl, hsame, hmore⟩
  | log _ ih => exact ih (path_log_iff.mp hother) heq

/-- What the program comes to along the calls, if they are its calls, and the calls that are left over. -/
def along : Program α → List Exchange → Option (α × List Exchange)
  | .done a, calls => some (a, calls)
  | .ask call next, ⟨asked, answer⟩ :: rest => if h : asked = call then (next (h ▸ answer)).along rest else none
  | .ask _ _, [] => none
  | .log _ rest, calls => rest.along calls

/-- Along its own calls a program comes to its own value, and leaves what follows. -/
theorem Path.along {x : Program α} {trace : List Exchange} {a : α} (h : Path x trace a) (rest : List Exchange) :
    x.along (trace ++ rest) = some (a, rest) := by
  induction h with
  | done a => rfl
  | ask _ ih =>
    rw [List.cons_append, Program.along, dif_pos rfl]
    exact ih
  | log _ ih => exact ih

/-! ## Properties of all paths -/

/-- Every path of the program has the property. -/
def Ensures (x : Program α) (property : List Exchange → α → Prop) : Prop :=
  ∀ ⦃trace a⦄, Path x trace a → property trace a

variable {P : List Exchange → α → Prop}

/-- A weaker property is ensured as well. -/
theorem Ensures.mono {Q : List Exchange → α → Prop} {x : Program α} (hx : x.Ensures P)
    (h : ∀ trace a, P trace a → Q trace a) : x.Ensures Q :=
  fun _ _ hpath => h _ _ (hx hpath)

/-- A finished program ensures what holds of its value and no calls. -/
theorem ensures_done {a : α} : Ensures (.done a) P ↔ P [] a := by
  constructor
  · intro h
    exact h (.done a)
  · intro h trace b hpath
    obtain ⟨rfl, rfl⟩ := path_done_iff.mp hpath
    exact h

/-- A value on its own ensures what holds of it and no calls. -/
theorem ensures_pure {a : α} : (pure a : Program α).Ensures P ↔ P [] a := ensures_done

/-- What follows is seen after every path of what comes first. -/
theorem ensures_bind {x : Program α} {f : α → Program β} {P : List Exchange → β → Prop} :
    (x >>= f).Ensures P ↔
      x.Ensures fun before a => (f a).Ensures fun after b => P (before ++ after) b := by
  constructor
  · intro h before a hx after b hf
    exact h (path_bind_iff.mpr ⟨a, before, after, hx, hf, rfl⟩)
  · intro h trace b hpath
    obtain ⟨a, before, after, hx, hf, rfl⟩ := path_bind_iff.mp hpath
    exact h hx hf

/-- A call gets any answer. -/
theorem ensures_call {c : Call} {P : List Exchange → c.Answer → Prop} :
    (call c).Ensures P ↔ ∀ answer, P [⟨c, answer⟩] answer := by
  constructor
  · intro h answer
    exact h (.ask (.done answer))
  · intro h trace answer hpath
    obtain ⟨_, _, rfl, hdone⟩ := path_ask_iff.mp hpath
    obtain ⟨rfl, rfl⟩ := path_done_iff.mp hdone
    exact h _

/-- Notes ensure what holds of their value and no calls. -/
theorem ensures_logged {x : Logged α} : (liftM x : Program α).Ensures P ↔ P [] x.value := by
  constructor
  · intro h
    exact h (path_ofLogged_iff.mpr ⟨rfl, rfl⟩)
  · intro h trace a hpath
    obtain ⟨rfl, rfl⟩ := path_ofLogged_iff.mp hpath
    exact h

/-- Writing notes first makes no difference. -/
theorem ensures_logged_bind {x : Logged α} {f : α → Program β} {P : List Exchange → β → Prop} :
    ((liftM x : Program α) >>= f).Ensures P ↔ (f x.value).Ensures P := by
  rw [ensures_bind, ensures_logged]
  simp only [List.nil_append]

/-- A function applied to the value is seen after the calls. -/
theorem ensures_map {x : Program α} {f : α → β} {P : List Exchange → β → Prop} :
    (f <$> x).Ensures P ↔ x.Ensures fun trace a => P trace (f a) := by
  rw [map_eq_pure_bind, ensures_bind]
  simp only [ensures_pure, List.append_nil]

/-- A choice ensures what each side does on its condition. -/
theorem ensures_ite {p : Prop} [Decidable p] {x y : Program α} :
    (if p then x else y).Ensures P ↔ (p → x.Ensures P) ∧ (¬p → y.Ensures P) := by
  by_cases hp : p <;> simp [hp]

/-- The second condition is only looked at where the first one holds. -/
theorem ensures_and {x y : Program Bool} {P : List Exchange → Bool → Prop} :
    (x <&&> y).Ensures P ↔
      x.Ensures fun before first =>
        if first then y.Ensures fun after second => P (before ++ after) second else P before false := by
  unfold andM
  rw [ensures_bind]
  constructor <;> intro h
  all_goals
    refine h.mono ?_
    intro before first hfirst
    cases first
    · simpa [toBool, ensures_done] using hfirst
    · exact hfirst

/-- The second condition is only looked at where the first one does not hold. -/
theorem ensures_or {x y : Program Bool} {P : List Exchange → Bool → Prop} :
    (x <||> y).Ensures P ↔
      x.Ensures fun before first =>
        if first then P before true else y.Ensures fun after second => P (before ++ after) second := by
  unfold orM
  rw [ensures_bind]
  constructor <;> intro h
  all_goals
    refine h.mono ?_
    intro before first hfirst
    cases first
    · exact hfirst
    · simpa [toBool, ensures_done] using hfirst

/-! ## The calls of a program -/

/-- Every call of the program is one of the allowed ones. -/
def Calls (x : Program α) (allowed : Call → Prop) : Prop :=
  x.Ensures fun trace _ => ∀ exchange ∈ trace, allowed exchange.call

variable {allowed : Call → Prop}

/-- A value on its own makes no calls. -/
theorem Calls.pure (a : α) : Calls (pure a) allowed :=
  ensures_pure.mpr fun _ h => absurd h List.not_mem_nil

/-- A program in two parts makes the calls of both. -/
theorem Calls.bind {x : Program α} {f : α → Program β} (hx : x.Calls allowed)
    (hf : ∀ a, (f a).Calls allowed) : (x >>= f).Calls allowed := by
  refine ensures_bind.mpr fun before a hbefore after b hafter exchange hmem => ?_
  rcases List.mem_append.mp hmem with h | h
  · exact hx hbefore exchange h
  · exact hf a hafter exchange h

/-- A single call is the only one made. -/
theorem Calls.call {c : Call} (hc : allowed c) : (call c).Calls allowed := by
  refine ensures_call.mpr fun answer exchange hmem => ?_
  rw [List.mem_singleton.mp hmem]
  exact hc

/-- Notes make no calls. -/
theorem Calls.logged (x : Logged α) : (liftM x : Program α).Calls allowed :=
  ensures_logged.mpr fun _ h => absurd h List.not_mem_nil

/-- A choice makes the calls of one of its sides. -/
theorem Calls.ite {p : Prop} [Decidable p] {x y : Program α} (hx : x.Calls allowed)
    (hy : y.Calls allowed) : (if p then x else y).Calls allowed :=
  ensures_ite.mpr ⟨fun _ => hx, fun _ => hy⟩

/-- A function applied to the value makes no calls. -/
theorem Calls.map {x : Program α} {f : α → β} (hx : x.Calls allowed) : (f <$> x).Calls allowed :=
  ensures_map.mpr hx

/-- A conjunction makes no calls but those of its conditions. -/
theorem Calls.and {x y : Program Bool} (hx : x.Calls allowed) (hy : y.Calls allowed) :
    (x <&&> y).Calls allowed := by
  refine Calls.bind hx fun first => ?_
  cases first
  · exact .pure _
  · exact hy

/-- A disjunction makes no calls but those of its conditions. -/
theorem Calls.or {x y : Program Bool} (hx : x.Calls allowed) (hy : y.Calls allowed) :
    (x <||> y).Calls allowed := by
  refine Calls.bind hx fun first => ?_
  cases first
  · exact hy
  · exact .pure _

end Program

end FieldCounter
