import FieldCounter.Proofs.Calls
import FieldCounter.Proofs.Script

/-!
# Programs that cannot be told apart

Two programs mirror each other when, whatever the devices answer, they make the same calls in the same order
and come to related results. Only the writing of the settings is left out: either program may write them where
the other one does not, and nothing that follows depends on whether they could be written. Programs that
mirror each other behave alike over devices whose answers depend on the calls that were made.
-/

namespace FieldCounter

/-- The call reads or writes the stored settings. -/
def Call.isOfConfig : Call → Bool
  | .readRecord .config | .writeRecord .config _ => true
  | _ => false

/-- The calls of the trace but for those about the stored settings. -/
def observed (trace : List Exchange) : List Exchange := trace.filter fun exchange => !exchange.call.isOfConfig

/-- What is observed is listed part by part. -/
theorem observed_append (first second : List Exchange) :
    observed (first ++ second) = observed first ++ observed second :=
  List.filter_append ..

/-- Devices that answer a call by all that they were asked and answered before. -/
abbrev Behaviour := List Exchange → (call : Call) → call.Answer

/-- The devices behave so throughout the trace, having behaved so in what went before. -/
def Behaviour.Answers (devices : Behaviour) : List Exchange → List Exchange → Prop
  | _, [] => True
  | earlier, exchange :: rest =>
    exchange.answer = devices earlier exchange.call ∧ devices.Answers (earlier ++ [exchange]) rest

/-- What is answered in two parts is answered as a whole. -/
theorem Behaviour.answers_append_iff {devices : Behaviour} {earlier first second : List Exchange} :
    devices.Answers earlier (first ++ second) ↔
      devices.Answers earlier first ∧ devices.Answers (earlier ++ first) second := by
  induction first generalizing earlier with
  | nil =>
    rw [List.append_nil, Behaviour.Answers, true_and, List.nil_append]
  | cons exchange first ih =>
    rw [List.cons_append, Behaviour.Answers, ih, Behaviour.Answers, and_assoc, List.append_assoc,
      List.singleton_append]

namespace Program

variable {α β γ δ : Type} {R : α → β → Prop} {S : γ → δ → Prop}

/-- The programs make the same calls under all answers and come to related results, but for the writing of the
settings. -/
inductive Mirrors (R : α → β → Prop) : Program α → Program β → Prop where
  | done {a : α} {b : β} : R a b → Mirrors R (.done a) (.done b)
  | ask {call : Call} {next : call.Answer → Program α} {other : call.Answer → Program β} :
      call.isOfConfig = false → (∀ answer, Mirrors R (next answer) (other answer)) →
      Mirrors R (.ask call next) (.ask call other)
  | logLeft {note : Note} {x : Program α} {y : Program β} : Mirrors R x y → Mirrors R (.log note x) y
  | logRight {note : Note} {x : Program α} {y : Program β} : Mirrors R x y → Mirrors R x (.log note y)
  | writeLeft {bytes : Bytes} {next : Except StorageError Unit → Program α} {y : Program β} :
      (∀ answer, Mirrors R (next answer) y) → Mirrors R (.ask (.writeRecord .config bytes) next) y
  | writeRight {bytes : Bytes} {x : Program α} {next : Except StorageError Unit → Program β} :
      (∀ answer, Mirrors R x (next answer)) → Mirrors R x (.ask (.writeRecord .config bytes) next)

namespace Mirrors

/-- Programs in sequence mirror each other where what follows related results does. -/
theorem bind {x : Program α} {y : Program β} {f : α → Program γ} {g : β → Program δ} (h : Mirrors R x y)
    (hnext : ∀ a b, R a b → Mirrors S (f a) (g b)) : Mirrors S (x >>= f) (y >>= g) := by
  induction h with
  | done hrelated => exact hnext _ _ hrelated
  | ask hcall _ ih => exact .ask hcall ih
  | logLeft _ ih => exact .logLeft ih
  | logRight _ ih => exact .logRight ih
  | writeLeft _ ih => exact .writeLeft ih
  | writeRight _ ih => exact .writeRight ih

/-- Functions applied to the results mirror each other where they relate them. -/
theorem map {x : Program α} {y : Program β} {f : α → γ} {g : β → δ} (h : Mirrors R x y)
    (hresult : ∀ a b, R a b → S (f a) (g b)) : Mirrors S (f <$> x) (g <$> y) := by
  rw [map_eq_pure_bind, map_eq_pure_bind]
  exact h.bind fun a b hab => .done (hresult a b hab)

/-- What one program mirrors mirrors it. -/
theorem symm {x : Program α} {y : Program β} (h : Mirrors R x y) : Mirrors (flip R) y x := by
  induction h with
  | done hrelated => exact .done hrelated
  | ask hcall _ ih => exact .ask hcall ih
  | logLeft _ ih => exact .logRight ih
  | logRight _ ih => exact .logLeft ih
  | writeLeft _ ih => exact .writeRight ih
  | writeRight _ ih => exact .writeLeft ih

/-- Whatever is written to the log first, nothing else depends on it. -/
theorem logged_left {x : Logged γ} {f : γ → Program α} {y : Program β} (h : Mirrors R (f x.value) y) :
    Mirrors R ((liftM x : Program γ) >>= f) y := by
  obtain ⟨value, notes⟩ := x
  induction notes with
  | nil => exact h
  | cons note notes ih => exact .logLeft (ih h)

/-- Notes on the other side make no difference, either. -/
theorem logged_right {x : Program α} {y : Logged δ} {g : δ → Program β} (h : Mirrors R x (g y.value)) :
    Mirrors R x ((liftM y : Program δ) >>= g) :=
  h.symm.logged_left.symm

/-- Two programs that begin by writing to the log mirror each other where what follows does. -/
theorem logged {x : Logged γ} {y : Logged δ} {f : γ → Program α} {g : δ → Program β}
    (h : Mirrors R (f x.value) (g y.value)) :
    Mirrors R ((liftM x : Program γ) >>= f) ((liftM y : Program δ) >>= g) :=
  .logged_left (.logged_right h)

/-- Two programs that begin with the same call mirror each other where they do so under every answer. -/
theorem call {call : Call} {f : call.Answer → Program α} {g : call.Answer → Program β}
    (hcall : call.isOfConfig = false) (h : ∀ answer, Mirrors R (f answer) (g answer)) :
    Mirrors R (FieldCounter.call call >>= f) (FieldCounter.call call >>= g) :=
  .ask hcall h

/-- Two programs that branch alike mirror each other where their branches do. -/
theorem ite {p : Prop} [Decidable p] {x x' : Program α} {y y' : Program β} (hx : Mirrors R x y)
    (hx' : Mirrors R x' y') : Mirrors R (if p then x else x') (if p then y else y') := by
  split
  · exact hx
  · exact hx'

/-- A program that leaves the stored settings alone mirrors itself. -/
theorem refl {x : Program α} (h : x.Calls (·.isOfConfig = false)) : Mirrors Eq x x := by
  induction x with
  | done a => exact .done rfl
  | ask call next ih =>
    have hany (answer : call.Answer) := (next answer).path_run (Devices.afterNoon 0 true).environment ()
    refine .ask (h (.ask (hany (Devices.afterNoon 0 true call))) ⟨call, _⟩ List.mem_cons_self) fun answer => ?_
    exact ih answer fun trace a hpath exchange hmem => h (.ask hpath) exchange (List.mem_cons_of_mem _ hmem)
  | log note rest ih => exact .logLeft (.logRight (ih fun trace a hpath => h (.log hpath)))

/-- Over the same devices, programs that mirror each other make the same calls, get the same answers and come to
related results. -/
theorem agree {x : Program α} {y : Program β} (h : Mirrors R x y) {devices : Behaviour}
    {earlier first second : List Exchange} {a : α} {b : β} (hx : Path x first a) (hy : Path y second b)
    (hfirst : devices.Answers earlier (observed first)) (hsecond : devices.Answers earlier (observed second)) :
    observed first = observed second ∧ R a b := by
  induction h generalizing earlier first second with
  | done hrelated =>
    cases hx
    cases hy
    exact ⟨rfl, hrelated⟩
  | @ask call next other hcall _ ih =>
    cases hx with
    | @ask _ _ answer rest _ hx =>
      cases hy with
      | @ask _ _ given others _ hy =>
        have hobserved (answer : call.Answer) (rest : List Exchange) :
            observed (⟨call, answer⟩ :: rest) = ⟨call, answer⟩ :: observed rest :=
          List.filter_cons_of_pos (by rw [hcall]; rfl)
        rw [hobserved] at hfirst hsecond
        obtain ⟨hanswer, hfirst⟩ := hfirst
        obtain ⟨hgiven, hsecond⟩ := hsecond
        -- the answer is the same because the devices have been asked the same so far
        obtain rfl : answer = given := hanswer.trans hgiven.symm
        obtain ⟨hsame, hrelated⟩ := ih answer hx hy hfirst hsecond
        rw [hobserved, hobserved, hsame]
        exact ⟨rfl, hrelated⟩
  | logLeft _ ih =>
    cases hx with
    | log hx => exact ih hx hy hfirst hsecond
  | logRight _ ih =>
    cases hy with
    | log hy => exact ih hx hy hfirst hsecond
  | writeLeft _ ih =>
    cases hx with
    | @ask _ _ answer rest _ hx =>
      change observed rest = observed second ∧ R a b
      exact ih answer hx hy hfirst hsecond
  | writeRight _ ih =>
    cases hy with
    | @ask _ _ answer rest _ hy =>
      change observed first = observed rest ∧ R a b
      exact ih answer hx hy hfirst hsecond

end Mirrors

end Program

end FieldCounter
