import FieldCounter.Device

/-!
# Device programs

A device program is a computation that calls devices: it is finished, or it makes a call and goes on
with the answer, or it writes a note. As data it leaves the answers open. An environment settles
them: a simulated world, a bench with scripted devices, or, in a law, any devices whatever. What a
program can do under arbitrary answers is the set of its paths, the lists of calls with the answers
they got.
-/

namespace FieldCounter

/-- A computation that calls devices. -/
inductive Program (α : Type) : Type where
  | done (a : α)
  | ask (call : Call) (next : call.Answer → Program α)
  | log (note : Note) (rest : Program α)

namespace Program

variable {α β γ : Type}

/-- One program after the other. -/
def andThen : Program α → (α → Program β) → Program β
  | .done a, f => f a
  | .ask call next, f => .ask call fun answer => (next answer).andThen f
  | .log note rest, f => .log note (rest.andThen f)

instance : Monad Program where
  pure := .done
  bind := andThen

/-- A value on its own is a finished program. -/
@[simp] theorem pure_eq_done (a : α) : (pure a : Program α) = .done a := rfl

/-- A finished program goes on with its value. -/
@[simp] theorem done_bind (a : α) (f : α → Program β) : (.done a >>= f : Program β) = f a := rfl

/-- What follows a question follows each of its answers. -/
@[simp] theorem ask_bind (call : Call) (next : call.Answer → Program α) (f : α → Program β) :
    (.ask call next >>= f : Program β) = .ask call fun answer => next answer >>= f := rfl

/-- What follows a note follows what comes after it. -/
@[simp] theorem log_bind (note : Note) (rest : Program α) (f : α → Program β) :
    (.log note rest >>= f : Program β) = .log note (rest >>= f) := rfl

/-- To end with the value of a program changes nothing about it. -/
theorem bind_done (x : Program α) : (x >>= .done : Program α) = x := by
  induction x with
  | done a => rfl
  | ask call next ih => simp only [ask_bind, ih]
  | log note rest ih => simp only [log_bind, ih]

/-- It does not matter how the parts of a program are bracketed. -/
theorem bind_assoc (x : Program α) (f : α → Program β) (g : β → Program γ) :
    x >>= f >>= g = x >>= fun a => f a >>= g := by
  induction x with
  | done a => rfl
  | ask call next ih => simp only [ask_bind, ih]
  | log note rest ih => simp only [log_bind, ih]

instance : LawfulMonad Program :=
  LawfulMonad.mk' Program (fun x => bind_done x) (fun _ _ => rfl) bind_assoc

/-- Write the notes and go on with the value. -/
def ofLogged (x : Logged α) : Program α := x.notes.foldr .log (.done x.value)

instance : MonadLift Logged Program where
  monadLift := ofLogged

end Program

/-- Make one call. -/
def call (c : Call) : Program c.Answer := .ask c .done

/-- How the devices answer, and where notes go, over a state of their own. -/
structure Environment (σ : Type) where
  answer : (call : Call) → σ → call.Answer × σ
  log : Note → σ → σ

/-- Run a program in an environment. -/
def Program.run {σ α : Type} (env : Environment σ) : Program α → σ → α × σ
  | .done a, world => (a, world)
  | .ask call next, world =>
    let (answer, world) := env.answer call world
    (next answer).run env world
  | .log note rest, world => rest.run env (env.log note world)

/-- One call and the answer it got. -/
structure Exchange where
  call : Call
  answer : call.Answer

/-- The program can make the listed calls, get the listed answers and end with the value. -/
inductive Program.Path {α : Type} : Program α → List Exchange → α → Prop where
  | done (a : α) : Path (.done a) [] a
  | ask {call : Call} {next : call.Answer → Program α} {answer : call.Answer} {rest : List Exchange} {a : α} :
      Path (next answer) rest a → Path (.ask call next) (⟨call, answer⟩ :: rest) a
  | log {note : Note} {rest : Program α} {trace : List Exchange} {a : α} :
      Path rest trace a → Path (.log note rest) trace a

namespace Program

variable {α β : Type}

/-- A path of two programs in sequence is a path of the first followed by one of the second. -/
theorem path_bind_iff {x : Program α} {f : α → Program β} {trace : List Exchange} {b : β} :
    Path (x >>= f) trace b ↔
      ∃ a before after, Path x before a ∧ Path (f a) after b ∧ trace = before ++ after := by
  induction x generalizing trace with
  | done a =>
    constructor
    · intro h
      exact ⟨a, [], trace, .done a, h, rfl⟩
    · rintro ⟨_, _, after, ⟨_⟩, hf, rfl⟩
      exact hf
  | ask call next ih =>
    constructor
    · intro h
      rw [ask_bind] at h
      cases h with
      | ask h =>
        obtain ⟨a, before, after, hx, hf, rfl⟩ := (ih _).mp h
        exact ⟨a, _, after, .ask hx, hf, rfl⟩
    · rintro ⟨a, _, after, hx, hf, rfl⟩
      cases hx with
      | ask hx => exact .ask ((ih _).mpr ⟨a, _, after, hx, hf, rfl⟩)
  | log note rest ih =>
    constructor
    · intro h
      rw [log_bind] at h
      cases h with
      | log h =>
        obtain ⟨a, before, after, hx, hf, rfl⟩ := ih.mp h
        exact ⟨a, before, after, .log hx, hf, rfl⟩
    · rintro ⟨a, _, after, hx, hf, rfl⟩
      cases hx with
      | log hx => exact .log (ih.mpr ⟨a, _, after, hx, hf, rfl⟩)

end Program

end FieldCounter
