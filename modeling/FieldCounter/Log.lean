/-!
# Notes for the log

An operation that has something to say returns its value together with the notes it wrote, in
order. `Logged` is that pair as a monad; laws about an operation speak of its `value` only, and
the lemmas below push `value` through a sequence of such operations.
-/

namespace FieldCounter

/-- How serious a note is, the most serious first. -/
inductive Level where
  | error
  | warn
  | info
  | debug
deriving DecidableEq, Repr

/-- The levels, the most serious first. -/
def Level.all : List Level := [.error, .warn, .info, .debug]

/-- The name of the level. -/
def Level.name : Level → String
  | .error => "error"
  | .warn => "warn"
  | .info => "info"
  | .debug => "debug"

/-- The level with the given name. -/
def Level.ofName? (name : String) : Option Level := Level.all.find? (·.name == name)

/-- Position in the order of seriousness, zero being the most serious. -/
def Level.rank : Level → Nat
  | .error => 0
  | .warn => 1
  | .info => 2
  | .debug => 3

/-- The level as written in front of a log line. -/
def Level.label : Level → String
  | .error => "ERROR"
  | .warn => "WARN"
  | .info => "INFO"
  | .debug => "DEBUG"

/-- A log kept down to `limit` shows notes of `level`. -/
def Level.shows (limit level : Level) : Bool := level.rank ≤ limit.rank

/-- The part of the device that a note is about. -/
inductive Topic where
  | alert
  | config
  | control
  | counting
  | radio
  | recovery
  | sensor
  | sleep
  | status
  | storage
  | simulator
deriving DecidableEq, Repr

/-- Every topic. -/
def Topic.all : List Topic :=
  [.alert, .config, .control, .counting, .radio, .recovery, .sensor, .sleep, .status, .storage, .simulator]

/-- The name of the topic. -/
def Topic.name : Topic → String
  | .alert => "alert"
  | .config => "config"
  | .control => "control"
  | .counting => "counting"
  | .radio => "radio"
  | .recovery => "recovery"
  | .sensor => "sensor"
  | .sleep => "sleep"
  | .status => "status"
  | .storage => "storage"
  | .simulator => "simulator"

/-- One line for the log. -/
structure Note where
  level : Level
  topic : Topic
  text : String
deriving DecidableEq, Repr

/-- The note as one log line, its level in front. -/
def Note.line (note : Note) : String := note.level.label ++ ":" ++ note.text

/-- A value together with the notes written on the way to it, the earliest first. -/
structure Logged (α : Type) where
  value : α
  notes : List Note
deriving Repr

namespace Logged

instance : Monad Logged where
  pure a := ⟨a, []⟩
  bind x f :=
    let y := f x.value
    ⟨y.value, x.notes ++ y.notes⟩

/-- A value on its own brings no note along. -/
@[simp] theorem value_pure {α : Type} (a : α) : (pure a : Logged α).value = a := rfl

/-- What follows depends on the value alone, not on the notes. -/
@[simp] theorem value_bind {α β : Type} (x : Logged α) (f : α → Logged β) :
    (x >>= f).value = (f x.value).value := rfl

instance : LawfulMonad Logged :=
  LawfulMonad.mk' Logged
    (fun x => by simp [Functor.map])
    (fun a f => by simp [bind, pure])
    (fun x f g => by simp [bind, List.append_assoc])

/-- A function applied to the value leaves the notes alone. -/
@[simp] theorem value_map {α β : Type} (f : α → β) (x : Logged α) : (f <$> x).value = f x.value := rfl

end Logged

/-- Write one note. -/
def note (level : Level) (topic : Topic) (text : String) : Logged Unit := ⟨(), [⟨level, topic, text⟩]⟩

/-- A note has no value. -/
@[simp] theorem value_note (level : Level) (topic : Topic) (text : String) :
    (note level topic text).value = () := rfl

end FieldCounter
