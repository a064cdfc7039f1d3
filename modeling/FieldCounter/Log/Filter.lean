import FieldCounter.Log

/-!
# Log filters

A filter is a list of rules, each of which lets the notes of one scope through down to a level. Of
the rules whose scope contains a note the narrowest decides, and of several equally narrow ones the
last; a note in no scope is dropped.
-/

namespace FieldCounter

/-- A part of the log. -/
inductive LogScope where
  | everything
  /-- Everything but the notes of the simulator. -/
  | device
  | topic (topic : Topic)
deriving DecidableEq, Repr

namespace LogScope

/-- The scope contains the notes on a topic. -/
def contains : LogScope → Topic → Bool
  | .everything, _ => true
  | .device, about => about != .simulator
  | .topic wanted, about => wanted == about

/-- How narrow the scope is. -/
def narrowness : LogScope → Nat
  | .everything => 0
  | .device => 1
  | .topic _ => 2

/-- The scope with the given name. -/
def ofName? (name : String) : Option LogScope :=
  if name = "device" then some .device
  else (Topic.all.find? (·.name == name)).map .topic

end LogScope

/-- Let the notes of a scope through down to a level. -/
structure LogRule where
  scope : LogScope
  limit : Level
deriving DecidableEq, Repr

/-- The rule written as a level, as a scope, or as both with an equals sign between them. -/
def LogRule.ofText? (text : String) : Option LogRule :=
  match text.splitOn "=" with
  | [word] =>
    match Level.ofName? word with
    | some limit => some ⟨.everything, limit⟩
    | none => (LogScope.ofName? word).map fun scope => ⟨scope, .debug⟩
  | [scope, limit] => do
    let scope ← LogScope.ofName? scope
    let limit ← Level.ofName? limit
    return ⟨scope, limit⟩
  | _ => none

/-- Which notes are shown. -/
structure LogFilter where
  rules : List LogRule
deriving DecidableEq, Repr

namespace LogFilter

/-- The rules of a text, divided by commas; what is no rule is left out. -/
def ofText (text : String) : LogFilter := ⟨(text.splitOn ",").filterMap LogRule.ofText?⟩

/-- The last of the narrowest rules that speak of a topic. -/
def decisive (filter : LogFilter) (topic : Topic) : Option LogRule :=
  (filter.rules.filter (·.scope.contains topic)).foldl (fun best rule =>
    if best.all (·.scope.narrowness ≤ rule.scope.narrowness) then some rule else best) none

/-- The note is shown. -/
def keeps (filter : LogFilter) (note : Note) : Bool :=
  (filter.decisive note.topic).any (·.limit.shows note.level)

end LogFilter

end FieldCounter
