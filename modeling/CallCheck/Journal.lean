import CallCheck.Json.Writer

/-!
# Journals

What code logs is told beside its value (`Told`). A run (`Run`) keeps a journal of what happened,
in order: events logged, functions called, checks of inputs consulted. A check given as code is asked
by `Run.ask` alone, which puts down what it told. An event remembers whether it was logged while a
function was probed, and `Run.probing` leaves such events out on demand. Calls and consultations
always stay in the journal, so a silenced run is the same run with fewer events.
-/

namespace CallCheck

inductive Level where
  | debug
  | info
  | warn
  deriving DecidableEq, Inhabited

/-- An event of the log: a message with named values. -/
structure LogEvent where
  level : Level
  message : String
  fields : List (String × String)
  deriving DecidableEq, Inhabited

/-- A value with the events logged on the way to it. -/
structure Told (α : Type) where
  value : α
  events : List LogEvent
  deriving Inhabited

namespace Told

instance : Monad Told where
  pure a := ⟨a, []⟩
  bind t f := ⟨(f t.value).value, t.events ++ (f t.value).events⟩

@[simp] theorem value_pure {α : Type} (a : α) : (pure a : Told α).value = a := rfl

@[simp] theorem events_pure {α : Type} (a : α) : (pure a : Told α).events = [] := rfl

@[simp] theorem value_bind {α β : Type} (t : Told α) (f : α → Told β) :
    (t >>= f).value = (f t.value).value := rfl

@[simp] theorem events_bind {α β : Type} (t : Told α) (f : α → Told β) :
    (t >>= f).events = t.events ++ (f t.value).events := rfl

end Told

/-- An entry of a journal. A call names the function by its number and has its duration in
nanoseconds. A consultation has the input that a check was asked about, and what the check told: what
it finds wrong, and its events. -/
inductive Entry where
  | logged (inProbe : Bool) (event : LogEvent)
  | called (function : Nat) (elapsed : Nat)
  | consulted (input : Json) (told : Told (List String))
  deriving Inhabited

namespace Entry

def event? : Entry → Option LogEvent
  | .logged _ e => some e
  | _ => none

def isCallOf (function : Nat) : Entry → Bool
  | .called f _ => f == function
  | _ => false

def elapsed : Entry → Nat
  | .called _ t => t
  | _ => 0

end Entry

/-- What happened, oldest first. -/
abbrev Journal := List Entry

namespace Journal

def events (j : Journal) : List LogEvent := j.filterMap Entry.event?

def callsOf (function : Nat) (j : Journal) : Nat := j.countP (·.isCallOf function)

/-- The time spent in functions, in nanoseconds. -/
def clock : Journal → Nat
  | [] => 0
  | e :: rest => e.elapsed + clock rest

end Journal

/-- A computation that keeps a journal. -/
abbrev Run := StateM Journal

namespace Run

def record (e : Entry) : Run Unit := modify (· ++ [e])

def log (level : Level) (message : String) (fields : List (String × String)) : Run Unit :=
  record (.logged false ⟨level, message, fields⟩)

/-- Takes a value and logs the events told beside it. -/
def tell {α : Type} (t : Told α) : Run α := do
  modify (· ++ t.events.map (.logged false))
  return t.value

/-- Asks a check given as code about an input. What it tells is put down, and then its events are
logged. -/
def ask (check : Json → Told (List String)) (input : Json) : Run (List String) := do
  let told := check input
  record (.consulted input told)
  tell told

def clock : Run Nat := return (← get).clock

/-- What an entry made in a probe becomes: its event is marked, or left out when `quiet`. -/
def inProbe (quiet : Bool) : Entry → Option Entry
  | .logged _ e => if quiet then none else some (.logged true e)
  | e => some e

/-- Runs the probe of a function, whose events are silenced when `quiet`. -/
def probing {α : Type} (quiet : Bool) (act : Run α) : Run α := do
  let before ← get
  let a ← act
  modify fun after => before ++ (after.drop before.length).filterMap (inProbe quiet)
  return a

end Run
end CallCheck
