import CallCheck.Checked
import CallCheck.Registry
import CallCheck.Request
import CallCheck.Runner
import CallCheck.Stub.Basic

/-!
# Sessions

A session keeps handles of stubs by name and a registry that they may be added to. Rules are
declared on a handle until it is used for the first time: from then on it is shared, and a
declaration on it is refused. A step that is refused leaves the handles as they were.
-/

namespace CallCheck

inductive InputKind where
  | text
  | json
  | count
  | request
  deriving DecidableEq, Inhabited

namespace InputKind

abbrev Carrier : InputKind → Type
  | .text => String
  | .json => Json
  | .count => UInt32
  | .request => Request

def codec : (k : InputKind) → Codec k.Carrier
  | .text => .text
  | .json => Stub.codec
  | .count => .count
  | .request => Request.codec

end InputKind

/-- A handle of a stub, and whether it is in use. -/
structure Held where
  kind : InputKind
  handle : Handle kind.Carrier Json
  shared : Bool

/-- Handles by name and a registry, with the number of handles made so far. -/
structure Session where
  handles : List (String × Held)
  registry : Registry
  made : Nat

namespace Session

def empty : Session := ⟨[], .empty, 0⟩

inductive Refusal where
  | unknownHandle (name : String)
  | shared (name : String)
  | notAnInput (reason : String)
  | fault (fault : Fault)
  deriving Inhabited

abbrev Step := ExceptT Refusal (StateT Session Run)

/-- Does something that may fail with a fault. -/
def attempt {α : Type} (act : Run (Except Fault α)) : Step α := do
  match ← act with
  | .ok a => return a
  | .error fault => throw (.fault fault)

def attemptSchema {α : Type} (act : Run (Except SchemaFault α)) : Step α :=
  attempt do return (← act).mapError .schema

def held (name : String) : Step Held := do
  match (← get).handles.find? (·.1 == name) with
  | some (_, h) => return h
  | none => throw (.unknownHandle name)

/-- The handle of a name, which is not shared yet. -/
def editable (name : String) : Step Held := do
  let h ← held name
  if h.shared then throw (.shared name) else return h

/-- Holds a handle under a name, in place of one held there before. -/
def hold (name : String) (h : Held) : Step Unit :=
  modify fun s => { s with handles := (name, h) :: s.handles.filter (·.1 != name) }

/-- The handle of a name, which is shared from now on. -/
def share (name : String) : Step Held := do
  let h ← held name
  hold name { h with shared := true }
  return h

def register (name : String) (kind : InputKind) (stub : Stub) (schema : InputSchema) :
    Step Unit := do
  let number := (← get).made
  modify fun s => { s with made := s.made + 1 }
  hold name
    ⟨kind, .register name number (stub.subject kind.codec) kind.codec Stub.codec schema, false⟩

/-! ### Declaring -/

def readInput (h : Held) (v : Json) : Step h.kind.Carrier :=
  match h.kind.codec.decode v with
  | .ok input => return input
  | .error reason => throw (.notAnInput reason)

def forAll (name : String) (predicates : List Predicate) : Step Unit := do
  let h ← editable name
  hold name { h with handle := h.handle.forAll predicates }

def forInputContaining (name text : String) (predicates : List Predicate) : Step Unit := do
  let h ← editable name
  hold name { h with handle := h.handle.forInputContaining text predicates }

def forInput (name : String) (v : Json) (predicates : List Predicate) : Step Unit := do
  let h ← editable name
  let input ← readInput h v
  let declared ← attemptSchema (h.handle.forInput input predicates)
  hold name { h with handle := declared }

/-! ### Using -/

def addTarget (suite : String) (t : Target) : Step Unit := do
  let s ← get
  let registry ← s.registry.add suite t
  set { s with registry }

def add (name suite : String) : Step Unit := do
  let h ← share name
  addTarget suite h.handle.target

def call (name : String) (v : Json) : Step (Json × Metadata) := do
  let h ← share name
  let input ← readInput h v
  attempt (h.handle.checkedCall input)

def plainCall (name : String) (v : Json) : Step Json := do
  let h ← share name
  let input ← readInput h v
  attempt (h.handle.plainCall input)

def probe (name : String) (v : Json) : Step Json := do
  let h ← share name
  attempt (h.handle.probe v)

def validate (name : String) (v : Json) : Step Unit := do
  let h ← share name
  attemptSchema (h.handle.target.validate v)

/-- Probes a handle with rules and cases of another origin, as a suite. -/
def probeTarget (name suite : String) (c : Config) (rules : List Rule) (cases : List Case) :
    Step SuiteResult := do
  let h ← share name
  Runner.probeTarget c h.handle.target rules cases (.empty suite)

end Session
end CallCheck
