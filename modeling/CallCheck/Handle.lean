import CallCheck.Codec
import CallCheck.InputSchema
import CallCheck.Rule

/-!
# Handles

A handle is a named function with the rules and cases declared for it. Declarations only ever add at
the end. Declaring an exact input consults the schema once and adds both a rule and a case; when the
input is refused the handle stays as it was.
-/

namespace CallCheck

/-- What a call of a function comes to: how it ends, what it logs, and how long it takes in
nanoseconds. -/
structure Reply (ο : Type) where
  outcome : Outcome ο
  events : List LogEvent
  elapsed : Nat
  deriving Inhabited

/-- A function under check. Its reply may depend on how often it was called before. -/
abbrev Subject (ι ο : Type) := Nat → ι → Reply ο

/-- A named function with the rules and cases declared for it, in order. The number tells apart
functions of one name. -/
structure Handle (ι ο : Type) where
  name : String
  number : Nat
  subject : Subject ι ο
  input : Codec ι
  output : Codec ο
  schema : InputSchema
  rules : List Rule
  cases : List Case

namespace Handle

variable {ι ο : Type}

def register (name : String) (number : Nat) (subject : Subject ι ο) (input : Codec ι)
    (output : Codec ο) (schema : InputSchema) : Handle ι ο :=
  ⟨name, number, subject, input, output, schema, [], []⟩

def addRule (h : Handle ι ο) (r : Rule) : Handle ι ο := { h with rules := h.rules ++ [r] }

def forAll (h : Handle ι ο) (predicates : List Predicate) : Handle ι ο :=
  h.addRule ⟨.always, predicates⟩

def forInputContaining (h : Handle ι ο) (text : String) (predicates : List Predicate) :
    Handle ι ο :=
  h.addRule ⟨.containing text, predicates⟩

/-- Adds the rule and the case of an accepted input. -/
def addCase (h : Handle ι ο) (input : Json) (predicates : List Predicate) : Handle ι ο :=
  let h := h.addRule ⟨.exactly input, predicates⟩
  { h with cases := h.cases ++ [⟨input, predicates⟩] }

/-- Declares predicates for one input, if that can be written as JSON and satisfies the schema. -/
def forInput (h : Handle ι ο) (input : ι) (predicates : List Predicate) :
    Run (Except SchemaFault (Handle ι ο)) := do
  match h.input.encode input with
  | .error reason => return .error (.serialize reason)
  | .ok value =>
    match ← h.schema.consult value with
    | .error fault => return .error fault
    | .ok () => return .ok (h.addCase value predicates)

/-- Calls the function. A panic counts as an error of it. -/
def call (h : Handle ι ο) (input : ι) : Run (Except Fault ο) := do
  let reply := h.subject ((← get).callsOf h.number) input
  Run.record (.called h.number reply.elapsed)
  Run.tell ⟨(), reply.events⟩
  match reply.outcome with
  | .value output => return .ok output
  | .raised error => return .error (.function error)
  | .panicked payload =>
    return .error (.function (.plain ("function panicked: " ++ payload.words)))

end Handle
end CallCheck
