import CallCheck.Check
import CallCheck.Extract
import CallCheck.Handle

/-!
# Checked calls

A checked call returns what the function returns, unless a rule that applies to the call is
violated: then it fails with one failure for each such rule, in the order of declaration.
-/

namespace CallCheck

def encodeOrNull {α : Type} (codec : Codec α) (a : α) : Run Json := do
  match codec.encode a with
  | .ok v => return v
  | .error reason =>
    Run.log .debug "Value not representable as JSON, extracting from null" [("error", reason)]
    return .null

/-- The first failure of every rule that applies and has one. The name is that of the handle. -/
def violations (name : String) (m : Metadata) : List Rule → Run (List Failure)
  | [] => return []
  | r :: rest => do
    if r.applies m then
      Run.log .debug "Applying rule" [("handle", name), ("rule", r.condition.words),
        ("predicates", toString r.predicates.length)]
      match ← Run.tell (Predicate.firstFailure? m r.predicates) with
      | some f =>
        Run.log .debug "Rule failed" [("handle", name), ("assertion", f.assertion)]
        return f :: (← violations name m rest)
      | none => violations name m rest
    else
      violations name m rest

namespace Handle

variable {ι ο : Type}

/-- Calls the function and checks the call against the rules; also gives the metadata they saw. -/
def checkedCall (h : Handle ι ο) (input : ι) : Run (Except Fault (ο × Metadata)) := do
  let argument ← encodeOrNull h.input input
  let start ← Run.clock
  match ← h.call input with
  | .error fault => return .error fault
  | .ok output =>
    let elapsed := (← Run.clock) - start
    let result ← encodeOrNull h.output output
    let m := Extract.metadata [argument] result elapsed
    match ← violations h.name m h.rules with
    | [] => return .ok (output, m)
    | fs => return .error (.assertions fs)

/-- A checked call for its output alone. -/
def plainCall (h : Handle ι ο) (input : ι) : Run (Except Fault ο) := do
  return (← h.checkedCall input).map (·.1)

end Handle
end CallCheck
