import CallCheck.Predicate.Basic

/-!
# Checking sequences of predicates

A sequence stops at its first failure; several sequences are checked one by one, whatever the others
do. However a check ends, what it says against the call is one `Failure`: the outermost failure
among the layers of an error, or else a failure of the predicate's own name.
-/

namespace CallCheck

/-- The failure that an outcome of the predicate `name` amounts to. -/
def Outcome.failure? (name : String) : Outcome Unit → Option Failure
  | .value () => none
  | .raised error => some (error.failure?.getD ⟨name, "Assertion failed: " ++ error.text⟩)
  | .panicked payload => some ⟨name, "Assertion failed: " ++ payload.words⟩

namespace Predicate

def failure? (p : Predicate) (m : Metadata) : Told (Option Failure) := do
  return (← p.check m).failure? p.name

/-- The first failure of a sequence; the predicates after it are not evaluated. -/
def firstFailure? (m : Metadata) : List Predicate → Told (Option Failure)
  | [] => pure none
  | p :: rest => do
    match ← p.failure? m with
    | some f => return some f
    | none => firstFailure? m rest

/-- The first failure of every sequence that has one, in order. -/
def failures (m : Metadata) : List (List Predicate) → Told (List Failure)
  | [] => pure []
  | sequence :: rest => do
    let f ← firstFailure? m sequence
    let fs ← failures m rest
    return f.toList ++ fs

end Predicate
end CallCheck
