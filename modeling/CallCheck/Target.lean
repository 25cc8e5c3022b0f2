import CallCheck.Handle

/-!
# Targets

What a run needs to know of a handle, whatever the types of its function: its name, its rules and
cases, and how to validate and probe an input given as JSON.
-/

namespace CallCheck

/-- Something that can be probed with inputs given as JSON. -/
structure Target where
  name : String
  rules : List Rule
  cases : List Case
  validate : Json → Run (Except SchemaFault Unit)
  probe : Json → Run (Except Fault Json)

namespace Handle

variable {ι ο : Type}

/-- Calls the function with an input given as JSON and writes its output as JSON. -/
def probe (h : Handle ι ο) (input : Json) : Run (Except Fault Json) := do
  match h.input.decode input with
  | .error reason =>
    return .error (.invalidInput
      ("cannot convert " ++ input.compact ++ " for '" ++ h.name ++ "': " ++ reason))
  | .ok typed =>
    match ← h.call typed with
    | .error fault => return .error fault
    | .ok output =>
      match h.output.encode output with
      | .ok v => return .ok v
      | .error reason =>
        return .error (.function (.plain ("result is not serializable: " ++ reason)))

def target (h : Handle ι ο) : Target :=
  ⟨h.name, h.rules, h.cases, h.schema.consult, h.probe⟩

end Handle
end CallCheck
