import CallCheck.Target

/-!
# Registries

Targets registered in code, grouped into suites. Suites are in the order of their first use and keep
every target added to them; looked up by name, the latest target counts.
-/

namespace CallCheck

/-- Targets grouped into suites, and those added last in front. -/
structure Registry where
  suites : List (String × List Target)
  latest : List Target

namespace Registry

def empty : Registry := ⟨[], []⟩

/-- Adds a target to a suite, which comes last if it is new. -/
def extend (suite : String) (t : Target) : List (String × List Target) → List (String × List Target)
  | [] => [(suite, [t])]
  | (name, ts) :: rest =>
    if name = suite then (name, ts ++ [t]) :: rest else (name, ts) :: extend suite t rest

def target? (r : Registry) (name : String) : Option Target := r.latest.find? (·.name == name)

def insert (r : Registry) (suite : String) (t : Target) : Registry :=
  ⟨extend suite t r.suites, t :: r.latest⟩

/-- Adds a target to a suite, and warns when its name is taken. -/
def add (r : Registry) (suite : String) (t : Target) : Run Registry := do
  if (r.target? t.name).isSome then
    Run.log .warn "Handle name registered twice, lookup uses the latest" [("name", t.name)]
  return r.insert suite t

/-- Puts a name into a sorted list of different names. -/
def insertName (name : String) : List String → List String
  | [] => [name]
  | n :: rest =>
    if name < n then name :: n :: rest
    else if name = n then n :: rest
    else n :: insertName name rest

/-- The names of the targets, sorted. -/
def names (r : Registry) : List String :=
  r.latest.foldl (fun sorted t => insertName t.name sorted) []

def isEmpty (r : Registry) : Bool := r.suites.isEmpty

end Registry
end CallCheck
