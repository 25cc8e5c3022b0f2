/-!
# Results of suites

How many inputs of a suite passed and failed, with one line for each failed input or for an error
that stopped the suite.
-/

namespace CallCheck

/-- The result of one suite. The duration is in nanoseconds. -/
structure SuiteResult where
  name : String
  passed : Nat
  failed : Nat
  failures : List String
  duration : Nat
  deriving DecidableEq, Inhabited

namespace SuiteResult

def empty (name : String) : SuiteResult := ⟨name, 0, 0, [], 0⟩

def isSuccess (r : SuiteResult) : Bool := r.failed == 0

def pass (r : SuiteResult) : SuiteResult := { r with passed := r.passed + 1 }

def fail (r : SuiteResult) (line : String) : SuiteResult :=
  { r with failed := r.failed + 1, failures := r.failures ++ [line] }

def millis (r : SuiteResult) : Nat := r.duration / 1000000

/-- How many inputs passed in several suites. -/
def totalPassed (rs : List SuiteResult) : Nat := rs.foldl (· + ·.passed) 0

def totalFailed (rs : List SuiteResult) : Nat := rs.foldl (· + ·.failed) 0

end SuiteResult
end CallCheck
