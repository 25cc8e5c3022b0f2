import CallCheck.Failure
import CallCheck.File.Fault
import CallCheck.Yaml.Reading

/-!
# Faults

Everything that a checked call, a probe or a rule file can fail with. Some faults are internal: they
say that declarations and code do not fit together, not that a function misbehaves.
-/

namespace CallCheck

/-- Why a declared input is refused, or a schema is none. -/
inductive SchemaFault where
  | invalid (errors : List String)
  | compile (reason : String)
  | serialize (reason : String)
  deriving DecidableEq, Inhabited

def SchemaFault.message : SchemaFault → String
  | .invalid errors => "Input failed schema validation: " ++ "; ".intercalate errors
  | .compile reason => "Failed to compile input schema: " ++ reason
  | .serialize reason => "Failed to serialize input: " ++ reason

/-- Why a call, a probe or a rule file fails. -/
inductive Fault where
  | assertions (failures : List Failure)
  | schema (fault : SchemaFault)
  | unknownPredicate (name : String)
  | invalidArgument (name reason : String)
  | unknownTarget (name : String)
  | invalidInput (reason : String)
  | function (error : Raised)
  | file (fault : File.Fault)
  | yaml (fault : Yaml.Fault)
  deriving Inhabited

namespace Fault

def message : Fault → String
  | .assertions failures => "; ".intercalate (failures.map Failure.message)
  | .schema fault => fault.message
  | .unknownPredicate name => "Unknown predicate: '" ++ name ++ "'"
  | .invalidArgument name reason =>
    "Invalid argument for predicate '" ++ name ++ "': " ++ reason
  | .unknownTarget name =>
    "Unknown target: '" ++ name ++ "'. No handle with that name is registered"
  | .invalidInput reason => "Invalid input: " ++ reason
  | .function error => error.text
  | .file fault => "IO error: " ++ fault.message
  | .yaml fault => "YAML parse error: " ++ fault.words

/-- Whether declarations and code do not fit together. -/
def isInternal : Fault → Bool
  | .unknownPredicate _ | .invalidArgument .. | .unknownTarget _ => true
  | _ => false

/-- The violated predicates among the causes. -/
def failures : Fault → List Failure
  | .assertions fs => fs
  | _ => []

end Fault
end CallCheck
