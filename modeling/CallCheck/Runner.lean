import CallCheck.Check
import CallCheck.Discovery
import CallCheck.Extract
import CallCheck.RuleFile.Reader
import CallCheck.SuiteResult

/-!
# Running suites

Every declared input of a target, or the default input if there is none, is sent to its function,
and the response is checked: first the rules for every input, then on demand the rules for the texts
it contains, then the first case declared for it. A suite that cannot be loaded or compiled has one
failure and no probes.
-/

namespace CallCheck
namespace Runner

/-- The sequences of predicates checked for one probe. -/
def sequences (rules : List Rule) (cases : List Case) (m : Metadata) (withSubstrings : Bool) :
    List (List Predicate) :=
  let always := rules.filter (·.condition.isAlways)
  let containing :=
    if withSubstrings then rules.filter fun r => r.condition.isContaining && r.applies m else []
  let declared := cases.find? (·.isFor m.rawInput)
  always.map Rule.predicates ++ containing.map Rule.predicates ++
    declared.toList.map Case.predicates

def faultLine (context : String) (f : Fault) : String :=
  context ++ (if f.isInternal then ": internal error: " else ": error: ") ++ f.message

/-- Probes a target with one input; the line says what failed. -/
def probeInput (c : Config) (t : Target) (rules : List Rule) (cases : List Case) (input : Json) :
    Run (Option String) := do
  let label := t.name ++ "(" ++ input.display ++ ")"
  Run.log .debug "Probing" [("probe", label), ("timeout_ms", toString c.timeoutMillis)]
  match ← Run.probing c.quietProbes (t.probe input) with
  | .error fault => return some (faultLine label fault)
  | .ok raw =>
    let m := Metadata.uninstrumented input (Extract.response raw)
    let sequences := sequences rules cases m c.probeSubstringRules
    match ← Run.tell (Predicate.failures m sequences) with
    | [] => return none
    | fs => return some (label ++ ": " ++ "; ".intercalate (fs.map Failure.message))

/-- The result with the outcome of one more input. -/
def count (r : SuiteResult) : Option String → SuiteResult
  | none => r.pass
  | some line => r.fail line

def probeInputs (c : Config) (t : Target) (rules : List Rule) (cases : List Case) :
    List Json → SuiteResult → Run SuiteResult
  | [], r => return r
  | input :: rest, r => do
    let line ← probeInput c t rules cases input
    probeInputs c t rules cases rest (count r line)

/-- The inputs a target is probed with. -/
def inputs (c : Config) (cases : List Case) : List Json :=
  if cases.isEmpty then [c.defaultInput] else cases.map Case.input

/-- Probes a target with each declared input, or with the default input. -/
def probeTarget (c : Config) (t : Target) (rules : List Rule) (cases : List Case)
    (r : SuiteResult) : Run SuiteResult :=
  probeInputs c t rules cases (inputs c cases) r

def probeTargets (c : Config) : List Target → SuiteResult → Run SuiteResult
  | [], r => return r
  | t :: rest, r => do
    let r ← probeTarget c t t.rules t.cases r
    probeTargets c rest r

/-- Finds the target of a rule file and compiles the file against it. -/
def compileFile (registry : Registry) (f : RuleFile) :
    Run (Except Fault (Target × RuleFile.Compiled)) := do
  match registry.target? f.target with
  | none => return .error (.unknownTarget f.target)
  | some t => return (← (f.compile t).run).map (t, ·)

def runSource (d : File.Disk) (registry : Registry) (c : Config) (s : Suite) : Run SuiteResult := do
  match s.source with
  | .registered ts => probeTargets c ts (.empty s.name)
  | .file path =>
    match RuleFile.load d path with
    | .error fault => return (SuiteResult.empty s.name).fail (faultLine s.name fault)
    | .ok file =>
      let r := SuiteResult.empty (file.suiteName path)
      match ← compileFile registry file with
      | .error fault => return r.fail (faultLine file.target fault)
      | .ok (t, compiled) => probeTarget c t compiled.rules compiled.cases r

/-- Runs a suite, measuring its time and logging its start and its end. -/
def runSuite (d : File.Disk) (registry : Registry) (c : Config) (s : Suite) : Run SuiteResult := do
  let start ← Run.clock
  Run.log .info "Running suite" [("suite", s.name)]
  let r ← runSource d registry c s
  let r := { r with duration := (← Run.clock) - start }
  Run.log .info "Suite finished" [("suite", r.name), ("passed", toString r.passed),
    ("failed", toString r.failed), ("duration_ms", toString r.millis)]
  return r

def run (d : File.Disk) (registry : Registry) (c : Config) (suites : List Suite) :
    Run (List SuiteResult) :=
  suites.mapM (runSuite d registry c)

end Runner
end CallCheck
