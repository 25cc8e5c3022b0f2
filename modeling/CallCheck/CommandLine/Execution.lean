import CallCheck.CommandLine.Arguments
import CallCheck.Config.File
import CallCheck.Report
import CallCheck.Runner

/-!
# Executing a command line

`CommandLine.execute` finds the configuration, finds the suites, and then lists them or runs them
and reports. A verdict tells how that ended: a configuration given by name that cannot be loaded and
a malformed glob are runner errors, finding no suite at all has a verdict of its own, and otherwise
the run failed if any input did.
-/

namespace CallCheck
namespace CommandLine

inductive Verdict where
  | passed
  | failed
  | runnerError
  | noSuites
  deriving DecidableEq, Inhabited

def Verdict.code : Verdict → Nat
  | .passed => 0
  | .failed => 1
  | .runnerError => 2
  | .noSuites => 3

def Verdict.ofResults (rs : List SuiteResult) : Verdict :=
  if SuiteResult.totalFailed rs = 0 then .passed else .failed

/-- An execution: its verdict, and the lines it prints as output and as errors. -/
structure Execution where
  verdict : Verdict
  output : List String
  errors : List String
  deriving DecidableEq, Inhabited

namespace Execution

def refused (reason : String) : Execution :=
  ⟨.runnerError, [], ["Error running tests: " ++ reason]⟩

def idle : Execution := ⟨.noSuites, ["No test files found."], []⟩

def listing (suites : List Suite) : Execution :=
  let entries := suites.map fun s => "  " ++ s.describe
  ⟨.passed, ["", "Discovered " ++ toString suites.length ++ " suite(s):", ""] ++ entries ++ [""], []⟩

/-- An execution that ran the suites. The time is in nanoseconds. -/
def report (style : Report.Style) (rs : List SuiteResult) (elapsed : Nat) : Execution :=
  { verdict := .ofResults rs
    output :=
      ["Running " ++ Report.plural rs.length "test suite" ++ "...", ""] ++
        rs.flatMap (Report.suiteLines style) ++ Report.summaryLines style rs elapsed
    errors := [] }

end Execution

/-- The configuration in the given file, or else the one nearest to the base, or else the standard
one; with the directory of its file if it has one. -/
def configuration (d : File.Disk) (base : Path) :
    Option Path → Run (Except Config.Fault (Config × Option Path))
  | some path => return (Config.load d path).map fun l => (l.config, some l.directory)
  | none => do
    match ← Config.discover d base with
    | some l => return .ok (l.config, some l.directory)
    | none => return .ok (.standard, none)

/-- The style of the report, which may go to a terminal. -/
def style (a : Arguments) (terminal : Bool) : Report.Style :=
  if a.verbose then .verbose terminal else .standard terminal

/-- Lists the suites, or runs them and reports. -/
def executeSuites (d : File.Disk) (registry : Registry) (c : Config) (a : Arguments)
    (suites : List Suite) (terminal : Bool := false) : Run Execution := do
  if suites.isEmpty then return .idle
  else if a.list then return .listing suites
  else
    let start ← Run.clock
    let rs ← Runner.run d registry c suites
    return .report (style a terminal) rs ((← Run.clock) - start)

/-- Does what the arguments ask for, starting from the base directory. The output may go to a
terminal. -/
def execute (d : File.Disk) (registry : Registry) (base : Path) (a : Arguments)
    (terminal : Bool := false) : Run Execution := do
  if a.watch then Run.log .warn "Watch mode is not supported yet, running once" []
  match ← configuration d base a.config with
  | .error fault => return .refused fault.message
  | .ok (c, directory) =>
    let c := c.withOverrides a.root a.noRecursive a.timeoutMillis
    let root := c.searchDirectory base directory
    match ← Discovery.suites d registry a.files root c a.pattern with
    | .error fault => return .refused fault.message
    | .ok suites => executeSuites d registry c a suites terminal

end CommandLine
end CallCheck
