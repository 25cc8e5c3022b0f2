import CallCheck.CommandLine.Execution

/-!
# Programs

A program reads its arguments and executes them over a registry. Arguments that ask for information
get it; arguments that mean nothing end the program before anything is found or run.
-/

namespace CallCheck
namespace CommandLine

/-- What a program prints, and the code it exits with. -/
structure Printout where
  code : Nat
  output : List String
  errors : List String
  deriving DecidableEq, Inhabited

def helpLines : List String :=
  [ "LLM testing framework - unit tests for AI"
  , ""
  , "Usage: eval-engine [OPTIONS] [FILES]..."
  , ""
  , "Arguments:"
  , "  [FILES]...  Rule files to run (glob patterns supported)"
  , ""
  , "Options:"
  , "  -w, --watch              Watch mode - rerun tests on file changes"
  , "  -p, --pattern <PATTERN>  Run suites whose name matches this glob"
  , "      --timeout <MS>       Test timeout in milliseconds (overrides config)"
  , "      --root <ROOT>        Root directory for rule file discovery (overrides config)"
  , "      --no-recursive       Disable recursive directory scanning"
  , "  -c, --config <CONFIG>    Path to config file (default: auto-discover)"
  , "      --list               List discovered suites without running them"
  , "  -v, --verbose            Verbose output (full failure lines, info logs)"
  , "  -h, --help               Print help"
  , "  -V, --version            Print version" ]

def versionLine : String := "eval-engine 0.1.0"

def refusal : Arguments.Stop → String
  | .unknownArgument => "error: unexpected argument"
  | .invalidValue => "error: a value is required"
  | .valueValidation => "error: invalid value"
  | .argumentConflict => "error: an argument cannot be used multiple times"
  | .tooManyValues => "error: unexpected value"
  | .help | .version => ""

/-- What is printed when arguments are not run with. -/
def stopped : Arguments.Stop → Printout
  | .help => ⟨0, helpLines, []⟩
  | .version => ⟨0, [versionLine], []⟩
  | s => ⟨2, [], [refusal s, "", "For more information, try '--help'."]⟩

def Execution.printout (e : Execution) : Printout := ⟨e.verdict.code, e.output, e.errors⟩

def program (d : File.Disk) (registry : Registry) (base : Path) (arguments : List String)
    (terminal : Bool := false) : Run Printout := do
  match Arguments.ofList arguments with
  | .error s => return stopped s
  | .ok a => return (← execute d registry base a terminal).printout

end CommandLine
end CallCheck
