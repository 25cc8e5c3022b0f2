import CallCheck.File.Disk
import CallCheck.Predicate.Descriptor
import CallCheck.Target

/-!
# Rule files

A rule file attaches predicates to a target by name. Compiled against the target it gives the same
rules and cases as declarations in code would. Compilation stops at the first entry that does not
resolve or input that the target refuses; within a case the input comes first.
-/

namespace CallCheck
namespace RuleFile

/-- A predicate as it is written: a name, or a map from a name to its argument. -/
inductive Descriptor where
  | bare (name : String)
  | call (arguments : List (String × Json))
  deriving Inhabited

/-- Predicates for inputs that contain a text. -/
structure SubstringEntry where
  substring : String
  expect : List Descriptor
  deriving Inhabited

structure CaseEntry where
  input : Json
  expect : List Descriptor
  deriving Inhabited

end RuleFile

/-- A rule file. The keys that mean nothing are kept, sorted. -/
structure RuleFile where
  name : Option String
  target : String
  forAll : List RuleFile.Descriptor
  containing : List RuleFile.SubstringEntry
  cases : List RuleFile.CaseEntry
  unknown : List (String × Json)
  deriving Inhabited

namespace RuleFile

def Descriptor.resolve : Descriptor → Except Fault Predicate
  | .bare name => Predicate.ofDescriptor name .null
  | .call [(name, arg)] => Predicate.ofDescriptor name arg
  | .call arguments =>
    .error (.invalidArgument (", ".intercalate (arguments.map (·.1)))
      "each predicate entry must have exactly one key")

/-- The name of a suite in a file: the file's name up to the first dot. -/
def suiteNameOf (path : Path) : String :=
  String.ofList ((path.fileName?.getD "").toList.takeWhile (· ≠ '.'))

/-- The name of the suite: the one written in the file, else the one of the file. -/
def suiteName (f : RuleFile) (path : Path) : String := f.name.getD (suiteNameOf path)

structure Compiled where
  rules : List Rule
  cases : List Case

/-- A compilation: it may consult schemas and log, and it may fail. -/
abbrev Compilation := ExceptT Fault Run

def resolveAll (ds : List Descriptor) : Compilation (List Predicate) :=
  ExceptT.mk (pure (ds.mapM Descriptor.resolve))

/-- The rule for every input, if the file has one. -/
def alwaysRules (f : RuleFile) : Compilation (List Rule) := do
  if f.forAll.isEmpty then return []
  return [⟨.always, ← resolveAll f.forAll⟩]

def substringRule (e : SubstringEntry) : Compilation Rule := do
  return ⟨.containing e.substring, ← resolveAll e.expect⟩

/-- The case of one input that the target accepts. -/
def caseOf (t : Target) (e : CaseEntry) : Compilation Case := do
  match ← (t.validate e.input : Run _) with
  | .error fault => throw (.schema fault)
  | .ok () => return ⟨e.input, ← resolveAll e.expect⟩

def ruleOfCase (c : Case) : Rule := ⟨.exactly c.input, c.predicates⟩

/-- Compiles a rule file against a target, warning of keys that mean nothing. -/
def compile (f : RuleFile) (t : Target) : Compilation Compiled := do
  for (key, _) in f.unknown do
    Run.log .warn "Skipping unknown rule kind" [("target_name", f.target), ("kind", key)]
  let always ← alwaysRules f
  let containing ← f.containing.mapM substringRule
  let cases ← f.cases.mapM (caseOf t)
  return ⟨always ++ containing ++ cases.map ruleOfCase, cases⟩

end RuleFile
end CallCheck
