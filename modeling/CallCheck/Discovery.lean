import CallCheck.Config.Basic
import CallCheck.Glob.Braces
import CallCheck.Glob.Walk
import CallCheck.Registry
import CallCheck.RuleFile.Basic

/-!
# Discovery

The suites of a run: those registered in code, then rule files in the order of their paths. Rule
files are searched below a directory, without descending into excluded ones, or they are the files
that given paths name. A filter on the names of suites is a glob.

A search that comes upon an entry that cannot be read is an error. Trees do not have such entries, so
searching below a directory always succeeds here and only a malformed glob is a fault.
-/

namespace CallCheck

/-- Where the rules of a suite come from. -/
inductive Source where
  | registered (targets : List Target)
  | file (path : Path)

/-- A group of checks that run together. -/
structure Suite where
  name : String
  source : Source

def Suite.describe (s : Suite) : String :=
  match s.source with
  | .registered ts => s.name ++ " (registered: " ++ ", ".intercalate (ts.map Target.name) ++ ")"
  | .file path => s.name ++ " (" ++ path.text ++ ")"

namespace Discovery

open File (Disk Tree)

/-- The patterns that the names of rule files are matched against; malformed ones match nothing. -/
def namePatterns (testPattern : String) : List Glob.Pattern :=
  (Glob.Braces.expand testPattern.toList).filterMap fun s =>
    (Glob.Pattern.ofText (String.ofList s)).toOption

def isRuleFile (c : Config) (p : Path) : Bool :=
  p.fileName?.any fun name => (namePatterns c.testPattern).any (·.accepts name)

/-- Whether a path leads through an excluded name. -/
def isExcluded (c : Config) (p : Path) : Bool :=
  (p.components.filterMap Path.Component.name?).any c.exclude.contains

mutual

/-- The rule files at a path, which is not excluded, and below it. -/
def ruleFilesAt (c : Config) (p : Path) : Tree → List Path
  | .file _ => if isRuleFile c p then [p] else []
  | .directory es => if c.recursive then ruleFilesIn c p es else []

def ruleFilesIn (c : Config) (p : Path) : List (String × Tree) → List Path
  | [] => []
  | (name, t) :: rest =>
    let entry := p.join ⟨name⟩
    (if isExcluded c entry then [] else ruleFilesAt c entry t) ++ ruleFilesIn c p rest

end

def sort (ps : List Path) : List Path := ps.mergeSort Path.le

/-- The rule files below a directory, sorted. -/
def ruleFiles (d : Disk) (c : Config) (directory : Path) : List Path :=
  if isExcluded c directory then []
  else sort (ruleFilesIn c directory ((d.at? directory).elim [] Tree.entries))

/-- The files that a glob names, excluded ones left out. -/
def globbed (d : Disk) (c : Config) (pattern : String) : Except Glob.Fault (List Path) := do
  let found ← (Glob.Braces.expand pattern.toList).mapM (Glob.paths d)
  return found.flatten.filter fun p => d.isFile p && !isExcluded c p

/-- The rule files that one argument names: a file, those below a directory, or those of a glob. -/
def filesOf (d : Disk) (c : Config) (argument : String) : Except Glob.Fault (List Path) :=
  if d.isFile ⟨argument⟩ then .ok [⟨argument⟩]
  else if d.isDirectory ⟨argument⟩ then .ok (ruleFiles d c ⟨argument⟩)
  else globbed d c argument

/-- A list without the elements that have the components of the one before. -/
def dropRepeated : List Path → List Path
  | p :: q :: rest =>
    if p.same q then dropRepeated (p :: rest) else p :: dropRepeated (q :: rest)
  | ps => ps

/-- The rule files that arguments name, sorted, each path once. -/
def resolve (d : Disk) (c : Config) (arguments : List String) : Except Glob.Fault (List Path) := do
  let found ← arguments.mapM (filesOf d c)
  return dropRepeated (sort found.flatten)

def fileSuite (path : Path) : Suite := ⟨RuleFile.suiteNameOf path, .file path⟩

def registeredSuites (r : Registry) : List Suite :=
  r.suites.map fun (name, ts) => ⟨name, .registered ts⟩

/-- Every suite to run whose name the filter accepts. -/
def suites? (d : Disk) (r : Registry) (arguments : List String) (root : Path) (c : Config)
    (filter : Option String) : Except Glob.Fault (List Suite) := do
  let pattern ← filter.mapM Glob.Pattern.ofText
  let files ←
    if !arguments.isEmpty then resolve d c arguments
    else pure (if d.isDirectory root then ruleFiles d c root else [])
  let all := registeredSuites r ++ files.map fileSuite
  return all.filter fun s => pattern.all (·.accepts s.name)

/-- Finds the suites, and logs how many there are. -/
def suites (d : Disk) (r : Registry) (arguments : List String) (root : Path) (c : Config)
    (filter : Option String) : Run (Except Glob.Fault (List Suite)) := do
  match suites? d r arguments root c filter with
  | .error fault => return .error fault
  | .ok found =>
    Run.log .debug "Discovered suites" [("count", toString found.length)]
    return .ok found

end Discovery
end CallCheck
