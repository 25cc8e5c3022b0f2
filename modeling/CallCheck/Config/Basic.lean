import CallCheck.File.Path
import CallCheck.Json.Basic

/-!
# Configuration

What decides which rule files are found and how targets are probed. A layer gives some of the
settings; laid over a configuration it replaces those and keeps the others.
-/

namespace CallCheck

structure Config where
  testPattern : String
  root : Option Path
  recursive : Bool
  exclude : List String
  timeoutMillis : Nat
  defaultInput : Json
  quietProbes : Bool
  probeSubstringRules : Bool
  deriving Inhabited

namespace Config

/-- The settings of an empty project. -/
def standard : Config :=
  { testPattern := "*.eval.\x7byaml,yml\x7d"
    root := none
    recursive := true
    exclude := ["target", "node_modules", "dist", ".git"]
    timeoutMillis := 30000
    defaultInput := .text "Test input"
    quietProbes := true
    probeSubstringRules := false }

/-- Some of the settings. -/
structure Layer where
  testPattern : Option String
  root : Option Path
  recursive : Option Bool
  exclude : Option (List String)
  timeoutMillis : Option Nat
  defaultInput : Option Json
  quietProbes : Option Bool
  probeSubstringRules : Option Bool
  deriving Inhabited

def Layer.empty : Layer := ⟨none, none, none, none, none, none, none, none⟩

/-- The settings of a layer, and those of the configuration below it where it has none. -/
def Layer.over (l : Layer) (base : Config) : Config :=
  { testPattern := l.testPattern.getD base.testPattern
    root := l.root.or base.root
    recursive := l.recursive.getD base.recursive
    exclude := l.exclude.getD base.exclude
    timeoutMillis := l.timeoutMillis.getD base.timeoutMillis
    defaultInput := l.defaultInput.getD base.defaultInput
    quietProbes := l.quietProbes.getD base.quietProbes
    probeSubstringRules := l.probeSubstringRules.getD base.probeSubstringRules }

def withOverrides (c : Config) (root : Option Path) (noRecursive : Bool)
    (timeoutMillis : Option Nat) : Config :=
  { c with
    root := root.or c.root
    recursive := c.recursive && !noRecursive
    timeoutMillis := timeoutMillis.getD c.timeoutMillis }

/-- Where rule files are searched: the root, below the directory of the configuration file if there
is one and below the base otherwise. -/
def searchDirectory (c : Config) (base : Path) (directory : Option Path) : Path :=
  match c.root with
  | some root => (directory.getD base).join root
  | none => base

end Config
end CallCheck
