import CallCheck.Config.Basic
import CallCheck.File.Disk
import CallCheck.Journal
import CallCheck.Yaml.Reading

/-!
# Configuration files

A configuration file in YAML is a layer over the standard settings; an empty one changes nothing.
The file is given, or it is the nearest one on the way from a directory to the root. A nearest file
that cannot be read or is malformed is passed over with a warning, and none farther is tried.
-/

namespace CallCheck
namespace Config

open Yaml (Node Read)

/-! ### Reading -/

/-- An optional setting that was read, or a null in its place. -/
abbrev Setting (α : Type) := Option (Option α)

/-- The settings of a file read so far. -/
structure Fields where
  testPattern : Setting String
  root : Setting Path
  recursive : Setting Bool
  exclude : Setting (List String)
  timeoutMillis : Setting Nat
  defaultInput : Setting Json
  quietProbes : Setting Bool
  probeSubstringRules : Setting Bool

/-- A setting that may be null, given once. -/
def readSetting {α : Type} (name : String) (old : Setting α) (r : Node → Read α) (n : Node) :
    Read (Setting α) :=
  Read.once name old (Read.optional r n)

/-- Takes one field of a configuration file; those without a meaning are ignored. -/
def readField (depth : Nat) (s : Fields) (key path : String) (n : Node) : Read Fields := do
  match key with
  | "test_pattern" =>
    return { s with testPattern := ← readSetting key s.testPattern (Read.text "a string" path) n }
  | "root" =>
    return { s with
      root := ← readSetting key s.root (fun n => .mk <$> Read.text "path string" path n) n }
  | "recursive" =>
    return { s with recursive := ← readSetting key s.recursive (Read.bool path) n }
  | "exclude" =>
    return { s with
      exclude := ← readSetting key s.exclude
        (Read.list (fun _ => Read.text "a string") depth path) n }
  | "timeout_ms" =>
    return { s with timeoutMillis := ← readSetting key s.timeoutMillis (Read.nat path) n }
  | "default_probe_input" =>
    return { s with defaultInput := ← readSetting key s.defaultInput (Read.json depth path) n }
  | "quiet_probes" =>
    return { s with quietProbes := ← readSetting key s.quietProbes (Read.bool path) n }
  | "probe_substring_rules" =>
    return { s with
      probeSubstringRules := ← readSetting key s.probeSubstringRules (Read.bool path) n }
  | _ =>
    Read.ignored n
    return s

def Fields.layer (s : Fields) : Layer :=
  { testPattern := s.testPattern.join
    root := s.root.join
    recursive := s.recursive.join
    exclude := s.exclude.join
    timeoutMillis := s.timeoutMillis.join
    defaultInput := s.defaultInput.join
    quietProbes := s.quietProbes.join
    probeSubstringRules := s.probeSubstringRules.join }

def readLayer : Node → Read Layer :=
  Read.record "struct ConfigFile" (⟨none, none, none, none, none, none, none, none⟩ : Fields)
    readField (fun s => return s.layer) Yaml.depthLimit "."

/-- Reads a layer; a text without one gives the empty layer. -/
def layerOfText (text : String) : Except Yaml.Fault Layer := do
  return (← Yaml.ofText (Read.optional readLayer) text).getD .empty

/-! ### Finding -/

/-- Why a configuration file gives no configuration. -/
inductive Fault where
  | unreadable (path : Path) (fault : File.Fault)
  | malformed (path : Path) (fault : Yaml.Fault)
  deriving Inhabited

def Fault.headline : Fault → String
  | .unreadable path _ => "Failed to read config file: " ++ Quoted.quote path.text
  | .malformed path _ => "Failed to parse config file: " ++ Quoted.quote path.text

def Fault.message (f : Fault) : String :=
  f.headline ++ ": " ++
    match f with
    | .unreadable _ cause => cause.message
    | .malformed _ cause => cause.words

def ofFile (d : File.Disk) (path : Path) : Except Fault Config := do
  let text ← (d.readText path).mapError (.unreadable path)
  let layer ← (layerOfText text).mapError (.malformed path)
  return layer.over standard

/-- A configuration with the directory of its file. -/
structure Located where
  config : Config
  directory : Path

def load (d : File.Disk) (path : Path) : Except Fault Located := do
  return ⟨← ofFile d path, path.parent?.getD ⟨"."⟩⟩

def fileName : String := ".evalengine.yaml"

/-- The nearest configuration file in the directory that names lead to, the last name first, and
those above it. -/
def nearest? (d : File.Disk) : List String → Option Path
  | [] => (here [])
  | name :: above => (here (name :: above)).or (nearest? d above)
where
  /-- The configuration file in one directory. -/
  here (names : List String) : Option Path :=
    let path := (Path.ofNames names.reverse).join ⟨fileName⟩
    if d.contains path then some path else none

/-- The configuration file nearest to a directory. -/
def find? (d : File.Disk) (start : Path) : Option Path :=
  (d.locate start).toOption.bind fun names => nearest? d names.reverse

/-- The configuration nearest to a directory, if it can be read. -/
def discover (d : File.Disk) (start : Path) : Run (Option Located) := do
  match find? d start with
  | none => return none
  | some path =>
    match ofFile d path with
    | .ok config => return path.parent?.map (⟨config, ·⟩)
    | .error fault =>
      Run.log .warn "Ignoring unreadable config" [("path", path.text), ("error", fault.headline)]
      return none

end Config
end CallCheck
