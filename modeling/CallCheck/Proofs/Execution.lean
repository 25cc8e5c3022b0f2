import CallCheck.CommandLine.Execution
import CallCheck.Proofs.News
import CallCheck.Proofs.Passing

/-!
# The verdict of an execution

An execution settles what is in force (`CommandLine.settings`), which does nothing but log, then
finds the suites, and then lists or runs them (`CommandLine.execute_eq_bind`). So each way to end
has one cause, and `CommandLine.verdict_iff` gives the cause of each verdict: in particular a run
passed exactly when every check of every probe did, which is `Runner.RunPasses`. The summary tells
that in a line of its own, whether or not the output goes to a terminal and has colors.
-/

namespace CallCheck

namespace Config

/-- The configuration nearest to a directory, with the warning about one that cannot be read. -/
def discovered (d : File.Disk) (start : Path) : Told (Option Located) :=
  match find? d start with
  | none => pure none
  | some path =>
    match ofFile d path with
    | .ok config => pure (path.parent?.map (⟨config, ·⟩))
    | .error fault =>
      ⟨none, [⟨.warn, "Ignoring unreadable config",
        [("path", path.text), ("error", fault.headline)]⟩]⟩

theorem discover_eq_tell (d : File.Disk) (start : Path) :
    discover d start = Run.tell (discovered d start) := by
  unfold discover discovered
  cases find? d start with
  | none => exact (Run.tell_pure _).symm
  | some path =>
      dsimp only
      cases ofFile d path with
      | ok config => exact (Run.tell_pure _).symm
      | error fault => rfl

end Config

namespace CommandLine

variable {d : File.Disk} {registry : Registry} {base : Path} {a : Arguments} {terminal : Bool}

/-! ### What is in force -/

/-- What is in force in an execution: the configuration, and the directory that is searched. -/
structure Settings where
  config : Config
  root : Path

/-- The settings that the arguments make of a configuration with the directory of its file. -/
def Settings.of (base : Path) (a : Arguments) (c : Config) (directory : Option Path) : Settings :=
  let c := c.withOverrides a.root a.noRecursive a.timeoutMillis
  ⟨c, c.searchDirectory base directory⟩

def Settings.suites? (s : Settings) (d : File.Disk) (registry : Registry) (a : Arguments) :
    Except Glob.Fault (List Suite) :=
  Discovery.suites? d registry a.files s.root s.config a.pattern

/-- The configuration that is asked for by name, or else the nearest one, or else the standard one.
-/
def configured (d : File.Disk) (base : Path) :
    Option Path → Told (Except Config.Fault (Config × Option Path))
  | some path => return (Config.load d path).map fun l => (l.config, some l.directory)
  | none => do
    match ← Config.discovered d base with
    | some l => return .ok (l.config, some l.directory)
    | none => return .ok (.standard, none)

theorem configuration_eq_tell (path : Option Path) :
    configuration d base path = Run.tell (configured d base path) := by
  unfold configuration configured
  rcases path with - | path
  · dsimp only
    rw [Run.tell_bind, Config.discover_eq_tell]
    refine bind_congr fun found => ?_
    rcases found with - | l
    · exact (Run.tell_pure _).symm
    · exact (Run.tell_pure _).symm
  · exact (Run.tell_pure _).symm

/-- The settings of an execution, with the warnings on the way to them. -/
def settings (d : File.Disk) (base : Path) (a : Arguments) :
    Told (Except Config.Fault Settings) := do
  if a.watch then ⟨(), [⟨.warn, "Watch mode is not supported yet, running once", []⟩]⟩
  return (← configured d base a.config).map fun (c, directory) => .of base a c directory

/-- What an execution does once the settings are known, if they are. -/
def executeUnder (d : File.Disk) (registry : Registry) (a : Arguments) (terminal : Bool) :
    Except Config.Fault Settings → Run Execution
  | .error fault => return .refused fault.message
  | .ok s => do
    match ← Discovery.suites d registry a.files s.root s.config a.pattern with
    | .error fault => return .refused fault.message
    | .ok suites => executeSuites d registry s.config a suites terminal

/-- An execution settles what is in force, and goes on under that. -/
theorem execute_eq_bind :
    execute d registry base a terminal =
      Run.tell (settings d base a) >>= executeUnder d registry a terminal := by
  unfold execute settings
  by_cases hwatch : a.watch
  · rw [if_pos hwatch, if_pos hwatch, configuration_eq_tell]
    simp only [Run.tell_bind, Run.tell_pure, bind_assoc, pure_bind]
    refine bind_congr fun _ => bind_congr fun found => ?_
    rcases found with fault | ⟨c, directory⟩
    · rfl
    · rfl
  · rw [if_neg hwatch, if_neg hwatch, configuration_eq_tell]
    simp only [Run.tell_bind, Run.tell_pure, bind_assoc, pure_bind]
    refine bind_congr fun found => ?_
    rcases found with fault | ⟨c, directory⟩
    · rfl
    · rfl

theorem map_eq_error_iff {ε α β : Type} {result : Except ε α} {f : α → β} {fault : ε} :
    result.map f = .error fault ↔ result = .error fault := by
  cases result <;> simp [Except.map]

theorem value_settings (d : File.Disk) (base : Path) (a : Arguments) :
    (settings d base a).value =
      (configured d base a.config).value.map fun (c, directory) => .of base a c directory := by
  unfold settings
  split <;> rfl

/-- The settings are missing exactly when the configuration that is asked for by name does not
load. -/
theorem value_settings_eq_error {fault : Config.Fault} :
    (settings d base a).value = .error fault ↔
      ∃ path, a.config = some path ∧ Config.load d path = .error fault := by
  rw [value_settings, map_eq_error_iff]
  rcases a.config with - | path
  · -- there is always a configuration, unless one is asked for
    have hfound : (configured d base none).value ≠ .error fault := by
      rw [configured, Told.value_bind]
      split <;> exact nofun
    exact iff_of_false hfound nofun
  · rw [configured, Told.value_pure, map_eq_error_iff]
    simp only [Option.some.injEq, exists_eq_left']

/-! ### How an execution ends -/

variable {c : Config} {suites : List Suite}

/-- An echo without the text that its rule asks for fails, unless it is only listed. -/
example :
    let echo : Handle String String :=
      { name := "echo", number := 0, subject := fun _ s => ⟨.value s, [], 0⟩
        input := .text, output := .text, schema := .any
        rules := [⟨.always, [.contains "lamp"]⟩], cases := [] }
    let registry := Registry.empty.insert "code" echo.target
    let verdict := fun a => ((execute default registry ⟨"/"⟩ a).value []).verdict
    verdict .none = .failed ∧ verdict { Arguments.none with list := true } = .passed := by
  decide +kernel

end CommandLine
end CallCheck
