import CallCheck.Proofs.Runner
import CallCheck.Proofs.RuleFile

/-!
# Suites of rule files

The suite of a rule file warns, compiles the entries and probes the target with what comes out
(`Runner.runSource_file`). Nothing else of the file is read, and of a handle nothing but its name,
its validation and its probes; and all of this is blind to events. So neither the rules declared on
the handle in code nor the keys that mean nothing can show in the result.

Where the outcome of a function depends on its input alone, a probe has the same line whenever it
runs, and a run over several inputs counts a list of lines that is fixed beforehand
(`Runner.value_probeInputs_of_steady`). With the rules of the file declared in code these lines are
the same (`Runner.fileSuite_runs_as_declared`).
-/

namespace CallCheck

/-- Two results that count the same inputs and have the same lines. -/
structure SuiteResult.SameCounts (r r' : SuiteResult) : Prop where
  passed : r.passed = r'.passed
  failed : r.failed = r'.failed
  failures : r.failures = r'.failures

namespace SuiteResult.SameCounts

variable {r r' r'' : SuiteResult}

theorem symm (h : r.SameCounts r') : r'.SameCounts r :=
  ⟨h.passed.symm, h.failed.symm, h.failures.symm⟩

theorem trans (h : r.SameCounts r') (h' : r'.SameCounts r'') : r.SameCounts r'' :=
  ⟨h.passed.trans h'.passed, h.failed.trans h'.failed, h.failures.trans h'.failures⟩

end SuiteResult.SameCounts

namespace Runner

variable {c : Config} {t : Target} {rules : List Rule} {cases : List Case}

theorem sameCounts_count {r r' : SuiteResult} (h : r.SameCounts r') (line : Option String) :
    (count r line).SameCounts (count r' line) := by
  cases line with
  | none => exact ⟨congrArg (· + 1) h.passed, h.failed, h.failures⟩
  | some line => exact ⟨h.passed, congrArg (· + 1) h.failed, congrArg (· ++ [line]) h.failures⟩

theorem sameCounts_foldl_count {r r' : SuiteResult} (h : r.SameCounts r')
    (lines : List (Option String)) : (lines.foldl count r).SameCounts (lines.foldl count r') := by
  induction lines generalizing r r' with
  | nil => exact h
  | cons line lines ih => exact ih (sameCounts_count h line)

/-! ### Blind runs -/

theorem blind_probeInput (ht : t.Blind) (input : Json) :
    (probeInput c t rules cases input).Blind := by
  refine (Run.blind_log _ _ _).bind fun _ => ((ht.probe input).probing _).bind fun answer => ?_
  cases answer with
  | error fault => exact Run.blind_pure _
  | ok raw =>
      refine (Run.blind_tell _).bind fun fs => ?_
      cases fs with
      | nil => exact Run.blind_pure _
      | cons f fs => exact Run.blind_pure _

theorem blind_probeInputs (ht : t.Blind) (inputs : List Json) (r : SuiteResult) :
    (probeInputs c t rules cases inputs r).Blind := by
  induction inputs generalizing r with
  | nil => exact Run.blind_pure r
  | cons input rest ih => exact (blind_probeInput ht input).bind fun line => ih (count r line)

/-! ### Suites -/

variable {d : File.Disk} {registry : Registry}

def runningEvent (s : Suite) : LogEvent := ⟨.info, "Running suite", [("suite", s.name)]⟩

/-- A suite is run and timed. -/
theorem value_runSuite (s : Suite) (j : Journal) :
    let start := j ++ Journal.ofEvents [runningEvent s]
    (runSuite d registry c s).value j =
      { (runSource d registry c s).value start with
        duration := ((runSource d registry c s).journal start).clock - j.clock } := rfl

/-- Timing a suite changes neither its counts nor its lines. -/
theorem sameCounts_runSuite (s : Suite) (j : Journal) :
    ((runSuite d registry c s).value j).SameCounts
      ((runSource d registry c s).value (j ++ Journal.ofEvents [runningEvent s])) := ⟨rfl, rfl, rfl⟩

/-- Compiles the entries of a file and probes a target with the rules and cases. -/
def probeFile (c : Config) (t : Target) (f : RuleFile) (r : SuiteResult) : Run SuiteResult := do
  match ← (f.compileEntries t).run with
  | .error fault => return r.fail (faultLine f.target fault)
  | .ok compiled => probeTarget c t compiled.rules compiled.cases r

/-- A suite of a rule file warns and probes its target with the rules and cases of the file. -/
theorem runSource_file {f : RuleFile} {path : Path} (hload : RuleFile.load d path = .ok f)
    (htarget : registry.target? f.target = some t) (name : String) (j : Journal) :
    runSource d registry c ⟨name, .file path⟩ j =
      probeFile c t f (.empty (f.suiteName path)) (j ++ Journal.ofEvents f.warnings) := by
  have hcompile := f.run_compile t j
  rw [runSource, probeFile]
  dsimp only
  rw [hload]
  dsimp only
  rw [compileFile, htarget]
  dsimp only
  simp only [bind, StateT.bind, hcompile]
  cases (f.compileEntries t).run (j ++ Journal.ofEvents f.warnings) with
  | mk result j' =>
      cases result with
      | error fault => rfl
      | ok compiled => rfl

theorem blind_probeFile (ht : t.Blind) (f : RuleFile) (r : SuiteResult) :
    (probeFile c t f r).Blind := by
  refine (f.blind_compileEntries ht).bind fun result => ?_
  cases result with
  | error fault => exact Run.blind_pure _
  | ok compiled => exact blind_probeInputs ht _ r

/-- Of a target a file reads the name, the validation and the probes. -/
theorem probeFile_congr {t t' : Target} (hname : t.name = t'.name)
    (hvalidate : t.validate = t'.validate) (hprobe : t.probe = t'.probe) (f : RuleFile)
    (r : SuiteResult) : probeFile c t f r = probeFile c t' f r := by
  have hinput : ∀ rules cases input,
      probeInput c t rules cases input = probeInput c t' rules cases input := by
    intro rules cases input
    rw [probeInput, probeInput, hname, hprobe]
  have hentries : f.compileEntries t = f.compileEntries t' := by
    have hcase : RuleFile.caseOf t = RuleFile.caseOf t' := by
      funext e
      rw [RuleFile.caseOf, RuleFile.caseOf, hvalidate]
    rw [RuleFile.compileEntries, RuleFile.compileEntries, hcase]
  rw [probeFile, probeFile, hentries]
  refine bind_congr fun result => ?_
  cases result with
  | error fault => rfl
  | ok compiled => exact probeInputs_congr (hinput _ _) _ r

/-- A file that is compiled probes its target with what comes out. -/
theorem value_probeFile_of_yields {f : RuleFile} {compiled : RuleFile.Compiled}
    (h : RuleFile.Yields (f.compileEntries t) compiled) (r : SuiteResult) (j : Journal) :
    (probeFile c t f r).value j =
      (probeTarget c t compiled.rules compiled.cases r).value
        ((f.compileEntries t).run.journal j) := by
  rw [probeFile, Run.value_bind, h j]

variable {ι ο : Type}

/-- What a file finds wrong with a handle of a steady function: the lines of its cases are those of
the same rules declared in code. -/
theorem sameCounts_declared (h : Handle ι ο) {f : RuleFile} (hresolves : f.Resolves)
    (hfits : ∀ e ∈ f.cases, RuleFile.Fits h.input h.schema e.input) (hsteady : h.subject.Steady)
    (number : Nat) (r r' : SuiteResult) (hr : r.SameCounts r') (j₀ j j' : Journal) :
    let declared := ((Handle.register h.name number h.subject h.input h.output h.schema).declareAll
      (f.declarations h.input)).value j₀
    ((probeFile c h.target f r).value j).SameCounts
      ((probeInputs c declared.target declared.rules declared.cases (inputs c declared.cases)
        r').value j') := by
  intro declared
  have hdeclared : declared =
      (Handle.register h.name number h.subject h.input h.output h.schema).extended
        f.compiled.rules := by
    rw [← RuleFile.filterMap_rule?_declarations hfits]
    exact Handle.value_declareAll _ _ j₀
  have hrules : declared.rules = f.compiled.rules := by rw [hdeclared]; rfl
  have hcases : declared.cases = f.compiled.cases := by
    rw [hdeclared]
    exact RuleFile.filterMap_case?_compiled
  have haccepts : ∀ e ∈ f.cases, ∀ j, (h.target.validate e.input).value j = .ok () := by
    intro e he j
    show (h.schema.consult e.input).value j = .ok ()
    rw [InputSchema.value_consult, if_pos (hfits e he).1]
  rw [value_probeFile_of_yields (RuleFile.yields_compileEntries hresolves haccepts), probeTarget,
    hrules, hcases, value_probeInputs_of_steady (value_probeInput_of_steady c _ _ h hsteady)]
  -- both runs now count the lines of the same list of inputs
  have hsteady' : declared.subject.Steady := by rw [hdeclared]; exact hsteady
  rw [value_probeInputs_of_steady (value_probeInput_of_steady c _ _ declared hsteady'), hdeclared]
  exact sameCounts_foldl_count hr _

/-- **A rule file does what the same declarations in code do.** If its entries resolve, its inputs
fit the handle, and the outcome of the function depends on its input alone, then its suite counts
what the suite of a fresh handle counts on which the rules of the file were declared, with the same
lines. Neither rules and cases declared on the handle itself nor keys that mean nothing make a
difference to the result, whatever is in the file and whatever the function does. -/
theorem fileSuite_runs_as_declared (h : Handle ι ο) (d : File.Disk) (registry : Registry)
    (f : RuleFile) (path : Path) (hload : RuleFile.load d path = .ok f)
    (htarget : registry.target? f.target = some h.target) (c : Config) (name : String)
    (j : Journal) :
    let result := (runSuite d registry c ⟨name, .file path⟩).value j
    (f.Resolves → (∀ e ∈ f.cases, RuleFile.Fits h.input h.schema e.input) → h.subject.Steady →
      ∀ number j₀ d' registry' name' j',
        let declared := ((Handle.register h.name number h.subject h.input h.output
          h.schema).declareAll (f.declarations h.input)).value j₀
        let result' := (runSuite d' registry' c ⟨name', .registered [declared.target]⟩).value j'
        result.passed = result'.passed ∧ result.failed = result'.failed ∧
          result.failures = result'.failures) ∧
    (∀ rules cases unknown d' registry', RuleFile.load d' path = .ok { f with unknown } →
      registry'.target? f.target = some { h with rules, cases : Handle ι ο }.target →
      (runSuite d' registry' c ⟨name, .file path⟩).value j = result) := by
  intro result
  let start := j ++ Journal.ofEvents [runningEvent ⟨name, .file path⟩]
  have hsource := runSource_file (c := c) hload htarget name start
  refine ⟨?declared, ?blind⟩
  case declared =>
    intro hresolves hfits hsteady number j₀ d' registry' name' j' declared result'
    let start' := j' ++ Journal.ofEvents [runningEvent ⟨name', .registered [declared.target]⟩]
    have hcounts := sameCounts_declared (c := c) h hresolves hfits hsteady number
      (.empty (f.suiteName path)) (.empty name') ⟨rfl, rfl, rfl⟩ j₀
      (start ++ Journal.ofEvents f.warnings) start'
    have hresult : result.SameCounts ((runSource d registry c ⟨name, .file path⟩).value start) :=
      sameCounts_runSuite _ j
    have hresult' : result'.SameCounts
        ((runSource d' registry' c ⟨name', .registered [declared.target]⟩).value start') :=
      sameCounts_runSuite _ j'
    rw [Run.value, hsource] at hresult
    have hsame := (hresult.trans hcounts).trans hresult'.symm
    exact ⟨hsame.passed, hsame.failed, hsame.failures⟩
  case blind =>
    intro rules cases unknown d' registry' hload' htarget'
    have hsource' := runSource_file (c := c) hload' htarget' name start
    have hblind := blind_probeFile (c := c) h.blind_target f (.empty (f.suiteName path))
    -- neither the rules of the handle nor the unknown keys are read
    have hsame : ∀ r, probeFile c { h with rules, cases : Handle ι ο }.target { f with unknown } r =
        probeFile c h.target f r := by
      intro r
      show probeFile c { h with rules, cases : Handle ι ο }.target f r = _
      apply probeFile_congr
      · rfl
      · rfl
      · rfl
    rw [hsame] at hsource'
    -- the warnings are all that differs in the journals
    have hdeeds : (start ++ Journal.ofEvents ({ f with unknown } : RuleFile).warnings).deeds =
        (start ++ Journal.ofEvents f.warnings).deeds := by simp
    have hvalue : (runSource d' registry' c ⟨name, .file path⟩).value start =
        (runSource d registry c ⟨name, .file path⟩).value start := by
      rw [Run.value, Run.value, hsource, hsource']
      exact hblind.value_eq hdeeds
    have hclock : ((runSource d' registry' c ⟨name, .file path⟩).journal start).clock =
        ((runSource d registry c ⟨name, .file path⟩).journal start).clock := by
      rw [Run.journal, Run.journal, hsource, hsource']
      exact hblind.clock_eq hdeeds
    show _ = (runSuite d registry c ⟨name, .file path⟩).value j
    rw [value_runSuite, value_runSuite, hvalue, hclock]

/-- A disk with one rule file, which has a key that means nothing. -/
def lampDisk : File.Disk :=
  let text := "target: echo\ncases:\n- input: b\n  expect:\n  - contains: c\nd: 1\n"
  ⟨.directory [("lamp.eval.yaml", .file text.toUTF8)], []⟩

/-- An echo with a rule and a case in code. -/
def lampEcho : Handle String String :=
  { name := "echo", number := 0, subject := fun n s => ⟨.value s, [], n⟩
    input := .text, output := .text, schema := .any
    rules := [⟨.always, [.contains "q"]⟩], cases := [⟨.null, []⟩] }

theorem load_lampDisk : ∃ f, RuleFile.load lampDisk ⟨"lamp.eval.yaml"⟩ = .ok f ∧ f.target = "echo" ∧
    f.Resolves ∧ f.cases ≠ [] ∧ ∀ e ∈ f.cases, RuleFile.Fits .text .any e.input := by
  have hload : ((RuleFile.load lampDisk ⟨"lamp.eval.yaml"⟩).toOption.any fun f =>
      f.target == "echo" && f.expectations.all (·.all (·.resolve.toOption.isSome)) &&
        !f.cases.isEmpty && f.cases.all (·.input.text?.isSome)) = true := by decide +kernel
  cases hf : RuleFile.load lampDisk ⟨"lamp.eval.yaml"⟩ with
  | error fault =>
      rw [hf] at hload
      cases hload
  | ok f =>
      rw [hf] at hload
      simp only [Except.toOption, Option.any_some, Bool.and_eq_true, beq_iff_eq, List.all_eq_true,
        Bool.not_eq_true', List.isEmpty_eq_false_iff] at hload
      obtain ⟨⟨⟨htarget, hresolves⟩, hcases⟩, htexts⟩ := hload
      refine ⟨f, rfl, htarget, ?_, hcases, ?_⟩
      · intro ds hds e he
        have hsome := hresolves ds hds e he
        cases hp : e.resolve with
        | ok p => exact ⟨p, rfl⟩
        | error fault => rw [hp] at hsome; cases hsome
      · intro e he
        have hsome := htexts e he
        cases hinput : e.input with
        | text s => exact ⟨rfl, s, rfl, rfl⟩
        | null | bool | number | list | object => rw [hinput] at hsome; cases hsome

/-- The file of the disk and the echo, whose own rule no declaration repeats. -/
theorem fileSuite_runs_as_declared_echo :
    ∃ f, RuleFile.load lampDisk ⟨"lamp.eval.yaml"⟩ = .ok f ∧ f.cases ≠ [] ∧
      let result := (runSuite lampDisk (Registry.empty.insert "code" lampEcho.target) .standard
        ⟨"file", .file ⟨"lamp.eval.yaml"⟩⟩).value []
      let declared := ((Handle.register lampEcho.name 1 lampEcho.subject lampEcho.input
        lampEcho.output lampEcho.schema).declareAll (f.declarations lampEcho.input)).value []
      let result' := (runSuite default .empty .standard
        ⟨"code", .registered [declared.target]⟩).value []
      result.passed = result'.passed ∧ result.failed = result'.failed ∧
        result.failures = result'.failures := by
  obtain ⟨f, hload, htarget, hresolves, hcases, hfits⟩ := load_lampDisk
  have hfound : (Registry.empty.insert "code" lampEcho.target).target? f.target =
      some lampEcho.target := by
    rw [htarget]
    rfl
  have hruns := fileSuite_runs_as_declared lampEcho lampDisk _ f ⟨"lamp.eval.yaml"⟩ hload hfound
    .standard "file" []
  exact ⟨f, hload, hcases, hruns.1 hresolves hfits (fun _ _ _ => rfl) 1 [] default .empty "code" []⟩

end Runner
end CallCheck
