import CallCheck.Proofs.Registry
import CallCheck.Proofs.Suite
import Mathlib.Algebra.BigOperators.Group.List.Basic
import Mathlib.Algebra.Ring.Nat

/-!
# What results count

A run over several inputs counts the lines of its probes (`Runner.probeInputs_eq_map`), and counting
lines adds each of them to exactly one of two numbers (`Runner.foldl_count`). So the numbers of a
result add up to the number of its probes, which is known beforehand (`Runner.inputCount`), whatever
the functions and the predicates do. A rule file that cannot be used counts as one failure, and no
function is called for it (`Runner.accounted_runSuite`). `Runner.run_accounts` says this of whole
runs.
-/

namespace CallCheck

namespace Runner

variable {d : File.Disk} {registry : Registry} {c : Config}

/-! ### Counting lines -/

theorem totalPassed_eq_sum (rs : List SuiteResult) :
    SuiteResult.totalPassed rs = (rs.map SuiteResult.passed).sum := by
  rw [SuiteResult.totalPassed, List.sum_eq_foldl, List.foldl_map]

theorem totalFailed_eq_sum (rs : List SuiteResult) :
    SuiteResult.totalFailed rs = (rs.map SuiteResult.failed).sum := by
  rw [SuiteResult.totalFailed, List.sum_eq_foldl, List.foldl_map]

/-- Lines are counted as failures with their texts, and what has none counts as passed. -/
theorem foldl_count (r : SuiteResult) (lines : List (Option String)) :
    lines.foldl count r =
      { r with
        passed := r.passed + lines.countP Option.isNone
        failed := r.failed + (lines.filterMap id).length
        failures := r.failures ++ lines.filterMap id } := by
  induction lines generalizing r with
  | nil => simp
  | cons line lines ih =>
      rw [List.foldl_cons, ih]
      cases line with
      | none => simp [count, SuiteResult.pass, Nat.add_assoc, Nat.add_comm 1]
      | some text => simp [count, SuiteResult.fail, Nat.add_assoc, Nat.add_comm 1]

/-- The result of a suite whose probes have these lines. -/
def counted (name : String) (lines : List (Option String)) : SuiteResult :=
  lines.foldl count (.empty name)

theorem passed_counted (name : String) (lines : List (Option String)) :
    (counted name lines).passed = lines.countP Option.isNone := by
  rw [counted, foldl_count, SuiteResult.empty, Nat.zero_add]

theorem failures_counted (name : String) (lines : List (Option String)) :
    (counted name lines).failures = lines.filterMap id := by
  rw [counted, foldl_count, SuiteResult.empty, List.nil_append]

theorem failed_counted (name : String) (lines : List (Option String)) :
    (counted name lines).failed = (lines.filterMap id).length := by
  rw [counted, foldl_count]
  exact Nat.zero_add _

/-- Every line is counted once. -/
theorem passed_add_failed_counted (name : String) (lines : List (Option String)) :
    (counted name lines).passed + (counted name lines).failed = lines.length := by
  rw [passed_counted, failed_counted]
  induction lines with
  | nil => rfl
  | cons line lines ih =>
      cases line with
      | none => simp [← ih, Nat.add_right_comm]
      | some text => simp [← ih, Nat.add_assoc]

/-! ### The lines of a run -/

/-- A run over several inputs counts the lines of their probes. -/
theorem probeInputs_eq_map (t : Target) (rules : List Rule) (cases : List Case) (inputs : List Json)
    (r : SuiteResult) :
    probeInputs c t rules cases inputs r =
      (fun lines => lines.foldl count r) <$> inputs.mapM (probeInput c t rules cases) := by
  induction inputs generalizing r with
  | nil => rfl
  | cons input rest ih =>
      rw [probeInputs, List.mapM_cons, map_bind]
      refine bind_congr fun line => ?_
      rw [ih, map_bind, map_eq_pure_bind]
      rfl

/-- The lines of a target, one for each input that it is probed with. -/
def lines (c : Config) (t : Target) (rules : List Rule) (cases : List Case) :
    Run (List (Option String)) :=
  (inputs c cases).mapM (probeInput c t rules cases)

theorem probeTarget_eq_map (t : Target) (rules : List Rule) (cases : List Case) (r : SuiteResult) :
    probeTarget c t rules cases r = (fun ls => ls.foldl count r) <$> lines c t rules cases :=
  probeInputs_eq_map t rules cases _ r

/-- The lines of targets with their own rules and cases, each on its own. -/
def linesOfEach (c : Config) (ts : List Target) : Run (List (List (Option String))) :=
  ts.mapM fun t => lines c t t.rules t.cases

theorem probeTargets_eq_map (ts : List Target) (r : SuiteResult) :
    probeTargets c ts r = (fun ls => ls.flatten.foldl count r) <$> linesOfEach c ts := by
  induction ts generalizing r with
  | nil => rfl
  | cons t rest ih =>
      rw [probeTargets, linesOfEach, List.mapM_cons, map_bind, probeTarget_eq_map, bind_map_left]
      refine bind_congr fun ls => ?_
      rw [ih, map_bind, map_eq_pure_bind]
      exact bind_congr fun rest => by simp [List.foldl_append]

/-- The default input stands in for cases that are missing. -/
theorem length_inputs (cases : List Case) : (inputs c cases).length = max 1 cases.length := by
  cases cases with
  | nil => rfl
  | cons k rest => simp [inputs]

theorem length_value_lines (t : Target) (rules : List Rule) (cases : List Case) (j : Journal) :
    ((lines c t rules cases).value j).length = max 1 cases.length := by
  rw [lines, Run.value_mapM, List.length_map, Run.length_visits, length_inputs]

theorem length_value_linesOfEach (ts : List Target) (j : Journal) :
    ((linesOfEach c ts).value j).flatten.length = (ts.map fun t => max 1 t.cases.length).sum := by
  rw [List.length_flatten, linesOfEach, Run.value_mapM, List.map_map]
  calc _ = ((Run.visits _ ts j).map ((fun t => max 1 t.cases.length) ∘ Prod.fst)).sum := by
        refine congrArg List.sum (List.map_congr_left fun v _ => ?_)
        exact length_value_lines v.1 v.1.rules v.1.cases v.2
    _ = (ts.map fun t => max 1 t.cases.length).sum := by
        rw [← List.map_map, Run.map_fst_visits]

/-! ### One suite -/

/-- The journal at which the rules of a suite are looked for. -/
def entered (s : Suite) (j : Journal) : Journal := j ++ Journal.ofEvents [runningEvent s]

/-- Whether a rule file loads and compiles, after `j`. -/
def Compiles (d : File.Disk) (registry : Registry) (path : Path) (j : Journal) : Prop :=
  ∃ f t compiled, RuleFile.load d path = .ok f ∧
    (compileFile registry f).value j = .ok (t, compiled)

/-- How many inputs a suite counts: every case of its targets, or the default input of a target
without cases. A rule file that does not load or compile counts as one. -/
def inputCount (d : File.Disk) (registry : Registry) (s : Suite) (j : Journal) : Nat :=
  match s.source with
  | .registered ts => (ts.map fun t => max 1 t.cases.length).sum
  | .file path =>
    match RuleFile.load d path with
    | .error _ => 1
    | .ok f =>
      match (compileFile registry f).value j with
      | .error _ => 1
      | .ok _ => max 1 f.cases.length

/-- A file is compiled against the target that it names. -/
theorem value_compileFile_eq_ok {f : RuleFile} {t : Target} {compiled : RuleFile.Compiled}
    {j : Journal} :
    (compileFile registry f).value j = .ok (t, compiled) ↔
      registry.target? f.target = some t ∧ (f.compile t).run.value j = .ok compiled := by
  rw [compileFile]
  cases registry.target? f.target with
  | none => simp
  | some t' =>
      simp only [Run.value_bind, Run.value_pure, Option.some.injEq]
      cases hcompile : (f.compile t').run.value j with
      | error fault =>
          constructor
          · intro h
            cases h
          · rintro ⟨rfl, h⟩
            rw [hcompile] at h
            cases h
      | ok compiled' =>
          constructor
          · intro h
            cases h
            exact ⟨rfl, hcompile⟩
          · rintro ⟨rfl, h⟩
            rw [hcompile] at h
            cases h
            rfl

theorem inputCount_of_not_compiles {path : Path} {j : Journal} (h : ¬ Compiles d registry path j)
    (name : String) : inputCount d registry ⟨name, .file path⟩ j = 1 := by
  rw [inputCount]
  dsimp only
  cases hload : RuleFile.load d path with
  | error fault => rfl
  | ok f =>
      dsimp only
      cases hcompile : (compileFile registry f).value j with
      | error fault => rfl
      | ok result => exact absurd ⟨f, result.1, result.2, hload, hcompile⟩ h

theorem length_cases_of_compileFile {f : RuleFile} {t : Target} {compiled : RuleFile.Compiled}
    {j : Journal} (h : (compileFile registry f).value j = .ok (t, compiled)) :
    compiled.cases.length = f.cases.length := by
  have hinputs := f.ensures_compile t j compiled (value_compileFile_eq_ok.mp h).2
  rw [← List.length_map, hinputs, List.length_map]

/-- The source of registered targets counts the lines of all of them. -/
theorem value_runSource_registered (name : String) (ts : List Target) (j : Journal) :
    (runSource d registry c ⟨name, .registered ts⟩).value j =
      counted name ((linesOfEach c ts).value j).flatten := by
  rw [runSource]
  dsimp only
  rw [probeTargets_eq_map]
  rfl

/-- The source of a rule file that loads and compiles counts the lines of its target. -/
theorem value_runSource_compiled {f : RuleFile} {path : Path} {t : Target}
    {compiled : RuleFile.Compiled} {j : Journal} (hload : RuleFile.load d path = .ok f)
    (hcompile : (compileFile registry f).value j = .ok (t, compiled)) (name : String) :
    (runSource d registry c ⟨name, .file path⟩).value j =
      counted (f.suiteName path) ((lines c t compiled.rules compiled.cases).value
        ((compileFile registry f).journal j)) := by
  rw [runSource]
  dsimp only
  rw [hload]
  dsimp only
  rw [Run.value_bind, hcompile]
  dsimp only
  rw [probeTarget_eq_map]
  rfl

/-- The source of a rule file that does not load has one failure, and nothing is done. -/
theorem runSource_of_load_error {path : Path} {fault : Fault}
    (hload : RuleFile.load d path = .error fault) (name : String) (j : Journal) :
    runSource d registry c ⟨name, .file path⟩ j =
      ((SuiteResult.empty name).fail (faultLine name fault), j) := by
  rw [runSource]
  dsimp only
  rw [hload]
  rfl

/-- The source of a rule file that does not compile has one failure, and nothing else is done. -/
theorem runSource_of_compile_error {path : Path} {f : RuleFile} {fault : Fault} {j : Journal}
    (hload : RuleFile.load d path = .ok f)
    (hcompile : (compileFile registry f).value j = .error fault) (name : String) :
    runSource d registry c ⟨name, .file path⟩ j =
      ((SuiteResult.empty (f.suiteName path)).fail (faultLine f.target fault),
        (compileFile registry f).journal j) := by
  rw [runSource]
  dsimp only
  rw [hload]
  refine Prod.ext ?_ ?_
  · show Run.value _ j = _
    rw [Run.value_bind, hcompile]
    rfl
  · show Run.journal _ j = _
    rw [Run.journal_bind, hcompile]
    rfl

/-- Compiling a file does not ask what its target answers to probes. -/
theorem compileFile_answering (answer : Target → Json → Run (Except Fault Json)) (f : RuleFile) :
    compileFile (registry.answering answer) f =
      (Except.map fun (t, compiled) => (t.answering (answer t), compiled)) <$>
        compileFile registry f := by
  rw [compileFile, compileFile, Registry.target?_answering]
  cases registry.target? f.target with
  | none => rfl
  | some t =>
      simp only [Option.map_some, map_bind, map_pure]
      have hsame : f.compile (t.answering (answer t)) = f.compile t := rfl
      rw [hsame]
      refine bind_congr fun result => ?_
      cases result <;> rfl

/-- Compiling a file adds what warnings and validations of inputs add. -/
theorem adds_compileFile {p : Entry → Prop} (hp : ∀ event, p (.logged false event))
    (hvalidate : ∀ t ∈ registry.latest, ∀ v, (t.validate v).Adds p) (f : RuleFile) :
    (compileFile registry f).Adds p := by
  rw [compileFile]
  cases htarget : registry.target? f.target with
  | none => exact Run.adds_pure _
  | some t =>
      have ht : t ∈ registry.latest := Registry.mem_latest_of_target? htarget
      exact (RuleFile.adds_compile hp f (hvalidate t ht)).bind fun _ => Run.adds_pure _

/-- A source adds what compiling its file and probing targets add. -/
theorem adds_runSource {p : Entry → Prop} (hp : ∀ event, p (.logged false event))
    (hvalidate : ∀ t ∈ registry.latest, ∀ v, (t.validate v).Adds p)
    (hprobe : ∀ (t : Target) (input : Json), (Run.probing c.quietProbes (t.probe input)).Adds p)
    (s : Suite) : (runSource d registry c s).Adds p := by
  obtain ⟨name, source⟩ := s
  rw [runSource]
  cases source with
  | registered ts => exact adds_probeTargets hp (fun t _ => hprobe t) _
  | file path =>
      dsimp only
      cases RuleFile.load d path with
      | error fault => exact Run.adds_pure _
      | ok f =>
          refine Run.Adds.bind (adds_compileFile hp hvalidate f) fun result => ?_
          cases result with
          | error fault => exact Run.adds_pure _
          | ok found => exact adds_probeInputs hp (hprobe found.1) _ _

/-- A source that does not load or compile has one failure. Whatever targets would answer to probes
makes no difference, and where they are those of handles no function is called. -/
theorem runSource_of_not_compiles {path : Path} {j : Journal} (h : ¬ Compiles d registry path j)
    (name : String) :
    (∃ name' line, (runSource d registry c ⟨name, .file path⟩).value j =
      (SuiteResult.empty name').fail line) ∧
    (∀ answer, runSource d (registry.answering answer) c ⟨name, .file path⟩ j =
      runSource d registry c ⟨name, .file path⟩ j) ∧
    ((∀ t ∈ registry.latest, t.OfHandle) →
      ∀ fn, ((runSource d registry c ⟨name, .file path⟩).journal j).callsOf fn = j.callsOf fn) := by
  cases hload : RuleFile.load d path with
  | error fault =>
      have hsource : ∀ registry, runSource d registry c ⟨name, .file path⟩ j =
          ((SuiteResult.empty name).fail (faultLine name fault), j) :=
        fun _ => runSource_of_load_error hload name j
      refine ⟨⟨_, _, congrArg Prod.fst (hsource registry)⟩, ?_, ?_⟩
      · intro answer
        rw [hsource, hsource]
      · intro _ fn
        rw [Run.journal, hsource]
  | ok f =>
      cases hcompile : (compileFile registry f).value j with
      | ok result => exact absurd ⟨f, result.1, result.2, hload, hcompile⟩ h
      | error fault =>
          have hsource := runSource_of_compile_error (c := c) hload hcompile name
          refine ⟨⟨_, _, congrArg Prod.fst hsource⟩, ?_, ?_⟩
          · intro answer
            have hcompile' :
                (compileFile (registry.answering answer) f).value j = .error fault := by
              rw [compileFile_answering, Run.value_map, hcompile]
              rfl
            rw [hsource, runSource_of_compile_error hload hcompile' name, compileFile_answering]
            rfl
          · intro hhandles fn
            rw [Run.journal, hsource]
            have hevents : ∀ event, (Entry.logged false event).isCallOf fn = false := fun _ => rfl
            have hvalidate : ∀ t ∈ registry.latest, ∀ v,
                (t.validate v).Adds fun e => e.isCallOf fn = false :=
              fun t ht v => (hhandles t ht).adds_validate hevents fun _ => rfl
            exact (adds_compileFile hevents hvalidate f).callsOf_eq j

def finishedEvent (r : SuiteResult) : LogEvent :=
  ⟨.info, "Suite finished", [("suite", r.name), ("passed", toString r.passed),
    ("failed", toString r.failed), ("duration_ms", toString r.millis)]⟩

theorem journal_runSuite (s : Suite) (j : Journal) :
    (runSuite d registry c s).journal j =
      (runSource d registry c s).journal (entered s j) ++
        Journal.ofEvents [finishedEvent ((runSuite d registry c s).value j)] := rfl

/-- A suite adds events before and after what its source adds. -/
theorem adds_runSuite {p : Entry → Prop} (hp : ∀ event, p (.logged false event)) {s : Suite}
    (hsource : (runSource d registry c s).Adds p) : (runSuite d registry c s).Adds p := by
  intro j
  obtain ⟨added, hadded, hall⟩ := hsource (entered s j)
  refine ⟨Journal.ofEvents [runningEvent s] ++ added ++
    Journal.ofEvents [finishedEvent ((runSuite d registry c s).value j)], ?_, ?_⟩
  · rw [journal_runSuite, hadded, entered]
    simp only [List.append_assoc]
  · have hlogged := Journal.forall_mem_ofEvents hp
    simp only [List.forall_mem_append]
    exact ⟨⟨hlogged _, hall⟩, hlogged _⟩

theorem adds_run {p : Entry → Prop} (hp : ∀ event, p (.logged false event)) {suites : List Suite}
    (hsources : ∀ s ∈ suites, (runSource d registry c s).Adds p) :
    (run d registry c suites).Adds p := by
  rw [run]
  induction suites with
  | nil => exact Run.adds_pure []
  | cons s rest ih =>
      obtain ⟨hs, hrest⟩ := List.forall_mem_cons.mp hsources
      rw [List.mapM_cons]
      refine Run.Adds.bind (adds_runSuite hp hs) fun r => ?_
      exact Run.Adds.bind (ih hrest) fun rs => Run.adds_pure _

/-- A suite does nothing but log before and after its source. -/
theorem runSuite_congr {registry' : Registry} {s : Suite} {j : Journal}
    (h : runSource d registry' c s (entered s j) = runSource d registry c s (entered s j)) :
    runSuite d registry' c s j = runSuite d registry c s j := by
  have hvalue : (runSuite d registry' c s).value j = (runSuite d registry c s).value j := by
    rw [value_runSuite, value_runSuite]
    show { (runSource d registry' c s (entered s j)).1 with
      duration := (runSource d registry' c s (entered s j)).2.clock - j.clock } = _
    rw [h]
    rfl
  refine Prod.ext hvalue ?_
  show (runSuite d registry' c s).journal j = (runSuite d registry c s).journal j
  rw [journal_runSuite, journal_runSuite, hvalue, Run.journal, h]
  rfl

/-- What the result `r` of a suite that is run after `j` owes to its inputs. -/
structure Accounted (d : File.Disk) (registry : Registry) (c : Config) (s : Suite) (j : Journal)
    (r : SuiteResult) : Prop where
  /-- There is a line for each failure. -/
  failed_eq : r.failed = r.failures.length
  /-- Every input is counted. -/
  total_eq : r.passed + r.failed = inputCount d registry s (entered s j)
  /-- A rule file that does not load or compile is one failure. No target is probed for it, so that
  handles are not called. -/
  refused : ∀ path, s.source = .file path → ¬ Compiles d registry path (entered s j) →
    r.passed = 0 ∧ r.failed = 1 ∧
    (∀ answer, runSuite d (registry.answering answer) c s j = runSuite d registry c s j) ∧
    ((∀ t ∈ registry.latest, t.OfHandle) →
      ∀ fn, ((runSuite d registry c s).journal j).callsOf fn = j.callsOf fn)

theorem Accounted.isSuccess_iff {s : Suite} {j : Journal} {r : SuiteResult}
    (h : Accounted d registry c s j r) : r.isSuccess = true ↔ r.failures = [] := by
  rw [SuiteResult.isSuccess, beq_iff_eq, h.failed_eq, List.length_eq_zero_iff]

/-- A suite counts what its source does. -/
theorem sameCounts_of_runSource {s : Suite} {j : Journal} {r : SuiteResult}
    (h : (runSource d registry c s).value (entered s j) = r) :
    ((runSuite d registry c s).value j).SameCounts r := by
  rw [← h]
  exact sameCounts_runSuite s j

/-- Counted lines are accounted for, if there is one for each input. -/
theorem accounted_of_counted {s : Suite} {j : Journal} {name : String} {ls : List (Option String)}
    (hsource : (runSource d registry c s).value (entered s j) = counted name ls)
    (hcount : inputCount d registry s (entered s j) = ls.length)
    (hcompiles : ∀ path, s.source = .file path → Compiles d registry path (entered s j)) :
    Accounted d registry c s j ((runSuite d registry c s).value j) := by
  have hsame := sameCounts_of_runSource hsource
  refine ⟨?_, ?_, ?_⟩
  · rw [hsame.failed, hsame.failures, failed_counted, failures_counted]
  · rw [hsame.passed, hsame.failed, passed_add_failed_counted, hcount]
  · exact fun path hpath hnot => absurd (hcompiles path hpath) hnot

theorem accounted_registered (name : String) (ts : List Target) (j : Journal) :
    let s : Suite := ⟨name, .registered ts⟩
    Accounted d registry c s j ((runSuite d registry c s).value j) := by
  intro s
  apply accounted_of_counted (value_runSource_registered name ts _)
  · exact (length_value_linesOfEach ts _).symm
  · exact fun path h => nomatch h

theorem accounted_compiled {path : Path} {name : String} {j : Journal}
    (h : Compiles d registry path (entered ⟨name, .file path⟩ j)) :
    let s : Suite := ⟨name, .file path⟩
    Accounted d registry c s j ((runSuite d registry c s).value j) := by
  intro s
  obtain ⟨f, t, compiled, hload, hcompile⟩ := id h
  apply accounted_of_counted (value_runSource_compiled hload hcompile name)
  · rw [length_value_lines, length_cases_of_compileFile hcompile, inputCount]
    simp only [hload, hcompile]
  · rintro path' ⟨⟩
    exact h

theorem accounted_refused {path : Path} {name : String} {j : Journal}
    (h : ¬ Compiles d registry path (entered ⟨name, .file path⟩ j)) :
    let s : Suite := ⟨name, .file path⟩
    Accounted d registry c s j ((runSuite d registry c s).value j) := by
  intro s
  obtain ⟨⟨name', line, hvalue⟩, hanswering, hcalls⟩ := runSource_of_not_compiles (c := c) h name
  have hsame := sameCounts_of_runSource hvalue
  have hpassed : ((runSuite d registry c s).value j).passed = 0 := hsame.passed
  have hfailed : ((runSuite d registry c s).value j).failed = 1 := hsame.failed
  have hfailures : ((runSuite d registry c s).value j).failures = [line] := hsame.failures
  refine ⟨?_, ?_, ?_⟩
  · rw [hfailed, hfailures, List.length_singleton]
  · rw [hpassed, hfailed, inputCount_of_not_compiles h]
  · intro path' hpath _
    refine ⟨hpassed, hfailed, fun answer => runSuite_congr (hanswering answer), ?_⟩
    intro hhandles fn
    rw [journal_runSuite, Journal.callsOf_append, Journal.callsOf_ofEvents, hcalls hhandles fn]
    simp [entered]

/-- Every suite is accounted for, whatever its functions and predicates do. -/
theorem accounted_runSuite (s : Suite) (j : Journal) :
    Accounted d registry c s j ((runSuite d registry c s).value j) := by
  obtain ⟨name, source⟩ := s
  cases source with
  | registered ts => exact accounted_registered name ts j
  | file path =>
      by_cases h : Compiles d registry path (entered ⟨name, .file path⟩ j)
      · exact accounted_compiled h
      · exact accounted_refused h

/-! ### Whole runs -/

/-- A suite counts something if it is not a group without targets. -/
theorem inputCount_pos {s : Suite} (hs : ∀ ts, s.source = .registered ts → ts ≠ []) (j : Journal) :
    0 < inputCount d registry s j := by
  obtain ⟨name, source⟩ := s
  cases source with
  | registered ts =>
      obtain ⟨t, ts, rfl⟩ := List.exists_cons_of_ne_nil (hs ts rfl)
      rw [inputCount]
      simp only [List.map_cons, List.sum_cons]
      omega
  | file path =>
      by_cases h : Compiles d registry path j
      · obtain ⟨f, t, compiled, hload, hcompile⟩ := h
        rw [inputCount]
        simp only [hload, hcompile]
        omega
      · rw [inputCount_of_not_compiles h]
        exact Nat.one_pos

/-- **A run accounts for every input.** Let the registry come from adding targets, and let the
suites be those of the registry and rule files of any kind. The run gives one result for each suite,
in order. Each result has a line for each failure, and counts one outcome for each input of its
targets; a rule file that does not load or compile is one failure, and no function is called for it.
So no result is empty, a suite succeeds exactly when it has no line, and the totals are the sums of
what the suites count. -/
theorem run_accounts (additions : List Registry.Addition) (j₀ : Journal) (d : File.Disk)
    (c : Config) (suites : List Suite) (j : Journal)
    (hsuites : ∀ s ∈ suites,
      s ∈ Discovery.registeredSuites ((Registry.empty.addAll additions).value j₀) ∨
        ∃ path, s.source = .file path) :
    let registry := (Registry.empty.addAll additions).value j₀
    let results := (run d registry c suites).value j
    let visits := Run.visits (runSuite d registry c) suites j
    visits.map Prod.fst = suites ∧
    List.Forall₂ (fun v r => r = (runSuite d registry c v.1).value v.2 ∧
      Accounted d registry c v.1 v.2 r) visits results ∧
    (∀ r ∈ results, 0 < r.passed + r.failed ∧ (r.isSuccess = true ↔ r.failures = [])) ∧
    SuiteResult.totalPassed results = (results.map SuiteResult.passed).sum ∧
    SuiteResult.totalFailed results = (results.map fun r => r.failures.length).sum ∧
    SuiteResult.totalPassed results + SuiteResult.totalFailed results =
      (visits.map fun v => inputCount d registry v.1 (entered v.1 v.2)).sum := by
  intro registry results visits
  have hresults : results = visits.map fun v => (runSuite d registry c v.1).value v.2 :=
    Run.value_mapM _ suites j
  have haccounted : ∀ v : Suite × Journal,
      Accounted d registry c v.1 v.2 ((runSuite d registry c v.1).value v.2) :=
    fun v => accounted_runSuite v.1 v.2
  refine ⟨Run.map_fst_visits _ suites j, ?each, ?nonempty, totalPassed_eq_sum results, ?failed,
    ?total⟩
  case each =>
    rw [hresults, List.forall₂_map_right_iff, List.forall₂_same]
    exact fun v _ => ⟨rfl, haccounted v⟩
  case nonempty =>
    rw [hresults, List.forall_mem_map]
    intro v hv
    refine ⟨?_, (haccounted v).isSuccess_iff⟩
    rw [(haccounted v).total_eq]
    refine inputCount_pos (fun ts hts => ?_) _
    rcases hsuites v.1 (Run.fst_mem_of_mem_visits hv) with hregistered | ⟨path, hpath⟩
    · obtain ⟨entry, hentry, heq⟩ := List.mem_map.mp hregistered
      rw [← heq] at hts
      cases hts
      exact Registry.ne_nil_of_mem_suites additions j₀ entry hentry
    · rw [hpath] at hts
      cases hts
  case failed =>
    rw [totalFailed_eq_sum, hresults, List.map_map, List.map_map]
    exact congrArg List.sum (List.map_congr_left fun v _ => (haccounted v).failed_eq)
  case total =>
    rw [totalPassed_eq_sum, totalFailed_eq_sum, hresults, List.map_map, List.map_map,
      ← List.sum_map_add]
    exact congrArg List.sum (List.map_congr_left fun v _ => (haccounted v).total_eq)

/-- A function of texts that panics, with one case. -/
def brokenLamp : Handle String String :=
  { name := "broken", number := 1, subject := fun _ _ => ⟨.panicked .other, [], 0⟩
    input := .text, output := .text, schema := .any
    rules := [], cases := [⟨.text "lamp", []⟩] }

/-- An echo and a function that panics in one suite, a rule file and one that is missing: four
inputs are counted. -/
theorem run_accounts_lamps :
    let registry := (Registry.empty.addAll
      [⟨"code", lampEcho.target⟩, ⟨"code", brokenLamp.target⟩]).value []
    let suites := Discovery.registeredSuites registry ++
      [⟨"lamp", .file ⟨"lamp.eval.yaml"⟩⟩, ⟨"missing", .file ⟨"missing.yaml"⟩⟩]
    let results := (run lampDisk registry .standard suites).value []
    (∀ s ∈ suites, s ∈ Discovery.registeredSuites registry ∨ ∃ path, s.source = .file path) ∧
    results.length = 3 ∧ SuiteResult.totalPassed results + SuiteResult.totalFailed results = 4 := by
  intro registry suites results
  have hsuites : ∀ s ∈ suites,
      s ∈ Discovery.registeredSuites registry ∨ ∃ path, s.source = .file path := by
    intro s hs
    rcases List.mem_append.mp hs with hs | hs
    · exact .inl hs
    · rcases List.mem_pair.mp hs with rfl | rfl
      · exact .inr ⟨_, rfl⟩
      · exact .inr ⟨_, rfl⟩
  obtain ⟨hvisits, heach, -, -, -, htotal⟩ := run_accounts
    [⟨"code", lampEcho.target⟩, ⟨"code", brokenLamp.target⟩] [] lampDisk .standard suites [] hsuites
  refine ⟨hsuites, ?_, htotal.trans (by decide +kernel)⟩
  rw [← heach.length_eq, ← List.length_map, hvisits]
  rfl

end Runner
end CallCheck
