import CallCheck.Proofs.Accounts
import CallCheck.Proofs.Resolution

/-!
# Filtering suites by name

A filter selects suites before they run, by the names that discovery gives them; a result has the
name that the run gives its suite (`Runner.name_runSuite`). For registered suites these are the same,
and for rule files if the file has no name of its own. A run of the selected suites has the same
results as a run of all of them, but for those of other names (`Runner.forall₂_run_filter`), as long
as what a target answers does not depend on what happened before (`Registry.Steady`): the suites that
are left out do not run. `Runner.filter_selects_reported` puts this together.
-/

namespace CallCheck

/-! ### Steady runs -/

namespace Run

/-- A run whose value does not depend on what happened before. -/
def Steady {α : Type} (act : Run α) : Prop := ∀ j j', act.value j = act.value j'

theorem compositional_steady : Compositional fun _ act => act.Steady where
  pure _ := fun _ _ => rfl
  bind {_ _ act f} h hf := fun j j' => by
    rw [value_bind, value_bind, h j j']
    exact hf _ _ _

end Run

/-- A target whose validations and answers do not depend on what happened before. -/
structure Target.Steady (t : Target) : Prop where
  validate : ∀ v, (t.validate v).Steady
  probe : ∀ v, (t.probe v).Steady

/-- A function whose outcome depends on its input alone makes a steady target. -/
theorem Handle.steady_target {ι ο : Type} {h : Handle ι ο} (hsteady : h.subject.Steady) :
    h.target.Steady where
  validate v := fun j j' => by
    show (h.schema.consult v).value j = (h.schema.consult v).value j'
    rw [InputSchema.value_consult, InputSchema.value_consult]
  probe v := fun j j' => by
    show (h.probe v).value j = (h.probe v).value j'
    rw [value_probe, value_probe]
    exact h.probed_congr v fun typed => hsteady _ _ typed

/-- A registry of steady targets. -/
structure Registry.Steady (r : Registry) : Prop where
  suites : ∀ s ∈ r.suites, ∀ t ∈ s.2, t.Steady
  latest : ∀ t ∈ r.latest, t.Steady

namespace Runner

open Discovery (suites? fileSuite registeredSuites)

variable {d : File.Disk} {registry : Registry} {c : Config} {t : Target}

theorem steady_probeInput (ht : t.Steady) (rules : List Rule) (cases : List Case) (input : Json) :
    (probeInput c t rules cases input).Steady := by
  intro j j'
  rw [value_probeInput, value_probeInput, ht.probe input _ (asked c t input j')]

theorem steady_probeInputs (ht : t.Steady) (rules : List Rule) (cases : List Case)
    (inputs : List Json) (r : SuiteResult) : (probeInputs c t rules cases inputs r).Steady := by
  induction inputs generalizing r with
  | nil => exact Run.compositional_steady.pure r
  | cons input rest ih =>
      exact Run.compositional_steady.bind (steady_probeInput ht rules cases input) fun line =>
        ih (count r line)

theorem steady_probeTargets {ts : List Target} (hts : ∀ t ∈ ts, t.Steady) (r : SuiteResult) :
    (probeTargets c ts r).Steady := by
  induction ts generalizing r with
  | nil => exact Run.compositional_steady.pure r
  | cons t rest ih =>
      obtain ⟨ht, hrest⟩ := List.forall_mem_cons.mp hts
      exact Run.compositional_steady.bind (steady_probeInputs ht _ _ _ r) fun r => ih hrest r

theorem steady_probeFile (ht : t.Steady) (f : RuleFile) (r : SuiteResult) :
    (probeFile c t f r).Steady := by
  have hentries := RuleFile.compileEntries_of_compositional Run.compositional_steady f ht.validate
  refine Run.compositional_steady.bind hentries fun result => ?_
  cases result with
  | error fault => exact Run.compositional_steady.pure _
  | ok compiled => exact steady_probeInputs ht _ _ _ r

/-- A suite of steady targets counts the same whenever it runs. -/
theorem steady_runSource (hregistry : registry.Steady) {s : Suite}
    (hs : ∀ ts, s.source = .registered ts → ∀ t ∈ ts, t.Steady) :
    (runSource d registry c s).Steady := by
  obtain ⟨name, source⟩ := s
  cases source with
  | registered ts => exact steady_probeTargets (hs ts rfl) (.empty name)
  | file path =>
      intro j j'
      cases hload : RuleFile.load d path with
      | error fault =>
          rw [Run.value, Run.value, runSource_of_load_error hload, runSource_of_load_error hload]
      | ok f =>
          cases htarget : registry.target? f.target with
          | none =>
              have hcompile : ∀ j, (compileFile registry f).value j =
                  .error (.unknownTarget f.target) := by
                intro j
                rw [compileFile, htarget]
                rfl
              rw [Run.value, Run.value, runSource_of_compile_error hload (hcompile j),
                runSource_of_compile_error hload (hcompile j')]
          | some t =>
              have ht : t.Steady := hregistry.latest t (Registry.mem_latest_of_target? htarget)
              rw [Run.value, Run.value, runSource_file hload htarget, runSource_file hload htarget]
              exact steady_probeFile ht f _ _ _

theorem sameCounts_of_steady {s : Suite} (h : (runSource d registry c s).Steady) (j j' : Journal) :
    ((runSuite d registry c s).value j).SameCounts ((runSuite d registry c s).value j') := by
  have hsame : ((runSuite d registry c s).value j).SameCounts
      ((runSource d registry c s).value (j' ++ Journal.ofEvents [runningEvent s])) := by
    rw [h _ (j ++ Journal.ofEvents [runningEvent s])]
    exact sameCounts_runSuite s j
  exact hsame.trans (sameCounts_runSuite s j').symm

/-! ### Reported names -/

/-- The name of the result of a suite: a rule file that loads may have one of its own. -/
def reportedName (d : File.Disk) (s : Suite) : String :=
  match s.source with
  | .registered _ => s.name
  | .file path =>
    match RuleFile.load d path with
    | .ok f => f.suiteName path
    | .error _ => s.name

theorem name_counted (name : String) (lines : List (Option String)) :
    (counted name lines).name = name := by
  rw [counted, foldl_count]
  rfl

theorem name_runSource (s : Suite) (j : Journal) :
    ((runSource d registry c s).value j).name = reportedName d s := by
  obtain ⟨name, source⟩ := s
  cases source with
  | registered ts =>
      rw [value_runSource_registered, name_counted]
      rfl
  | file path =>
      rw [reportedName]
      dsimp only
      cases hload : RuleFile.load d path with
      | error fault =>
          rw [Run.value, runSource_of_load_error hload]
          rfl
      | ok f =>
          cases hcompile : (compileFile registry f).value j with
          | error fault =>
              rw [Run.value, runSource_of_compile_error hload hcompile]
              rfl
          | ok result => rw [value_runSource_compiled hload hcompile, name_counted]

/-- A suite has one result, of the reported name. -/
theorem name_runSuite (s : Suite) (j : Journal) :
    ((runSuite d registry c s).value j).name = reportedName d s :=
  name_runSource s _

theorem value_run_cons (s : Suite) (ss : List Suite) (j : Journal) :
    (run d registry c (s :: ss)).value j =
      (runSuite d registry c s).value j ::
        (run d registry c ss).value ((runSuite d registry c s).journal j) := by
  rw [run, List.mapM_cons]
  rfl

/-- A run has one result for each suite, in order, of the reported name. -/
theorem map_name_run (ss : List Suite) (j : Journal) :
    ((run d registry c ss).value j).map SuiteResult.name = ss.map (reportedName d) := by
  induction ss generalizing j with
  | nil => rfl
  | cons s ss ih => rw [value_run_cons, List.map_cons, List.map_cons, name_runSuite, ih]

/-! ### Filtered runs -/

/-- The results of selected suites are those of all suites, but for those of other names, if suites
are selected by the names that are reported. The counts are the same if the suites are steady, under
whatever condition `Q` they are. -/
theorem forall₂_run_filter {selected : Suite → Bool} {named : String → Bool} {Q : Prop}
    {ss : List Suite} (hnamed : ∀ s ∈ ss, selected s = named (reportedName d s))
    (hsteady : Q → ∀ s ∈ ss, (runSource d registry c s).Steady) (j j' : Journal) :
    List.Forall₂ (fun r r' => r.name = r'.name ∧ (Q → r.SameCounts r'))
      ((run d registry c (ss.filter selected)).value j)
      (((run d registry c ss).value j').filter fun r => named r.name) := by
  induction ss generalizing j j' with
  | nil => exact .nil
  | cons s ss ih =>
      obtain ⟨hs, hnamed⟩ := List.forall_mem_cons.mp hnamed
      have hrest := ih hnamed fun hQ => (List.forall_mem_cons.mp (hsteady hQ)).2
      rw [value_run_cons, List.filter_cons, List.filter_cons, name_runSuite, hs]
      split
      · rw [value_run_cons]
        refine .cons ⟨?_, fun hQ => ?_⟩ (hrest _ _)
        · rw [name_runSuite, name_runSuite]
        · exact sameCounts_of_steady (hsteady hQ s List.mem_cons_self) j j'
      · exact hrest _ _

/-- The suites of a registry are steady if its targets are, and so are those of rule files. -/
theorem steady_of_mem_suites (hregistry : registry.Steady) {files : List Path} {s : Suite}
    (hs : s ∈ registeredSuites registry ++ files.map fileSuite) :
    (runSource d registry c s).Steady := by
  refine steady_runSource hregistry fun ts hts => ?_
  rcases List.mem_append.mp hs with hs | hs
  · obtain ⟨⟨name, ts'⟩, hmem, rfl⟩ := List.mem_map.mp hs
    obtain rfl := Source.registered.inj hts
    exact hregistry.suites _ hmem
  · obtain ⟨path, -, rfl⟩ := List.mem_map.mp hs
    cases hts

/-- The reported name is the one that discovery gives, but for files with a name of their own. -/
theorem accepts_reportedName {pattern : Glob.Pattern} {files : List Path} {s : Suite}
    (hs : s ∈ registeredSuites registry ++ files.map fileSuite)
    (hnames : ∀ path f name, s = fileSuite path → RuleFile.load d path = .ok f →
      f.name = some name → pattern.accepts name = pattern.accepts (RuleFile.suiteNameOf path)) :
    pattern.accepts s.name = pattern.accepts (reportedName d s) := by
  rcases List.mem_append.mp hs with hs | hs
  · obtain ⟨⟨name, ts⟩, -, rfl⟩ := List.mem_map.mp hs
    rfl
  · obtain ⟨path, -, rfl⟩ := List.mem_map.mp hs
    rw [reportedName]
    show _ = pattern.accepts (match RuleFile.load d path with
      | .ok f => f.suiteName path
      | .error _ => RuleFile.suiteNameOf path)
    cases hload : RuleFile.load d path with
    | error fault => rfl
    | ok f =>
        dsimp only
        rw [RuleFile.suiteName]
        cases hname : f.name with
        | none => rfl
        | some name => exact (hnames path f name rfl hload hname).symm

theorem mapM_ofText {text : String} {pattern : Glob.Pattern}
    (h : Glob.Pattern.ofText text = .ok pattern) :
    (some text).mapM Glob.Pattern.ofText = .ok (some pattern) := by
  rw [Option.mapM_some, h]
  rfl

/-- **A filter selects the results of the names it accepts, unless a rule file is given another name
that the filter tells apart.** All suites are the registered ones, in the order of the registry, and
those of rule files in the order of their paths. If the filter accepts the name in a rule file exactly
if it accepts the one that its path gives it, then a run of the suites that it selects has the results
of a run of all suites that have an accepted name, in the same order: results of the same names, and
with the same counts and lines if no target answers by what happened before. -/
theorem filter_selects_reported (d : File.Disk) (registry : Registry) (c : Config)
    (arguments : List String) (root : Path) (text : String) (pattern : Glob.Pattern)
    (hpattern : Glob.Pattern.ofText text = .ok pattern) (all : List Suite)
    (hall : suites? d registry arguments root c none = .ok all) :
    ∃ (files : List Path) (selected : List Suite),
      all = registeredSuites registry ++ files.map fileSuite ∧
      (files.Pairwise fun p q => p.le q = true) ∧
      suites? d registry arguments root c (some text) = .ok selected ∧
      ((∀ path f name, fileSuite path ∈ all → RuleFile.load d path = .ok f → f.name = some name →
          pattern.accepts name = pattern.accepts (RuleFile.suiteNameOf path)) →
        ∀ j j', List.Forall₂
          (fun r r' => r.name = r'.name ∧ (registry.Steady → r.SameCounts r'))
          ((run d registry c selected).value j)
          (((run d registry c all).value j').filter fun r => pattern.accepts r.name)) := by
  obtain ⟨files, hfiles, rfl⟩ := Discovery.suites?_none_eq_ok_iff.mp hall
  refine ⟨files, _, rfl, Discovery.pairwise_suiteFiles hfiles,
    Discovery.suites?_eq_ok_iff.mpr ⟨_, mapM_ofText hpattern, _, hfiles, rfl⟩,
    fun hnames j j' => forall₂_run_filter (fun s hs => ?named) (fun hsteady s hs => ?steady) j j'⟩
  case named =>
    exact accepts_reportedName hs fun path f name hpath => hnames path f name (hpath ▸ hs)
  case steady => exact steady_of_mem_suites hsteady hs

def lampRegistry : Registry := Registry.empty.insert "code" lampEcho.target

theorem steady_lampRegistry : lampRegistry.Steady := by
  have hsteady : lampEcho.target.Steady := Handle.steady_target fun _ _ _ => rfl
  refine ⟨fun s hs t ht => ?_, fun t ht => ?_⟩
  · obtain rfl := List.mem_singleton.mp hs
    exact List.mem_singleton.mp ht ▸ hsteady
  · exact List.mem_singleton.mp ht ▸ hsteady

/-- A disk with one rule file has one suite for it. -/
theorem suites?_of_one_file {registry : Registry} {path : Path}
    (hfiles : (if d.isDirectory ⟨"."⟩ then Discovery.ruleFiles d c ⟨"."⟩ else []) = [path]) :
    suites? d registry [] ⟨"."⟩ c none = .ok (registeredSuites registry ++ [fileSuite path]) :=
  Discovery.suites?_none_eq_ok_iff.mpr ⟨[path], congrArg Except.ok hfiles, rfl⟩

/-- A rule file without a name of its own is selected by the name that it has in the results. -/
theorem filter_selects_reported_lamp : ∃ pattern all selected,
    Glob.Pattern.ofText "l*" = .ok pattern ∧
    suites? lampDisk lampRegistry [] ⟨"."⟩ .standard none = .ok all ∧
    suites? lampDisk lampRegistry [] ⟨"."⟩ .standard (some "l*") = .ok selected ∧
    List.Forall₂ (fun r r' => r.name = r'.name ∧ r.SameCounts r')
      ((run lampDisk lampRegistry .standard selected).value [])
      (((run lampDisk lampRegistry .standard all).value []).filter fun r =>
        pattern.accepts r.name) := by
  have hpattern : Glob.Pattern.ofText "l*" = .ok [.literal 'l', .anyRun] := by decide +kernel
  have hall : suites? lampDisk lampRegistry [] ⟨"."⟩ .standard none =
      .ok (registeredSuites lampRegistry ++ [fileSuite ⟨"./lamp.eval.yaml"⟩]) :=
    suites?_of_one_file (by decide +kernel)
  have hload : ((RuleFile.load lampDisk ⟨"./lamp.eval.yaml"⟩).toOption.all fun f =>
      f.name.isNone) = true := by decide +kernel
  obtain ⟨files, selected, -, -, hselected, hresults⟩ := filter_selects_reported lampDisk
    lampRegistry .standard [] ⟨"."⟩ "l*" _ hpattern _ hall
  refine ⟨_, _, selected, hpattern, hall, hselected, ?_⟩
  refine (hresults (fun path f name hpath hf hname => ?_) [] []).imp fun r r' h =>
    ⟨h.1, h.2 steady_lampRegistry⟩
  -- the only rule file has no name
  rcases List.mem_append.mp hpath with hpath | hpath
  · obtain ⟨_, -, hsuite⟩ := List.mem_map.mp hpath
    cases congrArg Suite.source hsuite
  · obtain rfl : path = ⟨"./lamp.eval.yaml"⟩ :=
      Source.file.inj (congrArg Suite.source (List.mem_singleton.mp hpath))
    rw [hf] at hload
    have hnone : f.name.isNone = true := hload
    rw [hname] at hnone
    cases hnone

/-- A disk with one rule file, which has a name of its own. -/
def torchDisk : File.Disk :=
  let text := "name: torch\ntarget: echo\ncases:\n- input: lamp\n"
  ⟨.directory [("lamp.eval.yaml", .file text.toUTF8)], []⟩

/-- A filter for the name in a rule file selects nothing, although a run of all suites has a result
of that name. -/
theorem filter_misses_named_file : ∃ pattern all,
    Glob.Pattern.ofText "torch" = .ok pattern ∧
    suites? torchDisk lampRegistry [] ⟨"."⟩ .standard none = .ok all ∧
    (∃ r ∈ (run torchDisk lampRegistry .standard all).value [], pattern.accepts r.name = true) ∧
    suites? torchDisk lampRegistry [] ⟨"."⟩ .standard (some "torch") = .ok [] := by
  have hfiles : (if torchDisk.isDirectory ⟨"."⟩ then
      Discovery.ruleFiles torchDisk .standard ⟨"."⟩ else []) = [⟨"./lamp.eval.yaml"⟩] := by
    decide +kernel
  have hpattern : Glob.Pattern.ofText "torch" = .ok ("torch".toList.map .literal) := by
    decide +kernel
  refine ⟨_, _, hpattern, suites?_of_one_file hfiles, ?result, ?filtered⟩
  case result =>
    have hname : reportedName torchDisk (fileSuite ⟨"./lamp.eval.yaml"⟩) = "torch" := by
      decide +kernel
    have hmem : "torch" ∈ ((run torchDisk lampRegistry .standard
        (registeredSuites lampRegistry ++ [fileSuite ⟨"./lamp.eval.yaml"⟩])).value []).map
          SuiteResult.name := by
      rw [map_name_run, List.map_append, List.map_singleton, hname]
      exact List.mem_append_right _ List.mem_cons_self
    obtain ⟨r, hr, hrname⟩ := List.mem_map.mp hmem
    refine ⟨r, hr, ?_⟩
    rw [hrname]
    decide +kernel
  case filtered =>
    have hcode : Glob.Pattern.accepts ("torch".toList.map .literal) "code" = false := by
      decide +kernel
    have hlamp : Glob.Pattern.accepts ("torch".toList.map .literal)
        (RuleFile.suiteNameOf ⟨"./lamp.eval.yaml"⟩) = false := by
      decide +kernel
    refine Discovery.suites?_eq_ok_iff.mpr ⟨_, mapM_ofText hpattern, _,
      congrArg Except.ok hfiles, List.filter_eq_nil_iff.mpr fun s hs => ?_⟩
    rcases List.mem_append.mp hs with hs | hs
    · obtain rfl := List.mem_singleton.mp hs
      exact Bool.eq_false_iff.mp hcode
    · obtain rfl := List.mem_singleton.mp hs
      exact Bool.eq_false_iff.mp hlamp

end Runner
end CallCheck
