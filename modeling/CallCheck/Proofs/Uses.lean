import CallCheck.Proofs.Accounts
import CallCheck.Proofs.Consultation

/-!
# Uses of a handle

A handle is used by declarations, calls, probes, compilations of rule files and runs in any order
(`Handle.useAll`). What a use consults a schema about is known from the handle as it is when its turn
comes (`Handle.consulted`, `Handle.turns`): declarations do nothing but ask
(`Handle.asks_afterDeclaring`), and uses that are free of the schema do the same whatever it is
(`Handle.journal_use_of_schemaFree`). `Handle.schema_consulted_once_per_case` follows a handle
through all its uses.
-/

namespace CallCheck

/-! ### Runs -/

namespace Runner

variable {d : File.Disk} {registry : Registry} {c : Config}

/-- A registry and suites whose targets are those of handles. -/
structure OfHandles (registry : Registry) (suites : List Suite) : Prop where
  latest : ∀ t ∈ registry.latest, t.OfHandle
  registered : ∀ s ∈ suites, ∀ ts, s.source = .registered ts → ∀ t ∈ ts, t.OfHandle

/-- The consultations of targets when a suite runs: those of the compilation of its file, if there is
one. -/
def consulted (d : File.Disk) (registry : Registry) (s : Suite) : List Consultation :=
  match s.source with
  | .registered _ => []
  | .file path =>
    match RuleFile.load d path with
    | .error _ => []
    | .ok f =>
      match registry.target? f.target with
      | none => []
      | some t => f.consulted t

/-- Probing cases consults no schema. -/
theorem adds_probeCases {t : Target} (ht : t.OfHandle) (rules : List Rule) (cases : List Case)
    (inputs : List Json) (r : SuiteResult) :
    (probeInputs c t rules cases inputs r).Adds Entry.Unconsulted :=
  adds_probeInputs (Entry.unconsulted_logged false) (ht.adds_probing _) inputs r

theorem consults_runSource {suites : List Suite} (h : OfHandles registry suites) {s : Suite}
    (hs : s ∈ suites) : (runSource d registry c s).Consults (consulted d registry s) := by
  obtain ⟨name, source⟩ := s
  rw [runSource, consulted]
  cases source with
  | registered ts =>
      have hprobe : ∀ t ∈ ts, ∀ input,
          (Run.probing c.quietProbes (t.probe input)).Adds Entry.Unconsulted :=
        fun t ht => (h.registered _ hs ts rfl t ht).adds_probing _
      exact (adds_probeTargets (Entry.unconsulted_logged false) hprobe _).consults_nil
  | file path =>
      dsimp only
      cases RuleFile.load d path with
      | error fault => exact Run.consults_pure _
      | ok f =>
          dsimp only
          rw [compileFile]
          cases htarget : registry.target? f.target with
          | none => exact Run.consults_pure _
          | some t =>
              have ht : t.OfHandle := h.latest t (Registry.mem_latest_of_target? htarget)
              dsimp only
              rw [bind_assoc, ← List.append_nil (f.consulted t)]
              refine (RuleFile.consults_compile ht f).bind fun j => ?_
              -- a file that is compiled goes on with probes of the target
              cases (f.compile t).run.value j with
              | error fault => exact Run.consults_pure _
              | ok compiled => exact (adds_probeCases ht _ _ _ _).consults_nil

theorem consults_runSuite {suites : List Suite} (h : OfHandles registry suites) {s : Suite}
    (hs : s ∈ suites) : (runSuite d registry c s).Consults (consulted d registry s) := by
  intro j
  obtain ⟨added, hadded, htold⟩ := consults_runSource h hs (entered s j)
  have hrunning := Journal.tells_ofEvents [runningEvent s]
  have hfinished := Journal.tells_ofEvents [finishedEvent ((runSuite d registry c s).value j)]
  have hall := hrunning.append (htold.append hfinished)
  rw [List.nil_append, List.append_nil] at hall
  refine ⟨_, ?_, hall⟩
  rw [journal_runSuite, hadded, entered, List.append_assoc, List.append_assoc]

theorem consults_run {suites : List Suite} (h : OfHandles registry suites) :
    (run d registry c suites).Consults (suites.flatMap (consulted d registry)) := by
  rw [run]
  exact Run.consults_mapM fun s hs => consults_runSuite h hs

end Runner

/-! ### Uses of a handle -/

/-- Something that is done with a handle. Runs are given a registry and suites that may have the
handle, as it is by then, as a target. -/
inductive Use (ι : Type) where
  | declare (declaration : Declaration ι)
  | call (input : ι)
  | checkedCall (input : ι)
  | plainCall (input : ι)
  | probe (input : Json)
  | probeTarget (c : Config) (rules : List Rule) (cases : List Case)
  | compile (f : RuleFile)
  | run (d : File.Disk) (c : Config) (registry : Target → Registry)
    (suites : Target → List Suite)

/-- Whether all targets that are run are those of handles. -/
def Use.OnHandles {ι : Type} : Use ι → Prop
  | .run _ _ registry suites => ∀ t, t.OfHandle → Runner.OfHandles (registry t) (suites t)
  | _ => True

/-- Whether nothing is declared for an exact input, and no file is compiled or run: calls, probes
and declarations of the other kinds. -/
def Use.SchemaFree {ι : Type} : Use ι → Prop
  | .declare (.forInput _ _) | .compile _ | .run .. => False
  | _ => True

namespace Handle

variable {ι ο : Type}

/-- Does something with a handle, and gives the handle as it is afterwards. -/
def use (h : Handle ι ο) : Use ι → Run (Handle ι ο)
  | .declare declaration => h.afterDeclaring declaration
  | .call input => (fun _ => h) <$> h.call input
  | .checkedCall input => (fun _ => h) <$> h.checkedCall input
  | .plainCall input => (fun _ => h) <$> h.plainCall input
  | .probe input => (fun _ => h) <$> h.probe input
  | .probeTarget c rules cases =>
    (fun _ => h) <$> Runner.probeTarget c h.target rules cases (.empty h.name)
  | .compile f => (fun _ => h) <$> (f.compile h.target).run
  | .run d c registry suites =>
    (fun _ => h) <$> Runner.run d (registry h.target) c (suites h.target)

def useAll (h : Handle ι ο) (us : List (Use ι)) : Run (Handle ι ο) := us.foldlM use h

/-- The handle after a use: only declarations change it. -/
def afterUse (h : Handle ι ο) : Use ι → Handle ι ο
  | .declare declaration => h.extended (declaration.rule? h.input h.schema).toList
  | _ => h

/-- The uses of a handle in order, each with the handle as it is when its turn comes. -/
def turns (h : Handle ι ο) : List (Use ι) → List (Handle ι ο × Use ι)
  | [] => []
  | u :: us => (h, u) :: turns (h.afterUse u) us

/-- The consultations in a use of a handle: that about the input of a declaration for an exact input,
if it can be written, and those of the compilations of rule files. -/
def consulted (h : Handle ι ο) : Use ι → List Consultation
  | .declare (.forInput input _) => (h.input.encode input).toOption.toList.flatMap h.schema.asked
  | .compile f => f.consulted h.target
  | .run d _ registry suites => (suites h.target).flatMap (Runner.consulted d (registry h.target))
  | _ => []

theorem value_use (h : Handle ι ο) (u : Use ι) (j : Journal) :
    (h.use u).value j = h.afterUse u := by
  cases u with
  | declare declaration => exact h.value_afterDeclaring declaration j
  | call | checkedCall | plainCall | probe | probeTarget | compile | run => rfl

/-- A declaration for an exact input consults the schema once, if the input can be written. -/
theorem asks_forInput (h : Handle ι ο) (input : ι) (ps : List Predicate) :
    (h.forInput input ps).Asks ((h.input.encode input).toOption.toList.flatMap h.schema.asked) := by
  rw [forInput]
  cases h.input.encode input with
  | error reason => exact Run.asks_pure _
  | ok v =>
      -- whatever the verdict, the rest of the declaration asks nothing
      show Run.Asks _ (h.schema.asked v ++ [])
      refine (h.schema.asks_consult v).bind fun j => ?_
      cases (h.schema.consult v).value j with
      | error fault => exact Run.asks_pure _
      | ok _ => exact Run.asks_pure _

/-- A declaration does nothing but consult the schema, if it is for an exact input. -/
theorem asks_afterDeclaring (h : Handle ι ο) (declaration : Declaration ι) :
    (h.afterDeclaring declaration).Asks (h.consulted (.declare declaration)) := by
  cases declaration with
  | forAll ps => exact Run.asks_pure _
  | forInputContaining text ps => exact Run.asks_pure _
  | forInput input ps =>
      exact (h.asks_forInput input ps).map fun result => result.toOption.getD h

/-- Uses that are free of the schema do the same whatever the schema is. -/
theorem journal_use_of_schemaFree (h : Handle ι ο) (s : InputSchema) {u : Use ι}
    (hu : u.SchemaFree) (j : Journal) :
    (({ h with schema := s } : Handle ι ο).use u).journal j = (h.use u).journal j := by
  cases u with
  | declare declaration =>
      cases declaration with
      | forAll | forInputContaining => rfl
      | forInput => exact hu.elim
  | call | checkedCall | plainCall | probe => rfl
  | probeTarget c rules cases =>
      -- the two targets have one name and one probe
      have hprobe (input : Json) :
          Runner.probeInput c ({ h with schema := s } : Handle ι ο).target rules cases input =
            Runner.probeInput c h.target rules cases input := rfl
      exact congrArg (fun act : Run SuiteResult => act.journal j)
        (Runner.probeInputs_congr hprobe _ _)
  | compile | run => exact hu.elim

theorem consults_use (h : Handle ι ο) {u : Use ι} (hu : u.OnHandles) :
    (h.use u).Consults (h.consulted u) := by
  have htarget : h.target.OfHandle := ⟨ι, ο, h, rfl⟩
  cases u with
  | declare declaration => exact (h.asks_afterDeclaring declaration).consults
  | call input => exact (h.adds_call input).consults_nil.map _
  | checkedCall input => exact (h.adds_checkedCall input).consults_nil.map _
  | plainCall input =>
      intro j
      exact (h.adds_checkedCall input).consults_nil j
  | probe input => exact (h.adds_probe input).consults_nil.map _
  | probeTarget c rules cases =>
      exact (Runner.adds_probeCases htarget rules cases _ _).consults_nil.map _
  | compile f => exact (RuleFile.consults_compile htarget f).map _
  | run d c registry suites => exact (Runner.consults_run (hu h.target htarget)).map _

theorem consults_useAll (h : Handle ι ο) {us : List (Use ι)} (hus : ∀ u ∈ us, u.OnHandles) :
    (h.useAll us).Consults ((h.turns us).flatMap fun turn => turn.1.consulted turn.2) := by
  induction us generalizing h with
  | nil => exact Run.consults_pure h
  | cons u us ih =>
      obtain ⟨hu, hrest⟩ := List.forall_mem_cons.mp hus
      rw [useAll, List.foldlM_cons, turns, List.flatMap_cons]
      exact (h.consults_use hu).bind_of_value (h.value_use u) (ih (h.afterUse u) hrest)

theorem afterUse_keeps (h : Handle ι ο) (u : Use ι) :
    (h.afterUse u).input = h.input ∧ (h.afterUse u).schema = h.schema := by
  cases u with
  | declare | call | checkedCall | plainCall | probe | probeTarget | compile | run =>
      exact ⟨rfl, rfl⟩

/-- A handle keeps its codec and its schema, whatever is done with it. -/
theorem turns_keep (h : Handle ι ο) (us : List (Use ι)) :
    ∀ turn ∈ h.turns us, turn.1.input = h.input ∧ turn.1.schema = h.schema := by
  induction us generalizing h with
  | nil => exact fun _ hturn => absurd hturn List.not_mem_nil
  | cons u us ih =>
      obtain ⟨hinput, hschema⟩ := h.afterUse_keeps u
      refine List.forall_mem_cons.mpr ⟨⟨rfl, rfl⟩, fun turn hturn => ?_⟩
      rw [← hinput, ← hschema]
      exact ih (h.afterUse u) turn hturn

/-- The handle of a turn is what the uses before it have left. -/
theorem turns_append (h : Handle ι ο) (before us : List (Use ι)) (j : Journal) :
    h.turns (before ++ us) = h.turns before ++ ((h.useAll before).value j).turns us := by
  induction before generalizing h j with
  | nil => rfl
  | cons u before ih =>
      rw [List.cons_append, turns, turns, List.cons_append, useAll, List.foldlM_cons,
        Run.value_bind, value_use, ← useAll, ← ih]

/-- **Schemas are consulted once for each declared case, and never to execute.** Let a handle be
used in any way: declarations, calls and probes of all kinds, compilations of rule files against it,
and runs of suites of handles, this one as it is by then among them. Each declaration for an exact
input that can be written consults the schema about what is written. Each compilation of a rule file
does so about the inputs of its cases, up to the one at which it stops, or about none if an entry
before the cases means nothing. These are all consultations, in this order. In each of them a check
given as code is asked once: what it told of the input is put down, and its events stand right
behind. Calls, probes and declarations of the other kinds do the same with any other schema. To
consult is all that a declaration does, and a compilation only warns before it consults. One that no
case stops is one that succeeds, and what stops one is the schema or an entry. -/
theorem schema_consulted_once_per_case (h : Handle ι ο) (us : List (Use ι))
    (hus : ∀ u ∈ us, u.OnHandles) (j : Journal) :
    (∃ added, (h.useAll us).journal j = j ++ added ∧
      added.Tells ((h.turns us).flatMap fun turn => turn.1.consulted turn.2)) ∧
    (∀ before u after, us = before ++ u :: after →
      ∃ later, h.turns us = h.turns before ++ ((h.useAll before).value j, u) :: later) ∧
    (∀ turn ∈ h.turns us, turn.1.input = h.input ∧ turn.1.schema = h.schema) ∧
    (∀ (κ μ : Type) (h' : Handle κ μ) (v : Json),
      h'.target.accepts v = h'.schema.accepts v ∧ h'.target.asked v = h'.schema.asked v) ∧
    (∀ (h' : Handle ι ο) (s : InputSchema) (u : Use ι) (i : Journal), u.SchemaFree →
      (({ h' with schema := s } : Handle ι ο).use u).journal i = (h'.use u).journal i) ∧
    (∀ (h' : Handle ι ο) (declaration : Declaration ι) (i : Journal),
      (h'.afterDeclaring declaration).journal i =
        i ++ (h'.consulted (.declare declaration)).flatMap Consultation.entries) ∧
    ∀ (t : Target) (f : RuleFile) (i : Journal), t.OfHandle →
      (f.compile t).run.journal i =
        i ++ Journal.ofEvents f.warnings ++ (f.consulted t).flatMap Consultation.entries ∧
      ((∃ compiled, (f.compile t).run.value i = .ok compiled) ↔
        RuleFile.resolves f.leading = true ∧ ∀ e ∈ f.cases, e.compiles t = true) := by
  refine ⟨h.consults_useAll hus j, ?turns, h.turns_keep us, ?targets,
    fun h' s u i hu => h'.journal_use_of_schemaFree s hu i,
    fun h' declaration => h'.asks_afterDeclaring declaration,
    fun t f i ht => ⟨RuleFile.journal_compile ht f i, RuleFile.compiles_iff ht f i⟩⟩
  case turns =>
    rintro before u after rfl
    exact ⟨_, h.turns_append before (u :: after) j⟩
  case targets =>
    exact fun κ μ h' v => ⟨Target.accepts_target h' v, Target.asked_target h' v⟩

/-- An echo of texts whose schema refuses the empty one, and logs that it was asked. -/
def fussyLamp : Handle String String :=
  .register "echo" 0 (fun n s => ⟨.value s, [], n⟩) .text .text
    (.custom fun v => ⟨if v.text? = some "" then ["empty"] else [], [⟨.info, "asked", []⟩]⟩)

/-- The lamp is declared a case and called, a file is compiled that stops at its second case, and
the lamp is run in a suite of its own and by a rule file. -/
theorem schema_consulted_once_per_case_lamp :
    let f : RuleFile :=
      { name := none, target := "echo", forAll := [.bare "no_tools_called"], containing := []
        cases := [⟨.text "c", []⟩, ⟨.text "", []⟩, ⟨.text "d", []⟩], unknown := [] }
    let us : List (Use String) :=
      [.declare (.forAll []), .declare (.forInput "a" []), .checkedCall "a", .compile f,
        .run Runner.lampDisk .standard (fun t => Registry.empty.insert "code" t)
          fun t => [⟨"code", .registered [t]⟩, ⟨"lamp", .file ⟨"lamp.eval.yaml"⟩⟩]]
    (∀ u ∈ us, u.OnHandles) ∧
    ((fussyLamp.useAll us).journal []).consultations.map
      (fun c => (c.input.text?, c.told.value, c.told.events)) =
      [(some "a", [], [⟨.info, "asked", []⟩]), (some "c", [], [⟨.info, "asked", []⟩]),
        (some "", ["empty"], [⟨.info, "asked", []⟩]), (some "b", [], [⟨.info, "asked", []⟩])] := by
  intro f us
  have hus : ∀ u ∈ us, u.OnHandles := by
    simp only [us, List.forall_mem_cons]
    refine ⟨trivial, trivial, trivial, trivial, fun t ht => ⟨?_, ?_⟩, fun _ h => nomatch h⟩
    · intro t' ht'
      rwa [List.mem_singleton.mp ht']
    · intro s hs ts hts t' ht'
      rcases List.mem_pair.mp hs with rfl | rfl
      · cases hts
        rwa [List.mem_singleton.mp ht']
      · cases hts
  refine ⟨hus, ?_⟩
  obtain ⟨added, hadded, htold⟩ := (schema_consulted_once_per_case fussyLamp us hus []).1
  rw [hadded, List.nil_append, htold.consultations_eq]
  decide +kernel

end Handle
end CallCheck
