import CallCheck.RuleFile.Basic
import CallCheck.Proofs.Blind
import CallCheck.Proofs.Declaration

/-!
# Rule files as declarations

Compiling a rule file warns of the keys that mean nothing and then goes through the entries
(`RuleFile.run_compile`); the warnings are events, so a blind target gives the same rules with or
without them. A property of runs that is kept by sequencing holds of a compilation if it holds of
warnings and validations (`RuleFile.compileEntries_of_compositional`). What is compiled has the
inputs of the file as the inputs of its cases (`RuleFile.ensures_compile`). When every entry resolves
and every input is accepted, the compilation is known in closed form (`RuleFile.compiled`). Written
as declarations (`RuleFile.declarations`), the same entries add the same rules and cases to a handle:
both are one rule for each entry, in the order of the file.
-/

namespace CallCheck
namespace RuleFile

variable {α β : Type}

/-! ### Warnings -/

def warning (f : RuleFile) (key : String) : LogEvent :=
  ⟨.warn, "Skipping unknown rule kind", [("target_name", f.target), ("kind", key)]⟩

def warnings (f : RuleFile) : List LogEvent := f.unknown.map fun field => f.warning field.1

/-- The compilation of the entries of a file. -/
def compileEntries (f : RuleFile) (t : Target) : Compilation Compiled := do
  let always ← alwaysRules f
  let containing ← f.containing.mapM substringRule
  let cases ← f.cases.mapM (caseOf t)
  return ⟨always ++ containing ++ cases.map ruleOfCase, cases⟩

/-- A compilation warns first and then compiles the entries. -/
theorem run_compile (f : RuleFile) (t : Target) (j : Journal) :
    (f.compile t).run j = (f.compileEntries t).run (j ++ Journal.ofEvents f.warnings) := by
  rw [compile, warnings]
  induction f.unknown generalizing j with
  | nil =>
      rw [List.map_nil, Journal.ofEvents_nil, List.append_nil]
      rfl
  | cons field rest ih =>
      rw [List.forIn_cons]
      -- the first round of the loop logs the first warning
      refine (ih (j ++ Journal.ofEvents [f.warning field.1])).trans ?_
      rw [List.append_assoc, ← Journal.ofEvents_append]
      rfl

/-! ### Properties of compilations -/

section
variable {P : ∀ α : Type, Run α → Prop}

theorem bind_of_compositional (hP : Run.Compositional P) {act : Compilation α}
    {f : α → Compilation β} (h : P _ act.run) (hf : ∀ a, P _ (f a).run) : P _ (act >>= f).run := by
  rw [ExceptT.run_bind]
  refine hP.bind h fun result => ?_
  cases result with
  | ok a => exact hf a
  | error fault => exact hP.pure _

theorem mapM_of_compositional (hP : Run.Compositional P) {act : α → Compilation β}
    (h : ∀ a, P _ (act a).run) (as : List α) : P _ (as.mapM act).run := by
  induction as with
  | nil => exact hP.pure _
  | cons a as ih =>
      rw [List.mapM_cons]
      exact bind_of_compositional hP (h a) fun _ =>
        bind_of_compositional hP ih fun _ => hP.pure _

/-- A property that sequencing keeps holds of the compilation of a file if it holds of every
validation of an input: all else is a mere result. -/
theorem compileEntries_of_compositional (hP : Run.Compositional P) (f : RuleFile) {t : Target}
    (hvalidate : ∀ v, P _ (t.validate v)) : P _ (f.compileEntries t).run := by
  have hresolve : ∀ ds, P _ (resolveAll ds).run := fun ds => hP.pure _
  refine bind_of_compositional hP ?_ fun always => bind_of_compositional hP
    (mapM_of_compositional hP ?_ _) fun containing => bind_of_compositional hP
    (mapM_of_compositional hP ?_ _) fun cases => hP.pure _
  · rw [alwaysRules]
    split
    · exact hP.pure _
    · exact bind_of_compositional hP (hresolve _) fun _ => hP.pure _
  · intro e
    exact bind_of_compositional hP (hresolve _) fun _ => hP.pure _
  · intro e
    refine bind_of_compositional hP (hP.bind (hvalidate e.input) fun _ => hP.pure _)
      fun verdict => ?_
    cases verdict with
    | error fault => exact hP.pure _
    | ok _ => exact bind_of_compositional hP (hresolve _) fun _ => hP.pure _

end

theorem blind_compileEntries (f : RuleFile) {t : Target} (ht : t.Blind) :
    (f.compileEntries t).run.Blind :=
  compileEntries_of_compositional (P := fun _ act => act.Blind) ⟨Run.blind_pure, Run.Blind.bind⟩ f
    ht.validate

/-- A compilation adds what its warnings and its validations of inputs add. -/
theorem adds_compile {p : Entry → Prop} (hp : ∀ event, p (.logged false event)) (f : RuleFile)
    {t : Target} (hvalidate : ∀ v, (t.validate v).Adds p) : (f.compile t).run.Adds p := by
  intro j
  obtain ⟨added, hadded, hall⟩ := compileEntries_of_compositional (Run.compositional_adds p) f
    hvalidate (j ++ Journal.ofEvents f.warnings)
  have hwarnings := Journal.forall_mem_ofEvents hp f.warnings
  refine ⟨Journal.ofEvents f.warnings ++ added, ?_, List.forall_mem_append.mpr ⟨hwarnings, hall⟩⟩
  rw [Run.journal, run_compile, ← List.append_assoc]
  exact hadded

/-! ### What compilations give -/

/-- What every result of a compilation satisfies. -/
def Ensures (act : Compilation α) (P : α → Prop) : Prop :=
  ∀ j a, act.run.value j = .ok a → P a

theorem ensures_pure {P : α → Prop} {a : α} (h : P a) : Ensures (pure a) P := by
  intro j a' ha
  cases ha
  exact h

theorem ensures_true (act : Compilation α) : Ensures act fun _ => True := fun _ _ _ => trivial

theorem Ensures.bind {act : Compilation α} {f : α → Compilation β} {P : α → Prop} {Q : β → Prop}
    (h : Ensures act P) (hf : ∀ a, P a → Ensures (f a) Q) : Ensures (act >>= f) Q := by
  intro j b hb
  rw [ExceptT.run_bind, Run.value_bind] at hb
  cases ha : act.run.value j with
  | error fault => rw [ha] at hb; cases hb
  | ok a =>
      rw [ha] at hb
      exact hf a (h j a ha) _ b hb

theorem ensures_mapM {act : α → Compilation β} {R : α → β → Prop} (h : ∀ a, Ensures (act a) (R a))
    (as : List α) : Ensures (as.mapM act) (List.Forall₂ R as) := by
  induction as with
  | nil => exact ensures_pure .nil
  | cons a as ih =>
      rw [List.mapM_cons]
      exact (h a).bind fun b hb => ih.bind fun bs hbs => ensures_pure (.cons hb hbs)

theorem ensures_caseOf (t : Target) (e : CaseEntry) :
    Ensures (caseOf t e) fun k => k.input = e.input := by
  rw [caseOf]
  refine (ensures_true _).bind fun verdict _ => ?_
  cases verdict with
  | error fault => exact fun _ _ h => nomatch h
  | ok _ => exact (ensures_true _).bind fun ps _ => ensures_pure rfl

/-- A compiled file has one case for each of its inputs. -/
theorem ensures_compile (f : RuleFile) (t : Target) :
    Ensures (f.compile t) fun compiled =>
      compiled.cases.map Case.input = f.cases.map CaseEntry.input := by
  have hentries : Ensures (f.compileEntries t) fun compiled =>
      compiled.cases.map Case.input = f.cases.map CaseEntry.input := by
    refine (ensures_true _).bind fun always _ => (ensures_true _).bind fun containing _ =>
      (ensures_mapM (ensures_caseOf t) f.cases).bind fun cases hcases => ensures_pure ?_
    rw [← List.forall₂_eq_eq_eq, List.forall₂_map_left_iff, List.forall₂_map_right_iff]
    exact hcases.flip
  intro j compiled h
  rw [Run.value, run_compile] at h
  exact hentries _ compiled h

/-! ### Compilations that succeed -/

/-- Whether a compilation gives a result after every journal. -/
def Yields (act : Compilation α) (a : α) : Prop := ∀ j, act.run.value j = .ok a

theorem yields_pure (a : α) : Yields (pure a) a := fun _ => rfl

theorem Yields.bind {act : Compilation α} {f : α → Compilation β} {a : α} {b : β}
    (h : Yields act a) (hf : Yields (f a) b) : Yields (act >>= f) b := by
  intro j
  rw [ExceptT.run_bind, Run.value_bind, h j]
  exact hf _

theorem yields_mapM {act : α → Compilation β} {g : α → β} {as : List α}
    (h : ∀ a ∈ as, Yields (act a) (g a)) : Yields (as.mapM act) (as.map g) := by
  induction as with
  | nil => exact yields_pure []
  | cons a as ih =>
      obtain ⟨ha, has⟩ := List.forall_mem_cons.mp h
      rw [List.mapM_cons]
      exact ha.bind ((ih has).bind (yields_pure _))

def resolved (ds : List Descriptor) : List Predicate := ds.filterMap (·.resolve.toOption)

/-- The lists of entries of a rule file. -/
def expectations (f : RuleFile) : List (List Descriptor) :=
  f.forAll :: (f.containing.map SubstringEntry.expect ++ f.cases.map CaseEntry.expect)

/-- Whether all entries of a rule file resolve. -/
def Resolves (f : RuleFile) : Prop := ∀ ds ∈ f.expectations, ∀ e ∈ ds, ∃ p, e.resolve = .ok p

theorem mapM_resolve {ds : List Descriptor} (h : ∀ e ∈ ds, ∃ p, e.resolve = .ok p) :
    ds.mapM Descriptor.resolve = .ok (resolved ds) := by
  induction ds with
  | nil => rfl
  | cons e ds ih =>
      obtain ⟨⟨p, hp⟩, hds⟩ := List.forall_mem_cons.mp h
      rw [List.mapM_cons, hp, ih hds, resolved, resolved, List.filterMap_cons, hp]
      rfl

def compiled (f : RuleFile) : Compiled :=
  let always := if f.forAll.isEmpty then [] else [⟨.always, resolved f.forAll⟩]
  let containing := f.containing.map fun e => ⟨.containing e.substring, resolved e.expect⟩
  let cases := f.cases.map fun e => ⟨e.input, resolved e.expect⟩
  ⟨always ++ containing ++ cases.map ruleOfCase, cases⟩

variable {f : RuleFile}

theorem yields_resolveAll (hf : f.Resolves) {ds : List Descriptor} (hds : ds ∈ f.expectations) :
    Yields (resolveAll ds) (resolved ds) := fun _ => mapM_resolve (hf ds hds)

/-- A file whose entries resolve is compiled, for a target that accepts its inputs. -/
theorem yields_compileEntries {t : Target} (hf : f.Resolves)
    (haccepts : ∀ e ∈ f.cases, ∀ j, (t.validate e.input).value j = .ok ()) :
    Yields (f.compileEntries t) f.compiled := by
  have halways : Yields (alwaysRules f)
      (if f.forAll.isEmpty then [] else [⟨.always, resolved f.forAll⟩]) := by
    rw [alwaysRules]
    split
    · exact yields_pure []
    · exact (yields_resolveAll hf List.mem_cons_self).bind (yields_pure _)
  have hcontaining : Yields (f.containing.mapM substringRule)
      (f.containing.map fun e => ⟨.containing e.substring, resolved e.expect⟩) := by
    refine yields_mapM fun e he => ?_
    have hmem : e.expect ∈ f.expectations :=
      List.mem_cons_of_mem _ (List.mem_append_left _ (List.mem_map_of_mem he))
    exact (yields_resolveAll hf hmem).bind (yields_pure _)
  have hcases : Yields (f.cases.mapM (caseOf t))
      (f.cases.map fun e => ⟨e.input, resolved e.expect⟩) := by
    refine yields_mapM fun e he => ?_
    have hmem : e.expect ∈ f.expectations :=
      List.mem_cons_of_mem _ (List.mem_append_right _ (List.mem_map_of_mem he))
    have hvalid : Yields (liftM (t.validate e.input)) (Except.ok ()) :=
      fun j => congrArg Except.ok (haccepts e he j)
    exact hvalid.bind ((yields_resolveAll hf hmem).bind (yields_pure _))
  -- the rules and cases are put together in the order in which they are compiled
  exact halways.bind (hcontaining.bind (hcases.bind (yields_pure _)))

/-! ### The same in code -/

/-- Whether an input satisfies a schema, and is read as something that is written as it is. -/
def Fits {ι : Type} (codec : Codec ι) (schema : InputSchema) (v : Json) : Prop :=
  schema.accepts v = true ∧ ∃ input, codec.decode v = .ok input ∧ codec.encode input = .ok v

/-- The declarations that a file stands for: those for every input, if it has any, then one for each
text in the input, then one for each input. -/
def declarations {ι : Type} (codec : Codec ι) (f : RuleFile) : List (Declaration ι) :=
  (if f.forAll.isEmpty then [] else [.forAll (resolved f.forAll)]) ++
    f.containing.map (fun e => .forInputContaining e.substring (resolved e.expect)) ++
    f.cases.filterMap fun e =>
      (codec.decode e.input).toOption.map (Declaration.forInput · (resolved e.expect))

variable {ι : Type} {codec : Codec ι} {schema : InputSchema}

/-- The cases of a file become the rules that their declarations add. -/
theorem filterMap_rule?_cases {es : List CaseEntry} (h : ∀ e ∈ es, Fits codec schema e.input) :
    (es.filterMap fun e => ((codec.decode e.input).toOption.map
      (Declaration.forInput · (resolved e.expect))).bind (·.rule? codec schema)) =
        es.map fun e => ruleOfCase ⟨e.input, resolved e.expect⟩ := by
  induction es with
  | nil => rfl
  | cons e es ih =>
      obtain ⟨⟨haccepts, input, hdecode, hencode⟩, hes⟩ := List.forall_mem_cons.mp h
      rw [List.map_cons, ← ih hes]
      refine List.filterMap_cons_some ?_
      simp [hdecode, Except.toOption, Declaration.rule?, hencode, haccepts, ruleOfCase]

/-- The declarations of a file add the rules that its compilation gives. -/
theorem filterMap_rule?_declarations (h : ∀ e ∈ f.cases, Fits codec schema e.input) :
    (f.declarations codec).filterMap (·.rule? codec schema) = f.compiled.rules := by
  have halways : (if f.forAll.isEmpty then []
      else [Declaration.forAll (resolved f.forAll)]).filterMap (·.rule? codec schema) =
        if f.forAll.isEmpty then [] else [⟨.always, resolved f.forAll⟩] := by
    split <;> rfl
  have hcontaining : (f.containing.map fun e =>
      Declaration.forInputContaining e.substring (resolved e.expect)).filterMap
        (·.rule? codec schema) =
          f.containing.map fun e => ⟨.containing e.substring, resolved e.expect⟩ := by
    rw [List.filterMap_map, ← List.filterMap_eq_map]
    rfl
  rw [declarations, compiled, List.filterMap_append, List.filterMap_append, halways, hcontaining,
    List.filterMap_filterMap, filterMap_rule?_cases h, List.map_map]
  rfl

/-- The cases of a file are those of its rules. -/
theorem filterMap_case?_compiled : f.compiled.rules.filterMap Rule.case? = f.compiled.cases := by
  have halways : (if f.forAll.isEmpty then []
      else [(⟨.always, resolved f.forAll⟩ : Rule)]).filterMap Rule.case? = [] := by
    split <;> rfl
  have hcontaining : (f.containing.map fun e =>
      (⟨.containing e.substring, resolved e.expect⟩ : Rule)).filterMap Rule.case? = [] := by
    rw [List.filterMap_map, List.filterMap_eq_nil_iff]
    exact fun e _ => rfl
  have hcases : ∀ ks : List Case, (ks.map ruleOfCase).filterMap Rule.case? = ks := by
    intro ks
    rw [List.filterMap_map]
    exact List.filterMap_some
  rw [compiled, List.filterMap_append, List.filterMap_append, halways, hcontaining, hcases]
  rfl

end RuleFile
end CallCheck
