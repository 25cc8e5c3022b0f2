import CallCheck.Proofs.Passing
import CallCheck.Proofs.Agreement

/-!
# The order of declarations

The failures of a call come rule by rule (`value_violations_eq_filterMap`), so rules in another
order give the same failures in another order. A probe goes through the rules kind by kind and then
takes the first case for its input. If no case is declared for the input of another, the order of
the cases does not matter either: that first case is the only one (`Runner.find?_isFor_perm`). So
neither order makes a difference to a verdict, which is `Runner.declaration_order_irrelevant`.
-/

namespace CallCheck

/-! ### Calls -/

/-- The failure that a rule has at a call, if it applies. -/
def Rule.failure? (m : Metadata) (r : Rule) : Option Failure :=
  if r.applies m then (Predicate.firstFailure? m r.predicates).value else none

section Calls

variable {name : String} {m : Metadata} {rules rules' rest : List Rule} {r : Rule} {f : Failure}

/-- The failures of a call are those of its rules. -/
theorem value_violations_eq_filterMap (name : String) (m : Metadata) (rules : List Rule)
    (j : Journal) : (violations name m rules).value j = rules.filterMap (Rule.failure? m) := by
  rw [value_violations, List.filterMap_filter]
  rfl

theorem violations_perm (h : rules.Perm rules') (j j' : Journal) :
    ((violations name m rules).value j).Perm ((violations name m rules').value j') := by
  rw [value_violations_eq_filterMap, value_violations_eq_filterMap]
  exact h.filterMap _

/-- A violated rule fails as often as it is declared. -/
theorem violations_replicate_append (hr : r.failure? m = some f) (k : Nat) (j : Journal) :
    (violations name m (List.replicate k r ++ rest)).value j =
      List.replicate k f ++ (violations name m rest).value j := by
  rw [value_violations_eq_filterMap, value_violations_eq_filterMap, List.filterMap_append,
    List.filterMap_replicate_of_some hr]

end Calls

/-- Two calls that come to the same, but for the order of their failures. -/
inductive SameUpToOrder {α : Type} : Except Fault α → Except Fault α → Prop where
  | same (result : Except Fault α) : SameUpToOrder result result
  | assertions {fs fs' : List Failure} (h : fs.Perm fs') :
      SameUpToOrder (.error (.assertions fs)) (.error (.assertions fs'))

namespace Handle

variable {ι ο : Type}

theorem sameUpToOrder_unlessFailed {α : Type} (a : α) {fs fs' : List Failure} (h : fs.Perm fs') :
    SameUpToOrder (unlessFailed a fs) (unlessFailed a fs') := by
  by_cases hnil : fs = []
  · subst hnil
    rw [h.nil_eq]
    exact .same _
  · have hnil' : fs' ≠ [] := by
      rintro rfl
      exact hnil h.eq_nil
    rw [unlessFailed_of_ne_nil hnil, unlessFailed_of_ne_nil hnil']
    exact .assertions h

/-- A checked call under rules in another order comes to the same, but for the order of failures. -/
theorem sameUpToOrder_checkedCall (h : Handle ι ο) {rules rules' : List Rule}
    (hperm : rules.Perm rules') (input : ι) (j : Journal) :
    SameUpToOrder (({ h with rules := rules }.checkedCall input).value j)
      (({ h with rules := rules' }.checkedCall input).value j) := by
  rcases hreply : returned (h.replyAfter j input) with fault | output
  · rw [(checkedCall_of_fault { h with rules := rules } hreply).1,
      (checkedCall_of_fault { h with rules := rules' } hreply).1]
    exact .same _
  · rw [(checkedCall_of_returned { h with rules := rules } hreply).1,
      (checkedCall_of_returned { h with rules := rules' } hreply).1]
    apply sameUpToOrder_unlessFailed
    apply Predicate.failures_perm
    exact (hperm.filter _).map _

end Handle

/-! ### Cases -/

namespace Case

variable {cases cases' : List Case} {k : Case}

/-- No case is declared for the input of another. -/
def Distinct (cases : List Case) : Prop :=
  cases.Pairwise fun k k' => k.isFor k'.input = false ∧ k'.isFor k.input = false

/-- Of distinct cases only the case itself can be declared for its input. -/
theorem Distinct.find?_isFor (h : Distinct cases) (hk : k ∈ cases) :
    cases.find? (·.isFor k.input) = if k.isFor k.input then some k else none := by
  obtain ⟨before, after, rfl⟩ := List.append_of_mem hk
  obtain ⟨-, hafter, hbefore⟩ := List.pairwise_append.mp h
  have hnone : before.find? (·.isFor k.input) = none := by
    rw [List.find?_eq_none]
    intro k' hk'
    rw [(hbefore k' hk' k List.mem_cons_self).1]
    exact Bool.false_ne_true
  have hnone' : after.find? (·.isFor k.input) = none := by
    rw [List.find?_eq_none]
    intro k' hk'
    rw [((List.pairwise_cons.mp hafter).1 k' hk').2]
    exact Bool.false_ne_true
  rw [List.find?_append, hnone, Option.none_or, List.find?_cons, hnone']
  cases k.isFor k.input <;> rfl

theorem Distinct.perm (h : Distinct cases) (hperm : cases.Perm cases') : Distinct cases' :=
  (hperm.pairwise_iff fun hne => hne.symm).mp h

end Case

namespace Runner

variable {c : Config} {t : Target} {rules rules' : List Rule} {cases cases' : List Case}

theorem inputs_perm (hcases : cases.Perm cases') : (inputs c cases).Perm (inputs c cases') := by
  unfold inputs
  rw [hcases.isEmpty_eq]
  split
  · exact .rfl
  · exact hcases.map _

theorem exists_case_of_mem_inputs {input : Json} (h : input ∈ inputs c cases) :
    cases = [] ∨ ∃ k ∈ cases, k.input = input := by
  unfold inputs at h
  split at h
  case isTrue hempty => exact .inl (List.isEmpty_iff.mp hempty)
  case isFalse => exact .inr (List.mem_map.mp h)

/-- Distinct cases in another order have the same first case for every input that is probed. -/
theorem find?_isFor_perm (hcases : cases.Perm cases') (hdistinct : Case.Distinct cases)
    {input : Json} (hinput : input ∈ inputs c cases) :
    cases.find? (·.isFor input) = cases'.find? (·.isFor input) := by
  rcases exists_case_of_mem_inputs hinput with rfl | ⟨k, hk, rfl⟩
  · rw [hcases.nil_eq]
  · rw [hdistinct.find?_isFor hk, (hdistinct.perm hcases).find?_isFor (hcases.mem_iff.mp hk)]

/-- A probe checks the same sequences, in another order. -/
theorem sequences_perm (hrules : rules.Perm rules') {m : Metadata} (withSubstrings : Bool)
    (hfind : cases.find? (·.isFor m.rawInput) = cases'.find? (·.isFor m.rawInput)) :
    (sequences rules cases m withSubstrings).Perm (sequences rules' cases' m withSubstrings) := by
  unfold sequences
  dsimp only
  rw [hfind]
  refine (List.Perm.append ?always ?containing).append_right _
  case always => exact (hrules.filter _).map _
  case containing =>
    split
    · exact (hrules.filter _).map _
    · exact .rfl

theorem failuresOf_perm (hrules : rules.Perm rules') (hcases : cases.Perm cases')
    (hdistinct : Case.Distinct cases) {input : Json} (hinput : input ∈ inputs c cases)
    (raw : Json) :
    (failuresOf c rules cases input raw).Perm (failuresOf c rules' cases' input raw) := by
  apply Predicate.failures_perm
  apply sequences_perm hrules
  exact find?_isFor_perm hcases hdistinct hinput

/-- Failures in another order are as many. -/
theorem failureLine?_eq_none_of_perm {label : String} {fs fs' : List Failure} (h : fs.Perm fs') :
    failureLine? label fs = none ↔ failureLine? label fs' = none := by
  rw [failureLine?_eq_none, failureLine?_eq_none, ← List.length_eq_zero_iff, h.length_eq,
    List.length_eq_zero_iff]

theorem judge_eq_none_iff_of_perm (hrules : rules.Perm rules') (hcases : cases.Perm cases')
    (hdistinct : Case.Distinct cases) {input : Json} (hinput : input ∈ inputs c cases)
    (name : String) (answer : Except Fault Json) :
    judge c rules cases name input answer = none ↔
      judge c rules' cases' name input answer = none := by
  cases answer with
  | error fault => exact Iff.rfl
  | ok raw =>
      exact failureLine?_eq_none_of_perm (failuresOf_perm hrules hcases hdistinct hinput raw)

/-- A steady function passes and fails as many inputs, whatever the order. -/
theorem counts_of_perm {ι ο : Type} (h : Handle ι ο) (hsteady : h.subject.Steady)
    (hrules : rules.Perm rules') (hcases : cases.Perm cases') (hdistinct : Case.Distinct cases)
    (name : String) (j j' : Journal) :
    let r := (probeTarget c h.target rules cases (.empty name)).value j
    let r' := (probeTarget c h.target rules' cases' (.empty name)).value j'
    r.passed = r'.passed ∧ r.failed = r'.failed := by
  intro r r'
  let line := fun input => judge c rules cases h.name input (h.probed input (h.subject 0))
  let line' := fun input => judge c rules' cases' h.name input (h.probed input (h.subject 0))
  have hr : r = counted name ((inputs c cases).map line) :=
    value_probeInputs_of_steady (value_probeInput_of_steady c rules cases h hsteady) _ _ j
  have hr' : r' = counted name ((inputs c cases').map line') :=
    value_probeInputs_of_steady (value_probeInput_of_steady c rules' cases' h hsteady) _ _ j'
  have hinputs : (inputs c cases).Perm (inputs c cases') := inputs_perm hcases
  have hpassed : r.passed = r'.passed := by
    rw [hr, hr', passed_counted, passed_counted, List.countP_map, List.countP_map,
      ← hinputs.countP_eq]
    refine List.countP_congr fun input hinput => ?_
    simp only [Function.comp_apply, Option.isNone_iff_eq_none]
    exact judge_eq_none_iff_of_perm hrules hcases hdistinct hinput _ _
  have htotal : r.passed + r.failed = r'.passed + r'.failed := by
    rw [hr, hr', passed_add_failed_counted, passed_add_failed_counted, List.length_map,
      List.length_map, hinputs.length_eq]
  exact ⟨hpassed, by omega⟩

/-- **The order of declarations does not matter to verdicts.** Take rules in two orders. A call
finds the same failures in some order, so that it fails under one exactly when it does under the
other, and a violated rule that is declared `k` times fails `k` times. Take cases in two orders as
well, none of them declared for the input of another. The same inputs are probed, and probes that
get the same answer come to the same verdict for the same failures in some order. Where the function
is steady, as many inputs pass and fail. -/
theorem declaration_order_irrelevant {rules rules' : List Rule} (hrules : rules.Perm rules') :
    (∀ (name : String) (m : Metadata) (j j' : Journal),
      let fs := (violations name m rules).value j
      let fs' := (violations name m rules').value j'
      (fs = [] ↔ fs' = []) ∧ fs.Perm fs' ∧
      ∀ r f k rest, r.failure? m = some f → rules.Perm (List.replicate k r ++ rest) →
        fs.Perm (List.replicate k f ++ (violations name m rest).value j)) ∧
    (∀ (ι ο : Type) (h : Handle ι ο) (input : ι) (j : Journal),
      SameUpToOrder (({ h with rules := rules }.checkedCall input).value j)
        (({ h with rules := rules' }.checkedCall input).value j)) ∧
    ∀ cases cases' : List Case, cases.Perm cases' → Case.Distinct cases → ∀ c : Config,
      (inputs c cases).Perm (inputs c cases') ∧
      (∀ t, ∀ input ∈ inputs c cases, ∀ j j' answer,
        (t.probe input).value (asked c t input j) = answer →
        (t.probe input).value (asked c t input j') = answer →
        let line := (probeInput c t rules cases input).value j
        let line' := (probeInput c t rules' cases' input).value j'
        (line = none ↔ line' = none) ∧ (∀ fault, answer = .error fault → line = line') ∧
        ∀ raw, answer = .ok raw → ∃ fs fs', fs.Perm fs' ∧
          line = failureLine? (label t.name input) fs ∧
          line' = failureLine? (label t.name input) fs') ∧
      ∀ (ι ο : Type) (h : Handle ι ο), h.subject.Steady → ∀ name j j',
        let r := (probeTarget c h.target rules cases (.empty name)).value j
        let r' := (probeTarget c h.target rules' cases' (.empty name)).value j'
        r.passed = r'.passed ∧ r.failed = r'.failed := by
  refine ⟨?calls, fun ι ο h => h.sameUpToOrder_checkedCall hrules, ?probes⟩
  case calls =>
    intro name m j j' fs fs'
    have hperm : fs.Perm fs' := violations_perm hrules j j'
    refine ⟨⟨?_, ?_⟩, hperm, ?_⟩
    · intro hnil
      exact (hnil ▸ hperm).nil_eq.symm
    · intro hnil
      exact (hnil ▸ hperm).eq_nil
    · intro r f k rest hr hreplicate
      rw [← violations_replicate_append hr]
      exact violations_perm hreplicate j j
  case probes =>
    intro cases cases' hcases hdistinct c
    refine ⟨inputs_perm hcases, ?_, ?_⟩
    · intro t input hinput j j' answer hanswer hanswer' line line'
      have hline : line = judge c rules cases t.name input answer := by
        rw [← hanswer]
        exact value_probeInput c t rules cases input j
      have hline' : line' = judge c rules' cases' t.name input answer := by
        rw [← hanswer']
        exact value_probeInput c t rules' cases' input j'
      rw [hline, hline']
      refine ⟨judge_eq_none_iff_of_perm hrules hcases hdistinct hinput _ _, ?_, ?_⟩
      · rintro fault rfl
        rfl
      · rintro raw rfl
        exact ⟨_, _, failuresOf_perm hrules hcases hdistinct hinput raw, rfl, rfl⟩
    · intro ι ο h hsteady name j j'
      exact counts_of_perm h hsteady hrules hcases hdistinct name j j'

/-- Three rules of an echo, one of each kind, fail for a text in either order, and so they do when
the echo is probed with it, wherever its case is. -/
theorem declaration_order_irrelevant_lamps :
    let rules : List Rule := [⟨.containing "am", [.longerThan 9]⟩,
      ⟨.exactly (.text "lamp"), [.lacks "l"]⟩, ⟨.always, [.contains "desk"]⟩]
    let lamp : Case := ⟨.text "lamp", [.lacks "l"]⟩
    let desk : Case := ⟨.text "desk", []⟩
    let m := probeMetadata (.text "lamp") (.text "lamp")
    let probed := fun (rules : List Rule) (cases : List Case) =>
      (probeInput .standard lampEcho.target rules cases (.text "lamp")).value []
    ((violations "echo" m rules).value []).length = 3 ∧
      ((violations "echo" m rules).value []).Perm ((violations "echo" m rules.reverse).value []) ∧
      ∃ fs fs', fs ≠ [] ∧ fs.Perm fs' ∧
        probed rules [lamp, desk] = failureLine? (label "echo" (.text "lamp")) fs ∧
        probed rules.reverse [desk, lamp] = failureLine? (label "echo" (.text "lamp")) fs' := by
  intro rules lamp desk m probed
  obtain ⟨hcalls, -, hprobes⟩ := declaration_order_irrelevant rules.reverse_perm.symm
  have hdistinct : Case.Distinct [lamp, desk] := by
    rw [Case.Distinct, List.pairwise_pair]
    exact ⟨rfl, rfl⟩
  obtain ⟨-, hlines, -⟩ := hprobes _ _ (List.Perm.swap desk lamp []) hdistinct .standard
  obtain ⟨-, -, hline⟩ := hlines lampEcho.target (.text "lamp") List.mem_cons_self [] [] _ rfl rfl
  obtain ⟨fs, fs', hperm, hfs, hfs'⟩ := hline (.text "lamp") rfl
  refine ⟨by decide, (hcalls "echo" m [] []).2.1, fs, fs', ?_, hperm, hfs, hfs'⟩
  rintro rfl
  exact absurd hfs (by decide)

end Runner
end CallCheck
