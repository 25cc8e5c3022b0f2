import CallCheck.Proofs.Reading
import CallCheck.Proofs.RuleFile
import CallCheck.Proofs.Runner

/-!
# Masked cases

A target is probed with the input of every case, but the predicates of a probe are those of the
first case for its input. A case is masked (`Case.isMasked`) by an earlier one whose input is equal by
value. A case that is not masked is enforced: the probe of its input evaluates its predicates, and
when they fail the probe counts as failed. The predicates of a masked case are never looked at, so
they may be anything at all without a trace in the run. `Runner.enforced_unless_masked` states both.

A case is for its own input when the objects in it have each key once. Declarations only bring such
inputs if the codec only writes such values, and rule files never bring others.
-/

namespace CallCheck

/-- Whether one of the cases before has an input equal by value. -/
def Case.isMasked (before : List Case) (k : Case) : Bool := before.any (·.isFor k.input)

/-! ### The inputs of cases -/

/-- The cases of declared rules have unique keys if what the codec writes does. -/
theorem Handle.uniqueKeys_declareAll {ι ο : Type} {h : Handle ι ο}
    (hcodec : ∀ input v, h.input.encode input = .ok v → v.UniqueKeys)
    (hcases : ∀ k ∈ h.cases, k.input.UniqueKeys) (ds : List (Declaration ι)) (j : Journal) :
    ∀ k ∈ ((h.declareAll ds).value j).cases, k.input.UniqueKeys := by
  rw [value_declareAll]
  intro k hk
  rcases List.mem_append.mp hk with hk | hk
  · exact hcases k hk
  · obtain ⟨r, hr, hcase⟩ := List.mem_filterMap.mp hk
    obtain ⟨d, hd, hrule⟩ := List.mem_filterMap.mp hr
    obtain ⟨input, -, hencode, -⟩ := Declaration.eq_forInput_of_case? hrule hcase
    exact hcodec input k.input hencode

/-- The cases of a rule file have unique keys. -/
theorem RuleFile.uniqueKeys_compiled {d : File.Disk} {path : Path} {f : RuleFile}
    (hload : load d path = .ok f) : ∀ k ∈ f.compiled.cases, k.input.UniqueKeys := by
  rw [compiled, List.forall_mem_map]
  exact uniqueKeys_of_load hload

namespace Runner

variable {before after : List Case} {k : Case}

/-! ### Which case is selected -/

/-- A case that is not masked is the one selected for its own input. -/
theorem find?_isFor_self (hmasked : k.isMasked before = false) (hkeys : k.input.UniqueKeys) :
    (before ++ k :: after).find? (·.isFor k.input) = some k := by
  rw [List.find?_append, List.find?_eq_none.mpr, Option.none_or]
  · exact List.find?_cons_of_pos (Json.sameValue_refl hkeys)
  · intro b hb hfor
    rw [Case.isMasked, List.any_eq_false] at hmasked
    exact hmasked b hb hfor

/-- A masked case is selected for no input: whatever it is for, the case that masks it is for, too. -/
theorem find?_isFor_of_masked (hmasked : k.isMasked before = true) (input : Json) :
    (before ++ k :: after).find? (·.isFor input) = (before ++ after).find? (·.isFor input) := by
  rw [List.find?_append, List.find?_append, List.find?_cons]
  cases hk : k.isFor input with
  | false => rfl
  | true =>
      -- the case that masks it is for the input, too, so the search ends before it comes to `k`
      obtain ⟨b, hb, hfor⟩ := List.any_eq_true.mp hmasked
      have hsome : (before.find? (·.isFor input)).isSome = true := by
        rw [List.find?_isSome]
        exact ⟨b, hb, Json.sameValue_trans hfor hk⟩
      obtain ⟨first, hfirst⟩ := Option.isSome_iff_exists.mp hsome
      rw [hfirst]
      rfl

/-! ### Masked cases leave no trace -/

theorem sequences_of_masked (hmasked : k.isMasked before = true) (rules : List Rule) (m : Metadata)
    (withSubstrings : Bool) :
    sequences rules (before ++ k :: after) m withSubstrings =
      sequences rules (before ++ after) m withSubstrings := by
  rw [sequences, sequences, find?_isFor_of_masked hmasked]

theorem probeInput_of_masked (c : Config) (t : Target) (rules : List Rule)
    (hmasked : k.isMasked before = true) (input : Json) :
    probeInput c t rules (before ++ k :: after) input =
      probeInput c t rules (before ++ after) input := by
  rw [probeInput, probeInput]
  simp only [sequences_of_masked hmasked]

/-- A run does not depend on the predicates of a masked case. -/
theorem probeTarget_of_masked (c : Config) (t : Target) (rules : List Rule)
    (hmasked : k.isMasked before = true) (ps : List Predicate) (r : SuiteResult) :
    probeTarget c t rules (before ++ { k with predicates := ps } :: after) r =
      probeTarget c t rules (before ++ k :: after) r := by
  have hmasked' : Case.isMasked before { k with predicates := ps } = true := hmasked
  have hinputs : inputs c (before ++ { k with predicates := ps } :: after) =
      inputs c (before ++ k :: after) := by
    simp [inputs]
  rw [probeTarget, probeTarget, hinputs]
  refine probeInputs_congr (fun input => ?_) _ r
  rw [probeInput_of_masked c t rules hmasked', probeInput_of_masked c t rules hmasked]

/-! ### Other cases are enforced -/

/-- The predicates of a case that is not masked are the last sequence for its own input. -/
theorem exists_sequences_of_not_masked (hmasked : k.isMasked before = false)
    (hkeys : k.input.UniqueKeys) (rules : List Rule) (raw : Json) (withSubstrings : Bool) :
    ∃ others, sequences rules (before ++ k :: after) (probeMetadata k.input raw) withSubstrings =
      others ++ [k.predicates] := by
  have hself : (before ++ k :: after).find? (·.isFor (probeMetadata k.input raw).rawInput) = some k :=
    find?_isFor_self hmasked hkeys
  rw [sequences, hself]
  exact ⟨_, rfl⟩

variable {c : Config} {t : Target} {rules : List Rule}

/-- A probe that has a line counts as failed, whatever is probed before and after it. -/
theorem failed_lt_probeTarget {line : String} {r : SuiteResult} {j : Journal}
    (hline : (probeInput c t rules (before ++ k :: after) k.input).value
      ((probeInputs c t rules (before ++ k :: after) (before.map Case.input) r).journal j) =
        some line) :
    r.failed < ((probeTarget c t rules (before ++ k :: after) r).value j).failed := by
  have hinputs : inputs c (before ++ k :: after) =
      before.map Case.input ++ k.input :: after.map Case.input := by
    simp [inputs]
  -- the probes before and after it never lower the number of failures
  rw [probeTarget, hinputs, probeInputs_append, Run.value_bind, value_probeInputs_cons, hline]
  calc r.failed
      ≤ ((probeInputs c t rules _ (before.map Case.input) r).value j).failed :=
        failed_le_probeInputs c t rules _ _ r j
    _ < (count ((probeInputs c t rules _ (before.map Case.input) r).value j) (some line)).failed :=
        Nat.lt_succ_self _
    _ ≤ _ := failed_le_probeInputs c t rules _ _ _ _

/-- Predicates that are the last sequence of a judgement, and of which one does not pass, give the
answer a line. -/
theorem exists_line_of_not_passes {cases : List Case} {name : String} {input raw : Json}
    {others : List (List Predicate)} {ps : List Predicate}
    (hsequences : sequences rules cases (probeMetadata input raw) c.probeSubstringRules =
      others ++ [ps])
    (hnot : ∃ p ∈ ps, p.passes (probeMetadata input raw) = false) :
    ∃ line, judge c rules cases name input (.ok raw) = some line := by
  rw [judge, failuresOf, hsequences, Predicate.value_failures_concat]
  cases hfirst : (Predicate.firstFailure? (probeMetadata input raw) ps).value with
  | none =>
      -- without a first failure all predicates pass
      obtain ⟨p, hp, hfails⟩ := hnot
      rw [Predicate.firstFailure?_eq_none.mp hfirst p hp] at hfails
      cases hfails
  | some f =>
      cases (Predicate.failures (probeMetadata input raw) others).value with
      | nil => exact ⟨_, rfl⟩
      | cons g gs => exact ⟨_, rfl⟩

/-- **A case is enforced unless it is masked.** Let `reached` be the journal at which a run comes to
the input of a case, and `answer` what the target answers there. If no case before has an input equal
by value, the predicates of the case are the last sequence that the answer is judged by: the probe
logs what those evaluated log, and its line tells their first failure. If one of them does not pass,
or there is no answer, the run counts at least one failure more. But if some case before has an input
equal by value, the run is the same for whatever other predicates the case might have. -/
theorem enforced_unless_masked (c : Config) (t : Target) (rules : List Rule)
    (before after : List Case) (k : Case) (r : SuiteResult) (j : Journal) :
    let cases := before ++ k :: after
    let reached := (probeInputs c t rules cases (before.map Case.input) r).journal j
    let answer := (t.probe k.input).value (asked c t k.input reached)
    (k.isMasked before = false → k.input.UniqueKeys →
      (∀ raw, answer = .ok raw → ∃ others,
        let m := probeMetadata k.input raw
        sequences rules cases m c.probeSubstringRules = others ++ [k.predicates] ∧
        (probeInput c t rules cases k.input).value reached = failureLine? (label t.name k.input)
          ((Predicate.failures m others).value ++
            (Predicate.firstFailure? m k.predicates).value.toList) ∧
        (probeInput c t rules cases k.input).journal reached =
          (Run.probing c.quietProbes (t.probe k.input)).journal (asked c t k.input reached) ++
            Journal.ofEvents ((Predicate.failures m others).events ++
              (Predicate.evaluated m k.predicates).flatMap fun p => (p.check m).events)) ∧
      ((∀ raw, answer = .ok raw →
          ∃ p ∈ k.predicates, p.passes (probeMetadata k.input raw) = false) →
        r.failed < ((probeTarget c t rules cases r).value j).failed)) ∧
    (k.isMasked before = true → ∀ ps,
      probeTarget c t rules (before ++ { k with predicates := ps } :: after) r =
        probeTarget c t rules cases r) := by
  intro cases reached answer
  refine ⟨?unmasked, fun hmasked ps => probeTarget_of_masked c t rules hmasked ps r⟩
  intro hmasked hkeys
  refine ⟨?evaluated, ?counted⟩
  case evaluated =>
    intro raw hraw
    obtain ⟨others, hsequences⟩ :=
      exists_sequences_of_not_masked hmasked hkeys rules raw c.probeSubstringRules
    refine ⟨others, hsequences, ?_, ?_⟩
    · rw [value_probeInput, show (t.probe k.input).value _ = _ from hraw, judge, failuresOf,
        hsequences, Predicate.value_failures_concat]
    · rw [journal_probeInput, show (t.probe k.input).value _ = _ from hraw, judgingEvents,
        hsequences, Predicate.events_failures_concat]
  case counted =>
    intro hnot
    have hline : ∃ line, (probeInput c t rules cases k.input).value reached = some line := by
      rw [value_probeInput, show (t.probe k.input).value _ = answer from rfl]
      cases hanswer : answer with
      | error fault => exact ⟨_, rfl⟩
      | ok raw =>
          obtain ⟨others, hsequences⟩ :=
            exists_sequences_of_not_masked hmasked hkeys rules raw c.probeSubstringRules
          exact exists_line_of_not_passes hsequences (hnot raw hanswer)
    obtain ⟨line, hline⟩ := hline
    exact failed_lt_probeTarget hline

/-- A failing case of an input of its own counts, and one of an input declared before does not
matter. -/
theorem enforced_unless_masked_echo :
    let h := Handle.register "echo" 0 (fun _ s => ⟨.value s, [], 0⟩) .text .text .any
    let lamp : Case := ⟨.text "lamp", [.contains "lamp"]⟩
    let failing (s : String) : Case := ⟨.text s, [.contains "ABSENT"]⟩
    0 < ((probeTarget .standard h.target [] [lamp, failing "desk"] (.empty "echo")).value []).failed ∧
    ∀ ps, probeTarget .standard h.target [] [lamp, { failing "lamp" with predicates := ps }]
        (.empty "echo") =
      probeTarget .standard h.target [] [lamp, failing "lamp"] (.empty "echo") := by
  intro h lamp failing
  constructor
  · have hcounted := ((enforced_unless_masked .standard h.target [] [lamp] [] (failing "desk")
      (.empty "echo") []).1 rfl (.text "desk")).2
    apply hcounted
    rintro raw ⟨⟩
    refine ⟨.contains "ABSENT", List.mem_singleton_self _, ?_⟩
    show (Predicate.contains "ABSENT").passes (probeMetadata (.text "desk") (.text "desk")) = false
    rfl
  · exact (enforced_unless_masked .standard h.target [] [lamp] [] (failing "lamp") (.empty "echo")
      []).2 rfl

/-- Of two cases declared for one text the second is masked: it fails on what the function answers,
and yet both probes pass. -/
theorem masked_case_passes :
    let h := ((Handle.register "echo" 0 (fun _ s => ⟨.value s, [], 0⟩) .text .text .any).declareAll
      [.forInput "lamp" [.contains "lamp"], .forInput "lamp" [.contains "ABSENT"]]).value []
    let result := (probeTarget .standard h.target h.rules h.cases (.empty "echo")).value []
    h.cases = [⟨.text "lamp", [.contains "lamp"]⟩, ⟨.text "lamp", [.contains "ABSENT"]⟩] ∧
    (h.target.probe (.text "lamp")).value [] = .ok (.text "lamp") ∧
    (Predicate.contains "ABSENT").passes (probeMetadata (.text "lamp") (.text "lamp")) = false ∧
    result.passed = 2 ∧ result.failed = 0 := by
  refine ⟨rfl, rfl, rfl, rfl, rfl⟩

end Runner
end CallCheck
