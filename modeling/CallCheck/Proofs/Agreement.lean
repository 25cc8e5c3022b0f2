import CallCheck.Proofs.Declaration
import CallCheck.Proofs.Equality
import CallCheck.Proofs.Runner

/-!
# Calls and probes agree

A call and a probe look for failures in different ways. A call takes the rules that apply, in the
order of their declaration, and sees the whole record of the call. A probe takes the rules for every
input, then those for texts in the input, then the first case declared for it, and sees no more than
the input and the response. Where the declared inputs are different texts, and no predicate looks at
anything but the response, both find the same failures (`Handle.call_agrees_with_probe`).

What links the two is that the cases of a handle are those of its rules: the rules that apply,
sorted by the kind of their condition, are the sequences of the probe (`Runner.applicable_perm`).
-/

namespace CallCheck

/-! ### What predicates and conditions look at -/

namespace Predicate

/-- Whether a predicate looks at nothing but the response. -/
def readsOnlyOutput : Predicate → Bool
  | .contains _ | .lacks _ | .followsPattern _ | .longerThan _ => true
  | _ => false

variable {m m' : Metadata}

theorem check_congr {p : Predicate} (hp : p.readsOnlyOutput = true) (h : m.output = m'.output) :
    p.check m = p.check m' := by
  cases p with
  | lacks t => simp only [check, complaint?, h]
  | contains t => simp only [check, complaint?, h]
  | followsPattern t => simp only [check, complaint?, h]
  | longerThan n => simp only [check, complaint?, h]
  | fasterThan n => cases hp
  | usesTool t => cases hp
  | usesNoTool => cases hp
  | custom n code => cases hp

theorem firstFailure?_congr {ps : List Predicate} (hps : ∀ p ∈ ps, p.readsOnlyOutput = true)
    (h : m.output = m'.output) : firstFailure? m ps = firstFailure? m' ps := by
  induction ps with
  | nil => rfl
  | cons p rest ih =>
      obtain ⟨hp, hrest⟩ := List.forall_mem_cons.mp hps
      rw [firstFailure?, firstFailure?, failure?, failure?, check_congr hp h, ih hrest]

/-- The failures of several sequences do not depend on the order of these. -/
theorem failures_perm {sequences sequences' : List (List Predicate)}
    (h : sequences.Perm sequences') :
    (failures m sequences).value.Perm (failures m sequences').value := by
  rw [value_failures, value_failures]
  exact h.filterMap _

theorem failures_congr {sequences : List (List Predicate)}
    (hps : ∀ ps ∈ sequences, ∀ p ∈ ps, p.readsOnlyOutput = true) (h : m.output = m'.output) :
    (failures m sequences).value = (failures m' sequences).value := by
  rw [value_failures, value_failures]
  refine List.filterMap_congr fun ps hmem => ?_
  rw [firstFailure?_congr (hps ps hmem) h]

end Predicate

/-- A condition looks at the input and the raw input of a call. -/
theorem Condition.holds_congr {m m' : Metadata} (hinput : m.input = m'.input)
    (hraw : m.rawInput = m'.rawInput) (c : Condition) : c.holds m = c.holds m' := by
  cases c with
  | always => rfl
  | exactly input => cases input <;> simp only [holds, inputMatches, hinput, hraw]
  | containing text => simp only [holds, Metadata.inputText?, hinput]

/-- Where the input is the raw one, an exact input is compared once. -/
theorem inputMatches_of_same {m : Metadata} (h : m.input = m.rawInput) (declared : Json) :
    inputMatches declared m = declared.sameValue m.rawInput := by
  cases declared with
  | text s => rw [inputMatches, h, Bool.or_self]
  | null | bool | number | list | object => rfl

/-! ### Rules sorted by kind -/

namespace Runner

/-- The rules that apply, sorted by the kind of their condition. Those for exact inputs are the cases
declared for the input. -/
theorem applicable_perm {m : Metadata} (h : m.input = m.rawInput) (rules : List Rule) :
    ((rules.filter (·.applies m)).map Rule.predicates).Perm
      ((rules.filter (·.condition.isAlways)).map Rule.predicates ++
        (rules.filter fun r => r.condition.isContaining && r.applies m).map Rule.predicates ++
        ((rules.filterMap Rule.case?).filter (·.isFor m.rawInput)).map Case.predicates) := by
  induction rules with
  | nil => exact .nil
  | cons r rest ih =>
      obtain ⟨condition, ps⟩ := r
      cases condition with
      | always => exact ih.cons ps
      | containing text =>
          rw [List.filterMap_cons_none (Rule.case?_containing text ps)]
          simp only [List.filter_cons, Condition.isAlways, Condition.isContaining, Bool.true_and]
          cases Rule.applies ⟨.containing text, ps⟩ m with
          | false => exact ih
          | true => exact (ih.cons ps).trans (List.perm_middle.symm.append_right _)
      | exactly input =>
          have happlies : Rule.applies ⟨.exactly input, ps⟩ m = Case.isFor ⟨input, ps⟩ m.rawInput :=
            inputMatches_of_same h input
          rw [List.filterMap_cons_some (Rule.case?_exactly input ps)]
          simp only [List.filter_cons, Condition.isAlways, Condition.isContaining, Bool.false_and,
            happlies]
          cases Case.isFor ⟨input, ps⟩ m.rawInput with
          | false => exact ih
          | true => exact (ih.cons ps).trans List.perm_middle.symm

end Runner

/-! ### Different texts as exact inputs -/

/-- The cases that declarations bring have texts as inputs, each from a declaration of its own. -/
theorem Declaration.exists_texts (schema : InputSchema) (ds : List (Declaration String)) :
    ∃ texts : List String, texts.Sublist (ds.filterMap exactInput?) ∧
      ((ds.filterMap (·.rule? .text schema)).filterMap Rule.case?).map Case.input =
        texts.map Json.text := by
  induction ds with
  | nil => exact ⟨[], .slnil, rfl⟩
  | cons d ds ih =>
      obtain ⟨texts, hsub, htexts⟩ := ih
      cases d with
      | forAll ps => exact ⟨texts, hsub, htexts⟩
      | forInputContaining text ps => exact ⟨texts, hsub, htexts⟩
      | forInput s ps =>
          cases haccepts : schema.accepts (.text s) with
          | false =>
              have hrule : rule? .text schema (.forInput s ps) = none := by
                simp [rule?, Codec.text, haccepts]
              rw [List.filterMap_cons_none hrule]
              exact ⟨texts, hsub.cons s, htexts⟩
          | true =>
              have hrule : rule? .text schema (.forInput s ps) = some ⟨.exactly (.text s), ps⟩ := by
                simp [rule?, Codec.text, haccepts]
              rw [List.filterMap_cons_some hrule]
              exact ⟨s :: texts, hsub.cons_cons s, congrArg (Json.text s :: ·) htexts⟩

/-- Of cases with different texts as inputs, the first for an input is the only one. -/
theorem toList_find?_isFor {cases : List Case} {texts : List String} (hnodup : texts.Nodup)
    (htexts : cases.map Case.input = texts.map Json.text) (input : Json) :
    (cases.find? (·.isFor input)).toList = cases.filter (·.isFor input) := by
  induction cases generalizing texts with
  | nil => rfl
  | cons k rest ih =>
      obtain ⟨t, texts, rfl, ht, hrest⟩ := List.map_eq_cons_iff.mp htexts.symm
      obtain ⟨hnot, hnodup⟩ := List.nodup_cons.mp hnodup
      rw [List.find?_cons, List.filter_cons]
      cases hk : k.isFor input with
      | false => exact ih hnodup hrest.symm
      | true =>
          rw [Case.isFor, ← ht, Json.sameValue_text] at hk
          have hempty : rest.filter (·.isFor input) = [] := by
            rw [List.filter_eq_nil_iff]
            intro k' hk' hfor
            have hmem : k'.input ∈ texts.map Json.text := hrest ▸ List.mem_map_of_mem hk'
            obtain ⟨t', ht', heq⟩ := List.mem_map.mp hmem
            rw [Case.isFor, ← heq, Json.sameValue_text, hk] at hfor
            cases hfor
            exact hnot ht'
          rw [if_pos rfl, hempty]
          rfl

/-! ### The verdicts -/

namespace Handle

variable {ο : Type}

/-- A handle of a function of texts whose cases are those of its rules and have different inputs, and
whose predicates look at nothing but the response. -/
structure ReadsResponses (h : Handle String ο) : Prop where
  codec : h.input = .text
  cases_eq : h.cases = h.rules.filterMap Rule.case?
  texts : ∃ texts : List String, texts.Nodup ∧ h.cases.map Case.input = texts.map Json.text
  predicates : ∀ r ∈ h.rules, ∀ p ∈ r.predicates, p.readsOnlyOutput = true

/-- Such handles come from declarations with different exact inputs. -/
theorem readsResponses_declareAll (name : String) (number : Nat) (subject : Subject String ο)
    (output : Codec ο) (schema : InputSchema) {ds : List (Declaration String)} (j : Journal)
    (hpredicates : ∀ d ∈ ds, ∀ p ∈ d.predicates, p.readsOnlyOutput = true)
    (hinputs : (ds.filterMap Declaration.exactInput?).Nodup) :
    ReadsResponses (((register name number subject .text output schema).declareAll ds).value j) := by
  rw [value_declareAll]
  obtain ⟨texts, hsub, htexts⟩ := Declaration.exists_texts schema ds
  refine ⟨rfl, rfl, ⟨texts, hsub.nodup hinputs, htexts⟩, ?_⟩
  intro r hr
  obtain ⟨d, hd, hdr⟩ := List.mem_filterMap.mp hr
  rw [Declaration.predicates_of_rule? hdr]
  exact hpredicates d hd

variable {h : Handle String ο} {s : String} {o : ο} {v : Json}

/-- The probe checks the sequences of the rules that apply to the call, in another order. -/
theorem ReadsResponses.sequences_perm (hh : h.ReadsResponses) {c : Config}
    (hc : c.probeSubstringRules = true) (elapsed : Nat) :
    (Runner.sequences h.rules h.cases (Runner.probeMetadata (.text s) v) c.probeSubstringRules).Perm
      ((h.applicable (h.seen s o elapsed)).map Rule.predicates) := by
  obtain ⟨texts, hnodup, htexts⟩ := hh.texts
  have honly := toList_find?_isFor hnodup htexts (.text s)
  have hinput : (h.seen s o elapsed).input = .text s := by rw [seen, hh.codec]; rfl
  have hraw : (h.seen s o elapsed).rawInput = .text s := by rw [seen, hh.codec]; rfl
  have happlicable : h.applicable (h.seen s o elapsed) =
      h.rules.filter (·.applies (Runner.probeMetadata (.text s) v)) :=
    List.filter_congr fun r _ => Condition.holds_congr hinput hraw r.condition
  rw [happlicable]
  -- the probe goes through the rules kind by kind, the call in the order of declaration
  refine List.Perm.trans (.of_eq ?_) (Runner.applicable_perm rfl h.rules).symm
  rw [Runner.sequences, hc, ← hh.cases_eq]
  exact congrArg _ (congrArg _ honly)

/-- The probe finds the failures that the call finds. -/
theorem ReadsResponses.failuresOf_perm (hh : h.ReadsResponses) {c : Config}
    (hc : c.probeSubstringRules = true) (hv : h.output.encode o = .ok v) (elapsed : Nat) :
    (Runner.failuresOf c h.rules h.cases (.text s) v).Perm
      (Predicate.failures (h.seen s o elapsed)
        ((h.applicable (h.seen s o elapsed)).map Rule.predicates)).value := by
  have houtput : (Runner.probeMetadata (.text s) v).output = (h.seen s o elapsed).output := by
    show Extract.response v = Extract.response (h.output.encoded o)
    rw [Codec.encoded, hv]
    rfl
  -- the metadata differ, but not in the response that the predicates look at
  refine (Predicate.failures_perm (hh.sequences_perm hc elapsed)).trans
    (.of_eq (Predicate.failures_congr ?_ houtput))
  rw [List.forall_mem_map]
  intro r hr
  exact hh.predicates r (List.mem_of_mem_filter hr)

/-- A probe of a text that the function returns a value for judges that value. -/
theorem ReadsResponses.value_probe_text (hh : h.ReadsResponses) (c : Config) {j : Journal}
    (hvalue : (h.replyAfter j s).outcome = .value o) (hv : h.output.encode o = .ok v) :
    (Runner.probeInput c h.target h.rules h.cases (.text s)).value j =
      Runner.failureLine? (Runner.label h.name (.text s))
        (Runner.failuresOf c h.rules h.cases (.text s) v) := by
  have hdecode : h.input.decode (.text s) = .ok s := by rw [hh.codec]; rfl
  rw [Runner.value_probeInput_target, h.probed_of_value hdecode hvalue hv]
  rfl

/-- Where the probe finds the failures of the call in another order, it counts as passed exactly when
the call returns, and its line joins the messages of the same failures. -/
theorem verdicts_of_perm {fs gs : List Failure} (hperm : gs.Perm fs) (label : String)
    (r : SuiteResult) (o : ο) :
    let called := unlessFailed o fs
    let probed := Runner.count r (Runner.failureLine? label gs)
    ((∃ o', called = .ok o') ↔ probed = r.pass) ∧
    (∀ fault, called = .error fault →
      ∃ fs messages, fault = .assertions fs ∧ messages.Perm (fs.map Failure.message) ∧
        probed = r.fail (label ++ ": " ++ "; ".intercalate messages)) := by
  cases fs with
  | nil =>
      rw [hperm.eq_nil]
      refine ⟨⟨fun _ => rfl, fun _ => ⟨o, rfl⟩⟩, ?_⟩
      intro fault h
      cases h
  | cons f fs =>
      cases gs with
      | nil => exact absurd hperm.nil_eq (List.cons_ne_nil f fs).symm
      | cons g gs =>
          refine ⟨⟨?_, ?_⟩, ?_⟩
          · rintro ⟨o', h⟩
            cases h
          · intro h
            -- only one of the two results counts one input more as passed
            exact absurd (congrArg SuiteResult.passed h) (Nat.succ_ne_self r.passed).symm
          · intro fault h
            cases h
            exact ⟨f :: fs, _, rfl, hperm.map Failure.message, rfl⟩

/-- **Calls and probes agree.** Declare anything on a fresh handle of a function of texts, as long as
the exact inputs are different and every predicate looks at nothing but the response. Let the
function return the same value for a text in a call and in a probe, where the probe also checks the
rules for what the text contains. Then the call returns exactly when the probe counts as passed; and
where it fails, the messages of its failures are those in the line of the probe, in some order. -/
theorem call_agrees_with_probe (name : String) (number : Nat) (subject : Subject String ο)
    (output : Codec ο) (schema : InputSchema) (ds : List (Declaration String)) (j₀ : Journal)
    (hpredicates : ∀ d ∈ ds, ∀ p ∈ d.predicates, p.readsOnlyOutput = true)
    (hinputs : (ds.filterMap Declaration.exactInput?).Nodup)
    (c : Config) (hc : c.probeSubstringRules = true) (s : String) (j₁ j₂ : Journal) (o : ο) (v : Json)
    (hcall : (subject (j₁.callsOf number) s).outcome = .value o)
    (hprobe : (subject (j₂.callsOf number) s).outcome = .value o)
    (hv : output.encode o = .ok v) (r : SuiteResult) :
    let h := ((register name number subject .text output schema).declareAll ds).value j₀
    let probed := (Runner.probeInputs c h.target h.rules h.cases [.text s] r).value j₂
    ((∃ o', (h.plainCall s).value j₁ = .ok o') ↔ probed = r.pass) ∧
    (∀ fault, (h.plainCall s).value j₁ = .error fault →
      ∃ fs messages, fault = .assertions fs ∧ messages.Perm (fs.map Failure.message) ∧
        probed = r.fail (Runner.label name (.text s) ++ ": " ++ "; ".intercalate messages)) := by
  intro h probed
  have hh : h.ReadsResponses :=
    readsResponses_declareAll name number subject output schema j₀ hpredicates hinputs
  -- declarations keep the function and its output
  have heq : h = (register name number subject .text output schema).extended
      (ds.filterMap (·.rule? .text schema)) := value_declareAll _ ds j₀
  have hencode : h.output.encode o = .ok v := by rw [heq]; exact hv
  have hreply : returned (h.replyAfter j₁ s) = .ok o := by
    rw [heq]
    show returned (subject (j₁.callsOf number) s) = .ok o
    rw [returned, hcall]
  have hplain := h.value_plainCall_of_returned hreply
  have hperm := hh.failuresOf_perm (s := s) hc hencode (h.replyAfter j₁ s).elapsed
  have hprobed : probed = Runner.count r (Runner.failureLine? (Runner.label name (.text s))
      (Runner.failuresOf c h.rules h.cases (.text s) v)) := by
    have hname : h.name = name := by rw [heq]; rfl
    rw [← hname, ← hh.value_probe_text c (by rw [heq]; exact hprobe) hencode]
    rfl
  rw [hplain, hprobed]
  exact verdicts_of_perm hperm _ r o

/-- An echo fails a call and a probe of the same text for the same two rules. -/
theorem call_agrees_with_probe_echo :
    let h := ((register "echo" 0 (fun _ s => ⟨.value s, [], 5⟩) .text .text .any).declareAll
      [.forInputContaining "am" [.longerThan 9], .forAll [.contains "lamp"],
        .forInput "lamp" [.lacks "l"], .forInput "desk" []]).value []
    let probed := (Runner.probeInputs { Config.standard with probeSubstringRules := true } h.target
      h.rules h.cases [.text "lamp"] (.empty "lamps")).value [.called 0 7]
    ∃ fs messages, (h.plainCall "lamp").value [] = .error (.assertions fs) ∧ fs.length = 2 ∧
      messages.Perm (fs.map Failure.message) ∧
      probed = (SuiteResult.empty "lamps").fail
        (Runner.label "echo" (.text "lamp") ++ ": " ++ "; ".intercalate messages) := by
  have hagree := call_agrees_with_probe "echo" 0 (fun _ s => ⟨.value s, [], 5⟩) .text .any
    [.forInputContaining "am" [.longerThan 9], .forAll [.contains "lamp"],
      .forInput "lamp" [.lacks "l"], .forInput "desk" []] [] (by decide) (by decide)
    { Config.standard with probeSubstringRules := true } rfl "lamp" [] [.called 0 7] "lamp"
    (.text "lamp") rfl rfl rfl (.empty "lamps")
  obtain ⟨fs, messages, hfs, hperm, hprobed⟩ := hagree.2 (.assertions
    [⟨"ensure_length_over", "Response length should be over 9 characters. Actual: 4 characters"⟩,
      ⟨"ensure_doesnt_contain", "Response should not contain \"l\". Found: \"l\" in response."⟩]) rfl
  cases hfs
  exact ⟨_, messages, rfl, rfl, hperm, hprobed⟩

end Handle
end CallCheck
