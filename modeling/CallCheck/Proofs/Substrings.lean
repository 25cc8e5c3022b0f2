import CallCheck.Proofs.Congruence
import CallCheck.Proofs.Passing

/-!
# Rules for a text in the input

A rule for a text in the input looks it up in the logical input of a call. For a call that is the prompt
of its argument, which is always a text (`Extract.Prompts`); for a probe it is the declared value as it
stands. On a text both are the same, so calls and probes agree on these rules. Any other value is no text
to look anything up in: a probe leaves these rules out, although a call with the value applies those that
find something in its prompt. `Handle.containing_called_and_probed` says when the two agree, and
`Handle.prompt_not_probed` is a value on which they do not.
-/

namespace CallCheck

/-! ### The prompt of a value -/

namespace Extract

/-- What the prompt of a single argument is: its field, if that is present, else the texts of its
messages, if these are a list, else the text of the whole argument. -/
inductive Prompts : Json → String → Prop where
  | prompt {v p : Json} : v.get? "prompt" = some p → isPresent p = true → Prompts v p.display
  | messages {v : Json} {ms : List Json} : (∀ p, v.get? "prompt" = some p → isPresent p = false) →
      v.get? "messages" = some (.list ms) → Prompts v (" ".intercalate (ms.map messageText))
  | whole {v : Json} : (∀ p, v.get? "prompt" = some p → isPresent p = false) →
      (∀ ms, v.get? "messages" ≠ some (.list ms)) → Prompts v v.display

theorem joined_singleton (v : Json) : joined [v] = v.display := String.intercalate_singleton

theorem prompt_singleton (v : Json) : prompt [v] = (promptOf? v).getD v.display := by
  rw [← joined_singleton]
  cases v with
  | text s => rfl
  | null | bool | number | list | object => rfl

theorem filter_isPresent_eq_none {o : Option Json} :
    o.filter isPresent = none ↔ ∀ p, o = some p → isPresent p = false := by
  simp [Option.filter_eq_none_iff]

/-- The chain of fallbacks finds just that. -/
theorem prompts_iff {v : Json} {s : String} : Prompts v s ↔ s = prompt [v] := by
  rw [prompt_singleton, promptOf?]
  constructor
  · intro h
    cases h with
    | prompt hp hpresent => simp [hp, Option.filter, hpresent]
    | messages habsent hms => simp [filter_isPresent_eq_none.mpr habsent, hms]
    | whole habsent hms =>
        rw [filter_isPresent_eq_none.mpr habsent]
        dsimp only
        split
        · exact absurd ‹_› (hms _)
        · rfl
  · rintro rfl
    split
    case h_1 p hp =>
      obtain ⟨hp, hpresent⟩ := Option.filter_eq_some_iff.mp hp
      exact .prompt hp hpresent
    case h_2 habsent =>
      have habsent := filter_isPresent_eq_none.mp habsent
      split
      case h_1 ms hms => exact .messages habsent hms
      case h_2 hms => exact .whole habsent hms

/-- A text is its own prompt. -/
theorem prompts_text {s p : String} : Prompts (.text s) p ↔ p = s := prompts_iff

end Extract

/-! ### Calls and probes -/

namespace Rule

variable {text : String} {ps : List Predicate} {m m' : Metadata} {rules : List Rule}

/-- A rule for a text applies where the logical input is a text that contains it. -/
theorem applies_containing_iff :
    (⟨.containing text, ps⟩ : Rule).applies m = true ↔
      ∃ s, m.input = .text s ∧ text.toList <:+: s.toList := by
  rw [applies, Condition.holds, Metadata.inputText?]
  cases m.input with
  | text s => simp [Json.text?, occursIn_iff]
  | null | bool | number | list | object => simp [Json.text?]

/-- The rules for a text in the input that apply to a call. -/
def containing (m : Metadata) (rules : List Rule) : List Rule :=
  rules.filter fun r => r.condition.isContaining && r.applies m

theorem isContaining_and_applies_iff {r : Rule} :
    (r.condition.isContaining && r.applies m) = true ↔
      ∃ text ps, r = ⟨.containing text, ps⟩ ∧ r.applies m = true := by
  obtain ⟨condition, ps⟩ := r
  rw [Bool.and_eq_true_iff, Runner.isContaining_iff]
  constructor
  · rintro ⟨⟨text, rfl⟩, happlies⟩
    exact ⟨text, ps, rfl, happlies⟩
  · rintro ⟨text, _, ⟨⟩, happlies⟩
    exact ⟨⟨text, rfl⟩, happlies⟩

/-- Metadata that more of these rules apply to selects more of them. -/
theorem containing_sublist
    (h : ∀ text ps, (⟨.containing text, ps⟩ : Rule).applies m = true →
      (⟨.containing text, ps⟩ : Rule).applies m' = true) :
    (containing m rules).Sublist (containing m' rules) := by
  refine List.monotone_filter_right rules ?_
  intro r hr
  obtain ⟨text, ps, rfl, happlies⟩ := isContaining_and_applies_iff.mp hr
  exact isContaining_and_applies_iff.mpr ⟨text, ps, rfl, h text ps happlies⟩

/-- Metadata whose logical input is no text selects none of them. -/
theorem containing_eq_nil (h : ∀ s, m.input ≠ .text s) : containing m rules = [] := by
  rw [containing, List.filter_eq_nil_iff]
  intro r _ hr
  obtain ⟨text, ps, rfl, happlies⟩ := isContaining_and_applies_iff.mp hr
  obtain ⟨s, hs, -⟩ := applies_containing_iff.mp happlies
  exact h s hs

end Rule

namespace Runner

/-- A probe with the rules for a text in the input checks those that apply between the rules for every
input and the case. -/
theorem sequences_withSubstrings (rules : List Rule) (cases : List Case) (m : Metadata) :
    sequences rules cases m true =
      (rules.filter (·.condition.isAlways)).map Rule.predicates ++
        (Rule.containing m rules).map Rule.predicates ++
          (cases.find? (·.isFor m.rawInput)).toList.map Case.predicates := rfl

/-- In a probe, only texts are looked into. -/
theorem applies_containing_probed {text : String} {ps : List Predicate} {v raw : Json} :
    Rule.applies ⟨.containing text, ps⟩ (probeMetadata v raw) = true ↔
      ∃ s, v = .text s ∧ text.toList <:+: s.toList :=
  Rule.applies_containing_iff

end Runner

namespace Handle

variable {ι ο : Type} {h : Handle ι ο} {input : ι} {v : Json}

/-- In a call, it is the prompt that is looked into. -/
theorem applies_containing_called (hencode : h.input.encode input = .ok v) {text : String}
    {ps : List Predicate} {output : ο} {elapsed : Nat} :
    Rule.applies ⟨.containing text, ps⟩ (h.seen input output elapsed) = true ↔
      ∃ p, Extract.Prompts v p ∧ text.toList <:+: p.toList := by
  have hinput : (h.seen input output elapsed).input = .text (Extract.prompt [v]) := by
    show Json.text (Extract.prompt [h.input.encoded input]) = _
    rw [Codec.encoded, hencode]
    rfl
  rw [Rule.applies_containing_iff, hinput]
  simp only [Json.text.injEq, Extract.prompts_iff, eq_comm]

/-- What a probe looks into, a call with the value looks into as well. -/
theorem applies_called_of_probed (hencode : h.input.encode input = .ok v) {text : String}
    {ps : List Predicate} {raw : Json} (output : ο) (elapsed : Nat)
    (hprobed : Rule.applies ⟨.containing text, ps⟩ (Runner.probeMetadata v raw) = true) :
    Rule.applies ⟨.containing text, ps⟩ (h.seen input output elapsed) = true := by
  obtain ⟨s, rfl, hs⟩ := Runner.applies_containing_probed.mp hprobed
  exact (applies_containing_called hencode).mpr ⟨s, Extract.prompts_text.mpr rfl, hs⟩

/-- Both look into the same, or there is nothing in the prompt to be found. -/
theorem applies_called_eq_probed_iff (hencode : h.input.encode input = .ok v) {text : String}
    {ps : List Predicate} {output : ο} {elapsed : Nat} {raw : Json} :
    Rule.applies ⟨.containing text, ps⟩ (h.seen input output elapsed) =
        Rule.applies ⟨.containing text, ps⟩ (Runner.probeMetadata v raw) ↔
      (∃ s, v = .text s) ∨ ∀ p, Extract.Prompts v p → ¬ text.toList <:+: p.toList := by
  rw [Bool.eq_iff_iff, applies_containing_called hencode]
  constructor
  · intro hsame
    by_cases htext : ∃ s, v = .text s
    · exact .inl htext
    · refine .inr fun p hp hoccurs => htext ?_
      obtain ⟨s, hs, -⟩ := Runner.applies_containing_probed.mp (hsame.mp ⟨p, hp, hoccurs⟩)
      exact ⟨s, hs⟩
  · intro hsame
    constructor
    · rintro ⟨p, hp, hoccurs⟩
      rcases hsame with ⟨s, rfl⟩ | hnowhere
      · cases Extract.prompts_text.mp hp
        exact Runner.applies_containing_probed.mpr ⟨p, rfl, hoccurs⟩
      · exact absurd hoccurs (hnowhere p hp)
    · intro hprobed
      exact (applies_containing_called hencode).mp
        (applies_called_of_probed hencode output elapsed hprobed)

theorem filter_applicable (h : Handle ι ο) (m : Metadata) :
    (h.applicable m).filter (·.condition.isContaining) = Rule.containing m h.rules :=
  List.filter_filter

/-- **Calls and probes agree on texts.** A rule for a text in the input applies to a call if the text
occurs in the prompt of the argument, and to a probe if the declared value is a text in which it occurs.
So the two differ exactly on a value that is no text although its prompt contains the text of the rule. A
probe never selects such a rule that a call leaves out. For a text a probe with these rules checks just
those that apply to the call, and for any other value it checks what it does without them. -/
theorem containing_called_and_probed (h : Handle ι ο) (input : ι) (v : Json)
    (hencode : h.input.encode input = .ok v) (output : ο) (elapsed : Nat) (raw : Json) :
    let called := h.seen input output elapsed
    let probed := Runner.probeMetadata v raw
    (∀ text ps, let r : Rule := ⟨.containing text, ps⟩
      (r.applies called = true ↔ ∃ p, Extract.Prompts v p ∧ text.toList <:+: p.toList) ∧
      (r.applies probed = true ↔ ∃ s, v = .text s ∧ text.toList <:+: s.toList) ∧
      (r.applies called = r.applies probed ↔
        (∃ s, v = .text s) ∨ ∀ p, Extract.Prompts v p → ¬ text.toList <:+: p.toList)) ∧
    (Rule.containing probed h.rules).Sublist (h.applicable called) ∧
    (∀ s, v = .text s → ∀ cases, Runner.sequences h.rules cases probed true =
      (h.rules.filter (·.condition.isAlways)).map Rule.predicates ++
        ((h.applicable called).filter (·.condition.isContaining)).map Rule.predicates ++
          (cases.find? (·.isFor v)).toList.map Case.predicates) ∧
    ((∀ s, v ≠ .text s) → ∀ rules cases,
      Runner.sequences rules cases probed true = Runner.sequences rules cases probed false) := by
  intro called probed
  refine ⟨?rule, ?selected, ?text, ?other⟩
  case rule =>
    intro text ps r
    exact ⟨applies_containing_called hencode, Runner.applies_containing_probed,
      applies_called_eq_probed_iff hencode⟩
  case selected =>
    have hsublist : (Rule.containing probed h.rules).Sublist (Rule.containing called h.rules) :=
      Rule.containing_sublist fun text ps => applies_called_of_probed hencode output elapsed
    rw [← filter_applicable h called] at hsublist
    exact hsublist.trans List.filter_sublist
  case text =>
    rintro s rfl cases
    have hsame : ∀ text ps, Rule.applies ⟨.containing text, ps⟩ called =
        Rule.applies ⟨.containing text, ps⟩ probed :=
      fun text ps => (applies_called_eq_probed_iff hencode).mpr (.inl ⟨s, rfl⟩)
    have hrules : Rule.containing probed h.rules = Rule.containing called h.rules :=
      (Rule.containing_sublist fun text ps => (hsame text ps).trans).antisymm
        (Rule.containing_sublist fun text ps => (hsame text ps).symm.trans)
    rw [Runner.sequences_withSubstrings, filter_applicable, hrules]
    rfl
  case other =>
    intro hv rules cases
    have hnone : Rule.containing probed rules = [] := Rule.containing_eq_nil hv
    rw [Runner.sequences_withSubstrings, hnone]
    rfl

/-- A text given to an echo is looked into by the call and by the probe. -/
theorem containing_called_and_probed_echo :
    let h := Handle.register "echo" 0 (fun _ s => ⟨.value s, [], 0⟩) .text .text .any
    let r : Rule := ⟨.containing "lamp", []⟩
    r.applies (h.seen "red lamp" "red lamp" 0) =
      r.applies (Runner.probeMetadata (.text "red lamp") (.text "red lamp")) := by
  intro h r
  exact ((containing_called_and_probed h "red lamp" (.text "red lamp") rfl "red lamp" 0
    (.text "red lamp")).1 "lamp" []).2.2.mpr (.inl ⟨_, rfl⟩)

/-- A prompt in a field is looked into by the call but not by the probe. -/
theorem prompt_not_probed :
    let h := Handle.register "echo" 0 (fun _ v => ⟨.value v, [], 0⟩) .json .json .any
    let v := Json.object [("prompt", .text "lamp")]
    let r : Rule := ⟨.containing "lamp", []⟩
    h.input.decode v = .ok v ∧ h.input.encode v = .ok v ∧
      r.applies (h.seen v v 0) = true ∧ r.applies (Runner.probeMetadata v v) = false := by
  refine ⟨rfl, rfl, ?_, rfl⟩
  decide

end Handle

end CallCheck
