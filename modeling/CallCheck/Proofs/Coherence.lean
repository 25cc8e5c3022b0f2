import CallCheck.Proofs.Substrings

/-!
# Exact rules beside rules for a part of the input

The record of a call has two inputs: the raw one, which is the argument or the list of them, and the
logical one, which is the prompt. A rule for an exact text may find its text in either, while a rule for
a text in the input looks at the logical one alone. Still the former never applies without the latter
(`Rule.CohereAt`): if the raw input is a text it is the prompt as well (`Extract.prompt_of_rawInput`), so
that looking at it finds nothing new. What is declared for any other value depends on the raw input only.
-/

namespace CallCheck

/-! ### The two inputs of a record -/

namespace Extract

theorem rawInput_of_length_ne_one {args : List Json} (h : args.length ≠ 1) :
    rawInput args = .list args := by
  match args, h with
  | [], _ => rfl
  | [_], h => exact absurd rfl h
  | _ :: _ :: _, _ => rfl

/-- If the raw input is a text, there is one argument, and that is the prompt. -/
theorem prompt_of_rawInput {args : List Json} {s : String} (h : rawInput args = .text s) :
    prompt args = s := by
  match args, h with
  | [], h => cases h
  | [v], h =>
    obtain rfl : v = .text s := h
    rfl
  | _ :: _ :: _, h => cases h

end Extract

/-- Whether a record whose raw input is a text has the same logical input. -/
def Metadata.AgreesOnText (m : Metadata) : Prop := ∀ s, m.rawInput = .text s → m.input = .text s

theorem Extract.agreesOnText_metadata (args : List Json) (result : Json) (elapsed : Nat) :
    (metadata args result elapsed).AgreesOnText :=
  fun _ h => congrArg Json.text (prompt_of_rawInput h)

theorem Metadata.agreesOnText_uninstrumented (input : Json) (output : String) :
    (uninstrumented input output).AgreesOnText := fun _ h => h

/-! ### Exact rules -/

namespace Rule

variable {m : Metadata} {d : Json} {ps : List Predicate}

/-- A rule for an exact text applies where that is the logical input. -/
theorem applies_exactly_text_iff (hm : m.AgreesOnText) {s : String} :
    (⟨.exactly (.text s), ps⟩ : Rule).applies m = true ↔ m.input = .text s := by
  rw [applies, Condition.holds, inputMatches, Bool.or_eq_true, Json.sameValue_text,
    Json.sameValue_text]
  exact or_iff_left_of_imp (hm s)

/-- A rule for any other exact input looks at the raw input alone. -/
theorem applies_exactly_of_ne_text (hd : ∀ s, d ≠ .text s) :
    (⟨.exactly d, ps⟩ : Rule).applies m = d.sameValue m.rawInput := by
  cases d with
  | text s => exact absurd rfl (hd s)
  | null | bool | number | list | object => rfl

/-- Exact rules fit the rules for a text in the input, at the record of a call with the raw input `raw`:
one for a text applies only together with those for a part of the text, and one for any other value
applies if that is equal by value to the raw input, whatever the logical one is. -/
structure CohereAt (m : Metadata) (raw : Json) : Prop where
  text : ∀ s ps, (⟨.exactly (.text s), ps⟩ : Rule).applies m = true →
    ∀ u qs, u.toList <:+: s.toList → (⟨.containing u, qs⟩ : Rule).applies m = true
  other : ∀ d ps, (∀ s, d ≠ .text s) → ∀ input,
    ((⟨.exactly d, ps⟩ : Rule).applies { m with input } = true ↔ d.sameValue raw = true)

theorem cohereAt_rawInput (hm : m.AgreesOnText) : CohereAt m m.rawInput where
  text s ps happlies u qs hu :=
    applies_containing_iff.mpr ⟨s, (applies_exactly_text_iff hm).mp happlies, hu⟩
  other d ps hd input := by rw [applies_exactly_of_ne_text hd]

/-- **Exact rules and rules for a part of the input are coherent**, at the record of every call with any
arguments and result, and at that of every probe. The raw input of a call is its argument, or the list of
its arguments unless there is just one. -/
theorem exact_coheres_with_containing :
    (∀ args result elapsed,
      CohereAt (Extract.metadata args result elapsed) (Extract.rawInput args)) ∧
    (∀ input output, CohereAt (.uninstrumented input output) input) ∧
    (∀ v, Extract.rawInput [v] = v) ∧
    (∀ args : List Json, args.length ≠ 1 → Extract.rawInput args = .list args) := by
  refine ⟨?calls, ?probes, fun _ => rfl, fun _ => Extract.rawInput_of_length_ne_one⟩
  case calls =>
    intro args result elapsed
    exact cohereAt_rawInput (Extract.agreesOnText_metadata args result elapsed)
  case probes =>
    intro input output
    exact cohereAt_rawInput (Metadata.agreesOnText_uninstrumented input output)

/-- A call with a prompt and a tone: the rule for the prompt applies together with that for a word of it,
and the rule for the object whatever the prompt is. -/
theorem exact_coheres_with_containing_lamp :
    let argument : Json := .object [("prompt", .text "red lamp"), ("tone", .text "warm")]
    let m := Extract.metadata [argument] (.text "on") 5
    (⟨.exactly (.text "red lamp"), []⟩ : Rule).applies m = true ∧
      (⟨.containing "lamp", []⟩ : Rule).applies m = true ∧
      (⟨.exactly argument, []⟩ : Rule).applies { m with input := .text "dim" } = true := by
  intro argument m
  have hcoheres : CohereAt m argument := exact_coheres_with_containing.1 [argument] (.text "on") 5
  have hprompt : (⟨.exactly (.text "red lamp"), []⟩ : Rule).applies m = true := by decide
  refine ⟨hprompt, hcoheres.text "red lamp" [] hprompt "lamp" [] ?_,
    (hcoheres.other argument [] (fun _ h => nomatch h) (.text "dim")).mpr (by decide)⟩
  exact ⟨"red ".toList, [], rfl⟩

end Rule
end CallCheck
