import CallCheck.Checked
import CallCheck.Proofs.Check
import CallCheck.Proofs.Journal
import Mathlib.Data.List.Forall2

/-!
# Checked calls are transparent

A checked call calls its function once. An error or a panic of the function is the outcome of the
call, and no rule is looked at. A value is handed on as it is, unless a rule that applies to the call
has a predicate that does not pass: then the call fails, with the first failure of every such rule in
the order of declaration. `Handle.checkedCall_transparent` says all of this at once, together with the
whole journal that the call leaves behind.

The argument goes through the two halves of a call, `Handle.call` and `violations`, each of which
gets its value and its journal in closed form.
-/

namespace CallCheck

namespace Codec

variable {α : Type} (codec : Codec α) (a : α)

def encoded : Json := (codec.encode a).toOption.getD .null

/-- What is logged when a value is written: nothing, unless it cannot be. -/
def encodingEvents : List LogEvent :=
  match codec.encode a with
  | .ok _ => []
  | .error reason =>
    [⟨.debug, "Value not representable as JSON, extracting from null", [("error", reason)]⟩]

end Codec

theorem value_encodeOrNull {α : Type} (codec : Codec α) (a : α) (j : Journal) :
    (encodeOrNull codec a).value j = codec.encoded a := by
  rw [encodeOrNull, Codec.encoded]
  cases codec.encode a <;> rfl

theorem journal_encodeOrNull {α : Type} (codec : Codec α) (a : α) (j : Journal) :
    (encodeOrNull codec a).journal j = j ++ Journal.ofEvents (codec.encodingEvents a) := by
  rw [encodeOrNull, Codec.encodingEvents]
  cases codec.encode a with
  | ok v => simp
  | error reason => rfl

/-! ### The rules of a call -/

namespace Rule

/-- What is logged when a rule is applied to a call: that it is, what its evaluated predicates log,
and that it failed if it did. A rule that does not apply leaves no trace. -/
def events (name : String) (m : Metadata) (r : Rule) : List LogEvent :=
  if r.applies m then
    ⟨.debug, "Applying rule", [("handle", name), ("rule", r.condition.words),
        ("predicates", toString r.predicates.length)]⟩ ::
      ((Predicate.evaluated m r.predicates).flatMap (fun p => (p.check m).events) ++
        match (Predicate.firstFailure? m r.predicates).value with
        | some f => [⟨.debug, "Rule failed", [("handle", name), ("assertion", f.assertion)]⟩]
        | none => [])
  else []

def isViolated (m : Metadata) (r : Rule) : Bool := r.predicates.any fun p => !p.passes m

theorem isViolated_iff {m : Metadata} {r : Rule} :
    r.isViolated m = true ↔ ∃ f, (Predicate.firstFailure? m r.predicates).value = some f := by
  rw [← Option.ne_none_iff_exists', ne_eq, Predicate.firstFailure?_eq_none]
  simp [isViolated]

theorem isViolated_eq_false {m : Metadata} {r : Rule} :
    r.isViolated m = false ↔ (Predicate.firstFailure? m r.predicates).value = none := by
  rw [← Bool.not_eq_true, isViolated_iff, ← Option.ne_none_iff_exists']
  exact Decidable.not_not

end Rule

/-- Every rule that applies is evaluated, whatever the others do. -/
theorem value_violations (name : String) (m : Metadata) (rules : List Rule) (j : Journal) :
    (violations name m rules).value j =
      (rules.filter (·.applies m)).filterMap
        fun r => (Predicate.firstFailure? m r.predicates).value := by
  induction rules generalizing j with
  | nil => rfl
  | cons r rest ih =>
      rw [violations, List.filter_cons]
      cases happlies : r.applies m with
      | false =>
          -- a rule that does not apply adds neither a failure nor an entry
          simp only [Bool.false_eq_true, if_false]
          exact ih j
      | true =>
          simp only [if_true, List.filterMap_cons, Run.value_bind, Run.value_tell]
          cases (Predicate.firstFailure? m r.predicates).value with
          | none => exact ih _
          | some f => simp [ih]

theorem journal_violations (name : String) (m : Metadata) (rules : List Rule) (j : Journal) :
    (violations name m rules).journal j =
      j ++ Journal.ofEvents (rules.flatMap (Rule.events name m)) := by
  induction rules generalizing j with
  | nil => simp [violations]
  | cons r rest ih =>
      rw [violations, List.flatMap_cons, Rule.events]
      cases happlies : r.applies m with
      | false =>
          simp only [Bool.false_eq_true, if_false]
          rw [ih j, List.nil_append]
      | true =>
          simp only [if_true, Run.journal_bind, Run.journal_log, Run.value_tell, Run.journal_tell,
            Predicate.events_firstFailure?]
          cases (Predicate.firstFailure? m r.predicates).value with
          | none => simp [ih, Journal.ofEvents_cons]
          | some f => simp [ih, Journal.ofEvents_cons]

/-- The failures of a call belong to the violated rules, one each and in the same order. -/
theorem forall₂_violated (m : Metadata) (rules : List Rule) :
    List.Forall₂ (fun r f => Predicate.FailsFirst m r.predicates f)
      (rules.filter (·.isViolated m))
      (rules.filterMap fun r => (Predicate.firstFailure? m r.predicates).value) := by
  induction rules with
  | nil => exact .nil
  | cons r rest ih =>
      rw [List.filter_cons, List.filterMap_cons]
      cases hr : (Predicate.firstFailure? m r.predicates).value with
      | none =>
          rw [if_neg (by rw [Rule.isViolated_eq_false.mpr hr]; exact Bool.false_ne_true)]
          exact ih
      | some f =>
          rw [if_pos (Rule.isViolated_iff.mpr ⟨f, hr⟩)]
          exact .cons (Predicate.failsFirst_iff.mpr hr) ih

namespace Handle

variable {ι ο : Type} (h : Handle ι ο)

/-! ### The call of the function -/

/-- What the function does with an input when it is called after `j`. -/
def replyAfter (j : Journal) (input : ι) : Reply ο := h.subject (j.callsOf h.number) input

/-- What a call of the function comes to. -/
def returned (reply : Reply ο) : Except Fault ο :=
  match reply.outcome with
  | .value output => .ok output
  | .raised error => .error (.function error)
  | .panicked payload =>
    .error (.function (.plain ("function panicked: " ++ payload.words)))

def callEntries (reply : Reply ο) : Journal :=
  .called h.number reply.elapsed :: Journal.ofEvents reply.events

theorem value_call (input : ι) (j : Journal) :
    (h.call input).value j = returned (h.replyAfter j input) := by
  rw [call, returned]
  simp only [Run.value_bind, Run.value_get, Run.journal_get]
  rw [replyAfter]
  cases (h.subject (j.callsOf h.number) input).outcome <;> rfl

theorem journal_call (input : ι) (j : Journal) :
    (h.call input).journal j = j ++ h.callEntries (h.replyAfter j input) := by
  rw [call, callEntries]
  simp only [Run.journal_bind, Run.value_get, Run.journal_get, Run.journal_record,
    Run.journal_tell]
  rw [replyAfter]
  cases (h.subject (j.callsOf h.number) input).outcome <;> simp

@[simp] theorem callsOf_callEntries (f : Nat) (reply : Reply ο) :
    (h.callEntries reply).callsOf f = if f = h.number then 1 else 0 := by
  simp [callEntries]

@[simp] theorem clock_callEntries (reply : Reply ο) :
    (h.callEntries reply).clock = reply.elapsed := by
  simp [callEntries]

/-- Logging before a call does not change what the function does. -/
@[simp] theorem replyAfter_append_ofEvents (j : Journal) (es : List LogEvent) (input : ι) :
    h.replyAfter (j ++ Journal.ofEvents es) input = h.replyAfter j input := by
  simp [replyAfter]

/-! ### The whole call -/

/-- The metadata that the rules see after a call that returned `output`. -/
def seen (input : ι) (output : ο) (elapsed : Nat) : Metadata :=
  Extract.metadata [h.input.encoded input] (h.output.encoded output) elapsed

def applicable (m : Metadata) : List Rule := h.rules.filter (·.applies m)

/-- What is done before any rule is looked at: the argument is written and the function called. -/
def calledEntries (input : ι) (reply : Reply ο) : Journal :=
  Journal.ofEvents (h.input.encodingEvents input) ++ h.callEntries reply

/-- A result, unless there are failures. -/
def unlessFailed {α : Type} (a : α) : List Failure → Except Fault α
  | [] => .ok a
  | fs => .error (.assertions fs)

theorem unlessFailed_eq_ok_iff {α : Type} {a : α} {fs : List Failure} :
    unlessFailed a fs = .ok a ↔ fs = [] := by
  cases fs <;> simp [unlessFailed]

theorem unlessFailed_of_ne_nil {α : Type} {a : α} {fs : List Failure} (h : fs ≠ []) :
    unlessFailed a fs = .error (.assertions fs) := by
  cases fs with
  | nil => exact absurd rfl h
  | cons f fs => rfl

/-- What a checked call comes to once the function has returned. -/
def verdict (output : ο) (m : Metadata) : Except Fault (ο × Metadata) :=
  unlessFailed (output, m) (Predicate.failures m ((h.applicable m).map Rule.predicates)).value

/-- The violations of a call are the failures of the sequences of its applicable rules. -/
theorem value_violations_rules (m : Metadata) (j : Journal) :
    (violations h.name m h.rules).value j =
      (Predicate.failures m ((h.applicable m).map Rule.predicates)).value := by
  rw [value_violations, Predicate.value_failures, List.filterMap_map]
  rfl

theorem checkedCall_of_returned {input : ι} {j : Journal} {output : ο}
    (hreply : returned (h.replyAfter j input) = .ok output) :
    let reply := h.replyAfter j input
    let m := h.seen input output reply.elapsed
    (h.checkedCall input).value j = h.verdict output m ∧
      (h.checkedCall input).journal j = j ++ h.calledEntries input reply ++
        Journal.ofEvents (h.output.encodingEvents output ++ h.rules.flatMap (Rule.events h.name m)) := by
  intro reply m
  have hm : Extract.metadata [h.input.encoded input] (h.output.encoded output)
      (h.replyAfter j input).elapsed = m := rfl
  rw [checkedCall, verdict, calledEntries]
  simp only [Run.value_bind, Run.journal_bind, value_encodeOrNull, journal_encodeOrNull,
    Run.value_clock, Run.journal_clock, value_call, journal_call, replyAfter_append_ofEvents,
    hreply]
  -- only the call takes time, so the clock has moved by its duration
  simp only [Journal.clock_append, Journal.clock_ofEvents, clock_callEntries, Nat.add_zero,
    Nat.add_sub_cancel_left, hm]
  rw [value_violations_rules]
  cases (Predicate.failures m ((h.applicable m).map Rule.predicates)).value with
  | nil => simp [journal_violations, unlessFailed, reply]
  | cons f fs => simp [journal_violations, unlessFailed, reply]

theorem checkedCall_of_fault {input : ι} {j : Journal} {fault : Fault}
    (hreply : returned (h.replyAfter j input) = .error fault) :
    (h.checkedCall input).value j = .error fault ∧
      (h.checkedCall input).journal j = j ++ h.calledEntries input (h.replyAfter j input) := by
  rw [checkedCall, calledEntries]
  simp [value_encodeOrNull, journal_encodeOrNull, value_call, journal_call, hreply]

/-- The rules that apply have no failures exactly when all their predicates pass. -/
theorem failures_applicable_eq_nil {m : Metadata} :
    (Predicate.failures m ((h.applicable m).map Rule.predicates)).value = [] ↔
      ∀ r ∈ h.applicable m, ∀ p ∈ r.predicates, p.passes m = true := by
  rw [Predicate.failures_eq_nil, List.forall_mem_map]

/-- A checked call returns exactly when nothing that applies is violated. -/
theorem verdict_eq_ok_iff {output : ο} {m : Metadata} :
    h.verdict output m = .ok (output, m) ↔
      ∀ r ∈ h.applicable m, ∀ p ∈ r.predicates, p.passes m = true := by
  rw [verdict, unlessFailed_eq_ok_iff, failures_applicable_eq_nil]

/-- A checked call that fails on its rules has a failure for each violated rule that applies. -/
theorem verdict_of_violated {output : ο} {m : Metadata}
    (hviolated : ¬ ∀ r ∈ h.applicable m, ∀ p ∈ r.predicates, p.passes m = true) :
    ∃ fs, h.verdict output m = .error (.assertions fs) ∧ fs ≠ [] ∧
      List.Forall₂ (fun r f => Predicate.FailsFirst m r.predicates f)
        ((h.applicable m).filter (·.isViolated m)) fs ∧
      fs = (Predicate.failures m ((h.applicable m).map Rule.predicates)).value := by
  have hne : (Predicate.failures m ((h.applicable m).map Rule.predicates)).value ≠ [] := by
    intro hnil
    exact hviolated (h.failures_applicable_eq_nil.mp hnil)
  refine ⟨_, unlessFailed_of_ne_nil hne, hne, ?_, rfl⟩
  -- each failure comes from the first predicate of its rule that does not pass
  rw [Predicate.value_failures, List.filterMap_map]
  exact forall₂_violated m (h.applicable m)

@[simp] theorem value_plainCall (input : ι) (j : Journal) :
    (h.plainCall input).value j = ((h.checkedCall input).value j).map Prod.fst := rfl

@[simp] theorem journal_plainCall (input : ι) (j : Journal) :
    (h.plainCall input).journal j = (h.checkedCall input).journal j := rfl

/-- A call whose function returns fails with the failures of the rules that apply. -/
theorem value_plainCall_of_returned {input : ι} {j : Journal} {output : ο}
    (hreply : returned (h.replyAfter j input) = .ok output) :
    let m := h.seen input output (h.replyAfter j input).elapsed
    (h.plainCall input).value j =
      unlessFailed output (Predicate.failures m ((h.applicable m).map Rule.predicates)).value := by
  intro m
  rw [value_plainCall, (h.checkedCall_of_returned hreply).1, verdict]
  cases (Predicate.failures m ((h.applicable m).map Rule.predicates)).value with
  | nil => rfl
  | cons f fs => rfl

/-- **A checked call is transparent and complete.** It calls its function once and no other. An
error or a panic of the function is its outcome, and the journal shows that no rule was applied. An
output comes back unchanged exactly when every predicate of every rule that applies passes; else
there is one failure for each violated rule that applies, in order, from the first predicate of it
that does not pass, which is the last one evaluated. These are the failures of the sequences of the
rules that apply. A plain call is a checked call without its metadata. -/
theorem checkedCall_transparent (h : Handle ι ο) (input : ι) (j : Journal) :
    let reply := h.replyAfter j input
    let result := (h.checkedCall input).value j
    let after := (h.checkedCall input).journal j
    (∀ f, after.callsOf f = j.callsOf f + if f = h.number then 1 else 0) ∧
    (∀ error, reply.outcome = .raised error →
      result = .error (.function error) ∧ after = j ++ h.calledEntries input reply) ∧
    (∀ payload, reply.outcome = .panicked payload →
      result = .error (.function (.plain ("function panicked: " ++ payload.words))) ∧
        after = j ++ h.calledEntries input reply) ∧
    (∀ output, reply.outcome = .value output →
      let m := h.seen input output reply.elapsed
      let allPass := ∀ r ∈ h.applicable m, ∀ p ∈ r.predicates, p.passes m = true
      (result = .ok (output, m) ↔ allPass) ∧
      (¬ allPass → ∃ fs, result = .error (.assertions fs) ∧ fs ≠ [] ∧
        List.Forall₂ (fun r f => Predicate.FailsFirst m r.predicates f)
          ((h.applicable m).filter (·.isViolated m)) fs ∧
        fs = (Predicate.failures m ((h.applicable m).map Rule.predicates)).value) ∧
      after = j ++ h.calledEntries input reply ++ Journal.ofEvents
        (h.output.encodingEvents output ++ h.rules.flatMap (Rule.events h.name m))) ∧
    (h.plainCall input).value j = result.map Prod.fst ∧
    (h.plainCall input).journal j = after := by
  intro reply result after
  refine ⟨?once, ?raised, ?panicked, ?value, h.value_plainCall input j, h.journal_plainCall input j⟩
  case once =>
    intro f
    -- whatever comes after the call of the function only logs
    have hcalled : (h.calledEntries input reply).callsOf f = if f = h.number then 1 else 0 := by
      simp [calledEntries]
    cases hreply : returned reply with
    | ok output =>
        rw [show after = _ from (h.checkedCall_of_returned hreply).2]
        simp [reply, ← hcalled]
    | error fault =>
        rw [show after = _ from (h.checkedCall_of_fault hreply).2]
        simp [reply, ← hcalled]
  case raised =>
    intro error hraised
    exact h.checkedCall_of_fault (by rw [returned, hraised])
  case panicked =>
    intro payload hpanicked
    exact h.checkedCall_of_fault (by rw [returned, hpanicked])
  case value =>
    intro output hvalue m allPass
    obtain ⟨hresult, hafter⟩ := h.checkedCall_of_returned (by rw [returned, hvalue])
    refine ⟨?_, ?_, hafter⟩
    · rw [show result = h.verdict output m from hresult]
      exact h.verdict_eq_ok_iff
    · intro hviolated
      rw [show result = h.verdict output m from hresult]
      exact h.verdict_of_violated hviolated

end Handle
end CallCheck
