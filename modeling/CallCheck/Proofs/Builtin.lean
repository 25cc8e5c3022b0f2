import CallCheck.Proofs.Reporting

/-!
# Laws of the built-in predicates

A built-in predicate passes exactly if it has nothing to complain about, and what that takes is one
condition on the record of the call for each predicate:

    passes_contains : (contains t).passes m = true ↔ t.toList <:+: m.output.toList
    passes_longerThan : (longerThan n).passes m = true ↔ n < m.output.length
    passes_fasterThan : (fasterThan n).passes m = true ↔ m.responseMillis < n
    passes_usesTool : (usesTool x).passes m = true ↔ x ∈ m.tools

The time is measured in nanoseconds, a threshold given in milliseconds, and the time told in whole
milliseconds; still a threshold is kept exactly if the time that is told is below it. From these
conditions come the laws between predicates, those about texts, thresholds and tools
(`Predicate.builtin_laws`).
-/

namespace CallCheck
namespace Predicate

variable {m : Metadata} {p : Predicate}

/-! ### When a predicate passes -/

/-- A predicate that is not custom passes under the condition under which it has no complaint. -/
theorem passes_iff_of_complaint {fine : Prop} [Decidable fine] {text : String}
    (hp : ∀ name code, p ≠ .custom name code)
    (h : p.complaint? m = if fine then none else some text) : p.passes m = true ↔ fine := by
  rw [passes_iff]
  by_cases hfine : fine
  · rw [if_pos hfine] at h
    exact iff_of_true (value_failure?_of_no_complaint hp h) hfine
  · rw [if_neg hfine] at h
    rw [value_failure?_of_complaint h]
    exact iff_of_false nofun hfine

theorem passes_contains {t : String} :
    (contains t).passes m = true ↔ t.toList <:+: m.output.toList := by
  rw [← occursIn_iff]
  exact passes_iff_of_complaint nofun rfl

theorem passes_lacks {t : String} :
    (lacks t).passes m = true ↔ ¬ t.toList <:+: m.output.toList := by
  rw [← occursIn_iff]
  exact passes_iff_of_complaint nofun (ite_not ..).symm

theorem passes_longerThan {n : Nat} : (longerThan n).passes m = true ↔ n < m.output.length :=
  passes_iff_of_complaint nofun rfl

/-- A time is below a number of milliseconds if its whole milliseconds are. -/
theorem passes_fasterThan {n : Nat} : (fasterThan n).passes m = true ↔ m.responseMillis < n := by
  rw [Metadata.responseMillis, Nat.div_lt_iff_lt_mul (by decide)]
  exact passes_iff_of_complaint nofun rfl

theorem passes_usesTool {tool : String} : (usesTool tool).passes m = true ↔ tool ∈ m.tools := by
  rw [← List.contains_iff_mem]
  exact passes_iff_of_complaint nofun rfl

theorem passes_usesNoTool : usesNoTool.passes m = true ↔ m.tools = [] := by
  rw [← List.isEmpty_iff]
  exact passes_iff_of_complaint nofun rfl

/-! ### Laws -/

/-- The laws of the predicates about texts in the response of a call. A text is contained if it is a
run of characters of the response. -/
structure TextLaws (m : Metadata) : Prop where
  occurs : ∀ t, (contains t).passes m = true ↔ t.toList <:+: m.output.toList
  complement : ∀ t, (lacks t).passes m = !(contains t).passes m
  part : ∀ t u, (contains t).passes m = true → u.toList <:+: t.toList →
    (contains u).passes m = true
  longer : ∀ t k, (contains t).passes m = true → k < t.length → (longerThan k).passes m = true

/-- The laws of the predicates with a threshold: each of them passes on one side of a boundary and
fails on the other, the boundary included. A response that is too slow is told with its time in
whole milliseconds, and that is what counts. -/
structure ThresholdLaws (m : Metadata) : Prop where
  longer : ∀ n, (longerThan n).passes m = true ↔ n < m.output.length
  longer_of_le : ∀ k n, k ≤ n → (longerThan n).passes m = true → (longerThan k).passes m = true
  faster : ∀ n, (fasterThan n).passes m = false ↔ n ≤ m.responseMillis
  faster_of_le : ∀ k n, k ≤ n → (fasterThan k).passes m = true → (fasterThan n).passes m = true
  told : ∀ n, n ≤ m.responseMillis → FailsWith m (fasterThan n) ⟨"ensure_response_time_under",
    "Response time should be under " ++ toString n ++ "ms. Actual: " ++
      toString m.responseMillis ++ "ms"⟩

/-- The laws of the predicates about tools: only the set of the tools counts, neither their order nor
how often they were called. -/
structure ToolLaws (m : Metadata) : Prop where
  set : ∀ m' : Metadata, (∀ tool, tool ∈ m.tools ↔ tool ∈ m'.tools) →
    ∀ tool, (usesTool tool).passes m = (usesTool tool).passes m'
  none : usesNoTool.passes m = true ↔ ∀ tool, (usesTool tool).passes m = false

theorem textLaws (m : Metadata) : TextLaws m where
  occurs t := passes_contains
  complement t := by
    rw [Bool.eq_iff_iff, Bool.not_eq_true', ← Bool.not_eq_true, passes_lacks, passes_contains]
  part t u ht hu := passes_contains.mpr (hu.trans (passes_contains.mp ht))
  longer t k ht hk := by
    have hlength : t.length ≤ m.output.length := by
      rw [← String.length_toList, ← String.length_toList]
      exact (passes_contains.mp ht).length_le
    exact passes_longerThan.mpr (Nat.lt_of_lt_of_le hk hlength)

theorem thresholdLaws (m : Metadata) : ThresholdLaws m where
  longer n := passes_longerThan
  longer_of_le k n hk hn := passes_longerThan.mpr (Nat.lt_of_le_of_lt hk (passes_longerThan.mp hn))
  faster n := by rw [← Bool.not_eq_true, passes_fasterThan, Nat.not_lt]
  faster_of_le k n hn hk := passes_fasterThan.mpr (Nat.lt_of_lt_of_le (passes_fasterThan.mp hk) hn)
  told n hn := by
    refine .complaint (p := fasterThan n) ?_
    have hslow : ¬ m.responseTime < n * 1000000 := by
      rw [Nat.not_lt]
      exact (Nat.le_div_iff_mul_le (by decide)).mp hn
    rw [complaint?, if_neg hslow]

theorem toolLaws (m : Metadata) : ToolLaws m where
  set m' hsame tool := by rw [Bool.eq_iff_iff, passes_usesTool, passes_usesTool, hsame]
  none := by
    simp only [passes_usesNoTool, ← Bool.not_eq_true, passes_usesTool, List.eq_nil_iff_forall_not_mem]

/-- **The built-in predicates obey their laws** at every call: to contain a text and to lack it
exclude each other, parts of a contained text are contained and it is no longer than the response,
thresholds are strict and ordered, and tools count as a set. -/
theorem builtin_laws (m : Metadata) : TextLaws m ∧ ThresholdLaws m ∧ ToolLaws m :=
  ⟨textLaws m, thresholdLaws m, toolLaws m⟩

/-- A call that took a nanosecond less than three milliseconds is told to have taken two, and is under
three and not under two. -/
example : let m : Metadata := ⟨.null, .null, "", 2999999, []⟩
    m.responseMillis = 2 ∧ (fasterThan 3).passes m = true ∧ (fasterThan 2).passes m = false := by
  decide

end Predicate
end CallCheck
