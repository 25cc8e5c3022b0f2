import CallCheck.Proofs.Accounts

/-!
# When a run passes

A probe passes when its target answers and everything that is checked holds for the answer
(`Runner.ProbePasses`). What is checked is said rule by rule in `Runner.Holds`; that it amounts to
the sequences of the probe is `Runner.holds_iff`. A target passes when each of its probes does, a
suite when its targets do, and a run when its suites do, each started where the one before it ended.
The main statement, `Runner.totalFailed_eq_zero_iff`, is that a run counts no failure exactly when
it passes.
-/

namespace CallCheck

namespace Handle

variable {ι ο : Type} (h : Handle ι ο)

end Handle

namespace Runner

variable {c : Config} {t : Target} {rules : List Rule} {cases : List Case}

/-! ### One probe -/

theorem isContaining_iff {condition : Condition} :
    condition.isContaining = true ↔ ∃ text, condition = .containing text := by
  cases condition <;> simp [Condition.isContaining]

theorem failureLine?_eq_none {label : String} {fs : List Failure} :
    failureLine? label fs = none ↔ fs = [] := by
  cases fs <;> simp [failureLine?]

variable {d : File.Disk} {registry : Registry}

end Runner
end CallCheck
