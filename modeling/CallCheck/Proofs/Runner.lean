import CallCheck.Runner
import CallCheck.Proofs.Checked

/-!
# Probes

A probe sends one input to a target and judges the answer. The judgement (`Runner.judge`) is a
function of the answer alone: the journal only matters for what the target answers. A run over
several inputs counts one judgement for each input, in order (`Runner.value_probeInputs_cons`), so
whatever is shown of one probe started after any journal holds of every probe of a run.
-/

namespace CallCheck

/-! ### What a function answers -/

namespace Handle

variable {ι ο : Type} (h : Handle ι ο)

/-- What a probe of the function with an input comes to, given how the function replies. -/
def probed (input : Json) (reply : ι → Reply ο) : Except Fault Json :=
  match h.input.decode input with
  | .error reason => .error (.invalidInput
      ("cannot convert " ++ input.compact ++ " for '" ++ h.name ++ "': " ++ reason))
  | .ok typed =>
    match returned (reply typed) with
    | .error fault => .error fault
    | .ok output =>
      match h.output.encode output with
      | .ok v => .ok v
      | .error reason => .error (.function (.plain ("result is not serializable: " ++ reason)))

theorem value_probe (input : Json) (j : Journal) :
    (h.probe input).value j = h.probed input (h.replyAfter j) := by
  rw [probe, probed]
  cases h.input.decode input with
  | error reason => rfl
  | ok typed =>
      dsimp only
      rw [Run.value_bind, value_call]
      cases returned (h.replyAfter j typed) with
      | error fault => rfl
      | ok output =>
          dsimp only
          cases h.output.encode output with
          | error reason => rfl
          | ok v => rfl

theorem probed_of_value {input : Json} {reply : ι → Reply ο} {typed : ι} {output : ο} {v : Json}
    (hdecode : h.input.decode input = .ok typed) (hvalue : (reply typed).outcome = .value output)
    (hencode : h.output.encode output = .ok v) : h.probed input reply = .ok v := by
  rw [probed, hdecode]
  dsimp only
  rw [returned, hvalue]
  dsimp only
  rw [hencode]

/-- Of a reply nothing but the outcome counts. -/
theorem probed_congr (input : Json) {reply reply' : ι → Reply ο}
    (hreply : ∀ typed, (reply typed).outcome = (reply' typed).outcome) :
    h.probed input reply = h.probed input reply' := by
  rw [probed, probed]
  cases h.input.decode input with
  | error reason => rfl
  | ok typed =>
      dsimp only
      rw [returned, returned, hreply typed]

end Handle

/-- A function whose outcome depends on its input alone. -/
def Subject.Steady {ι ο : Type} (subject : Subject ι ο) : Prop :=
  ∀ n n' input, (subject n input).outcome = (subject n' input).outcome

/-! ### One input -/

namespace Runner

variable (c : Config) (t : Target) (rules : List Rule) (cases : List Case)

/-- How a target is named in the lines about one of its inputs. -/
def label (name : String) (input : Json) : String := name ++ "(" ++ input.display ++ ")"

def probingEvent (input : Json) : LogEvent :=
  ⟨.debug, "Probing", [("probe", label t.name input), ("timeout_ms", toString c.timeoutMillis)]⟩

/-- The metadata that an answer is judged by. -/
def probeMetadata (input raw : Json) : Metadata := .uninstrumented input (Extract.response raw)

/-- The line about some failures, if there are any. -/
def failureLine? (label : String) : List Failure → Option String
  | [] => none
  | fs => some (label ++ ": " ++ "; ".intercalate (fs.map Failure.message))

def failuresOf (input raw : Json) : List Failure :=
  let m := probeMetadata input raw
  (Predicate.failures m (sequences rules cases m c.probeSubstringRules)).value

/-- What is wrong with the answer to an input, if anything. -/
def judge (name : String) (input : Json) : Except Fault Json → Option String
  | .error fault => some (faultLine (label name input) fault)
  | .ok raw => failureLine? (label name input) (failuresOf c rules cases input raw)

/-- The journal at which a target is asked, in a probe started after `j`. -/
def asked (input : Json) (j : Journal) : Journal := j ++ Journal.ofEvents [probingEvent c t input]

/-- A probe judges what the target answers. -/
theorem value_probeInput (input : Json) (j : Journal) :
    (probeInput c t rules cases input).value j =
      judge c rules cases t.name input ((t.probe input).value (asked c t input j)) := by
  rw [probeInput]
  simp only [Run.value_bind, Run.journal_log, Run.value_probing]
  rw [asked, probingEvent, label]
  cases (t.probe input).value _ with
  | error fault => rfl
  | ok raw =>
      rw [judge, failuresOf]
      dsimp only
      rw [Run.value_bind, Run.value_tell]
      dsimp only [probeMetadata]
      cases (Predicate.failures _ _).value with
      | nil => rfl
      | cons f fs => rfl

/-- A probe of a handle judges the reply that its function gives after the journal. -/
theorem value_probeInput_target {ι ο : Type} (h : Handle ι ο) (input : Json) (j : Journal) :
    (probeInput c h.target rules cases input).value j =
      judge c rules cases h.name input (h.probed input (h.replyAfter j)) := by
  rw [value_probeInput]
  show judge c rules cases h.name input ((h.probe input).value _) = _
  rw [Handle.value_probe]
  -- the event at the start of the probe is no call
  have hreply : h.replyAfter (asked c h.target input j) = h.replyAfter j :=
    funext fun typed => h.replyAfter_append_ofEvents j _ typed
  rw [hreply]

/-- A probe of a steady function has the same line after every journal. -/
theorem value_probeInput_of_steady {ι ο : Type} (h : Handle ι ο) (hsteady : h.subject.Steady)
    (input : Json) (j : Journal) :
    (probeInput c h.target rules cases input).value j =
      judge c rules cases h.name input (h.probed input (h.subject 0)) := by
  rw [value_probeInput_target]
  congr 1
  exact h.probed_congr input fun typed => hsteady _ _ typed

def judgingEvents (input : Json) : Except Fault Json → List LogEvent
  | .error _ => []
  | .ok raw =>
    let m := probeMetadata input raw
    (Predicate.failures m (sequences rules cases m c.probeSubstringRules)).events

/-- A probe asks the target, silenced or not, and then logs what its judgement does. -/
theorem journal_probeInput (input : Json) (j : Journal) :
    (probeInput c t rules cases input).journal j =
      (Run.probing c.quietProbes (t.probe input)).journal (asked c t input j) ++
        Journal.ofEvents
          (judgingEvents c rules cases input ((t.probe input).value (asked c t input j))) := by
  rw [probeInput]
  simp only [Run.journal_bind, Run.journal_log, Run.value_probing]
  rw [asked, probingEvent, label]
  cases (t.probe input).value _ with
  | error fault => exact (List.append_nil _).symm
  | ok raw =>
      rw [judgingEvents]
      dsimp only
      rw [Run.journal_bind, Run.journal_tell, Run.value_tell]
      dsimp only [probeMetadata]
      cases (Predicate.failures _ _).value with
      | nil => rfl
      | cons f fs => rfl

/-! ### Several inputs -/

/-- A run over several inputs counts the first and goes on from there. -/
theorem value_probeInputs_cons (input : Json) (rest : List Json) (r : SuiteResult) (j : Journal) :
    (probeInputs c t rules cases (input :: rest) r).value j =
      (probeInputs c t rules cases rest
        (count r ((probeInput c t rules cases input).value j))).value
          ((probeInput c t rules cases input).journal j) := rfl

theorem probeInputs_append (before after : List Json) (r : SuiteResult) :
    probeInputs c t rules cases (before ++ after) r =
      probeInputs c t rules cases before r >>= probeInputs c t rules cases after := by
  induction before generalizing r with
  | nil => rfl
  | cons input before ih =>
      rw [List.cons_append, probeInputs, probeInputs, bind_assoc]
      exact bind_congr fun line => ih (count r line)

/-- Counting one more input never lowers the number of failures. -/
theorem failed_le_count (r : SuiteResult) (line : Option String) :
    r.failed ≤ (count r line).failed := by
  cases line with
  | none => exact Nat.le_refl r.failed
  | some line => exact Nat.le_succ r.failed

theorem failed_le_probeInputs (inputs : List Json) (r : SuiteResult) (j : Journal) :
    r.failed ≤ ((probeInputs c t rules cases inputs r).value j).failed := by
  induction inputs generalizing r j with
  | nil => exact Nat.le_refl r.failed
  | cons input rest ih =>
      rw [value_probeInputs_cons]
      exact Nat.le_trans (failed_le_count r _) (ih _ _)

variable {c t rules cases}

/-- Lines that are known beforehand are counted one after another. -/
theorem value_probeInputs_of_steady {line : Json → Option String}
    (h : ∀ input j, (probeInput c t rules cases input).value j = line input) (inputs : List Json)
    (r : SuiteResult) (j : Journal) :
    (probeInputs c t rules cases inputs r).value j = (inputs.map line).foldl count r := by
  induction inputs generalizing r j with
  | nil => rfl
  | cons input rest ih =>
      rw [value_probeInputs_cons, ih, h input j]
      rfl

/-- Runs that probe every single input alike probe several alike. -/
theorem probeInputs_congr {t' : Target} {rules' : List Rule} {cases' : List Case}
    (h : ∀ input, probeInput c t rules cases input = probeInput c t' rules' cases' input)
    (inputs : List Json) (r : SuiteResult) :
    probeInputs c t rules cases inputs r = probeInputs c t' rules' cases' inputs r := by
  induction inputs generalizing r with
  | nil => rfl
  | cons input rest ih =>
      rw [probeInputs, probeInputs, h]
      exact bind_congr fun line => ih (count r line)

/-! ### What probes add -/

variable {p : Entry → Prop}

/-- Besides what its function adds, a probe adds events. -/
theorem adds_probeInput (hp : ∀ event, p (.logged false event)) {input : Json}
    (hprobe : (Run.probing c.quietProbes (t.probe input)).Adds p) :
    (probeInput c t rules cases input).Adds p := by
  have hlog : ∀ label : String, (Run.log .debug "Probing"
      [("probe", label), ("timeout_ms", toString c.timeoutMillis)]).Adds p :=
    fun label => Run.adds_record (hp _)
  refine (hlog _).bind fun _ => hprobe.bind fun answer => ?_
  cases answer with
  | error fault => exact Run.adds_pure _
  | ok raw =>
      refine (Run.adds_tell hp _).bind fun fs => ?_
      cases fs with
      | nil => exact Run.adds_pure _
      | cons f fs => exact Run.adds_pure _

theorem adds_probeInputs (hp : ∀ event, p (.logged false event))
    (hprobe : ∀ input, (Run.probing c.quietProbes (t.probe input)).Adds p) (inputs : List Json)
    (r : SuiteResult) : (probeInputs c t rules cases inputs r).Adds p := by
  induction inputs generalizing r with
  | nil => exact Run.adds_pure r
  | cons input rest ih =>
      exact (adds_probeInput hp (hprobe input)).bind fun line => ih (count r line)

theorem adds_probeTargets (hp : ∀ event, p (.logged false event)) {ts : List Target}
    (hprobe : ∀ t ∈ ts, ∀ input, (Run.probing c.quietProbes (t.probe input)).Adds p)
    (r : SuiteResult) : (probeTargets c ts r).Adds p := by
  induction ts generalizing r with
  | nil => exact Run.adds_pure r
  | cons t rest ih =>
      obtain ⟨ht, hrest⟩ := List.forall_mem_cons.mp hprobe
      exact (adds_probeInputs hp ht _ r).bind fun r => ih hrest r

end Runner
end CallCheck
