import CallCheck.Proofs.Check

/-!
# How checks that do not pass are reported

Whatever way a check ends, what a sequence reports is a failure. A built-in predicate complains under
its own name. The error that a custom check raises may carry failures anywhere among its layers, and
then the outermost of them is reported as it is; an error without any, or a panic, is wrapped into a
failure under the name of the check. `Predicate.FailsWith` says so case by case, by the layers of the
error, and `Predicate.failsWith_iff` that this is what a check reports.

A sequence reports what its first predicate that does not pass fails with, and nothing of what comes
after that one matters (`Predicate.sequences_report`).
-/

namespace CallCheck

/-! ### The layers of an error -/

namespace Raised

variable {e : Raised} {f : Failure}

/-- In words an error is its outermost layer. -/
theorem text_of_layers {l : Layer} {inner : List Layer} (h : e.layers = l :: inner) :
    e.text = l.text := by
  have hhead : e.layers.head? = some (e.context.getLast?.getD e.base) := by
    rw [layers, List.head?_append, List.head?_reverse]
    cases e.context.getLast? <;> rfl
  rw [h, List.head?_cons, Option.some.injEq] at hhead
  rw [text, ← hhead]

/-- Layers without a failure are texts. -/
theorem eq_map_plain {ls : List Layer} (h : ∀ l ∈ ls, l.failure? = none) :
    ∃ texts : List String, ls = texts.map .plain := by
  induction ls with
  | nil => exact ⟨[], rfl⟩
  | cons l ls ih =>
      obtain ⟨hl, hls⟩ := List.forall_mem_cons.mp h
      obtain ⟨texts, rfl⟩ := ih hls
      cases l with
      | plain t => exact ⟨t :: texts, rfl⟩
      | failure g => cases hl

theorem failure?_of_mem_map_plain {texts : List String} :
    ∀ l ∈ texts.map Layer.plain, l.failure? = none := by
  rw [List.forall_mem_map]
  exact fun _ _ => rfl

/-- An error carries a failure if that is a layer with nothing but texts around it. -/
theorem failure?_eq_some_iff :
    e.failure? = some f ↔ ∃ (outer : List String) (inner : List Layer),
      e.layers = outer.map .plain ++ .failure f :: inner := by
  rw [failure?, List.findSome?_eq_some_iff]
  constructor
  · rintro ⟨outer, l, inner, hlayers, hl, houter⟩
    obtain ⟨texts, rfl⟩ := eq_map_plain houter
    cases l with
    | plain t => cases hl
    | failure g =>
        cases hl
        exact ⟨texts, inner, hlayers⟩
  · rintro ⟨texts, inner, hlayers⟩
    exact ⟨_, .failure f, inner, hlayers, rfl, failure?_of_mem_map_plain⟩

/-- An error carries no failure if all its layers are texts. -/
theorem failure?_eq_none_iff : e.failure? = none ↔ ∃ texts : List String, e.layers = texts.map .plain := by
  rw [failure?, List.findSome?_eq_none_iff]
  constructor
  · exact eq_map_plain
  · rintro ⟨texts, hlayers⟩
    rw [hlayers]
    exact failure?_of_mem_map_plain

end Raised

namespace Predicate

variable {m : Metadata} {p : Predicate} {ps passed rest : List Predicate} {f : Failure}

/-! ### One predicate -/

/-- What a predicate fails with at a call. A complaint of a built-in predicate bears its name. Of a
custom check, the outermost failure among the layers of its error counts as it is; if all layers are
texts, the outermost of them is wrapped under the name of the check, and so is a panic. -/
inductive FailsWith (m : Metadata) : Predicate → Failure → Prop where
  | complaint {p : Predicate} {text : String} (h : p.complaint? m = some text) :
      FailsWith m p ⟨p.name, text⟩
  | carried {name : String} {code : Metadata → Told (Outcome Unit)} {e : Raised} {f : Failure}
      {outer : List String} {inner : List Layer} (hraised : (code m).value = .raised e)
      (hlayers : e.layers = outer.map .plain ++ .failure f :: inner) :
      FailsWith m (.custom name code) f
  | raised {name : String} {code : Metadata → Told (Outcome Unit)} {e : Raised} {text : String}
      {inner : List String} (hraised : (code m).value = .raised e)
      (hlayers : e.layers = (text :: inner).map .plain) :
      FailsWith m (.custom name code) ⟨name, "Assertion failed: " ++ text⟩
  | panicked {name : String} {code : Metadata → Told (Outcome Unit)} {text : String}
      (hpanicked : (code m).value = .panicked (.text text)) :
      FailsWith m (.custom name code) ⟨name, "Assertion failed: " ++ text⟩
  | panickedOther {name : String} {code : Metadata → Told (Outcome Unit)}
      (hpanicked : (code m).value = .panicked .other) :
      FailsWith m (.custom name code) ⟨name, "Assertion failed: panic with non-string payload"⟩

/-- A predicate that is not custom raises its complaint, if it has one. -/
theorem check_of_ne_custom (hp : ∀ name code, p ≠ .custom name code) :
    p.check m = match p.complaint? m with
      | none => pure (.value ())
      | some text => pure (.raised (.ofFailure ⟨p.name, text⟩)) := by
  unfold check
  split
  · exact absurd rfl (hp _ _)
  · rfl

/-- A complaint is reported under the name of the predicate. -/
theorem value_failure?_of_complaint {text : String} (h : p.complaint? m = some text) :
    (p.failure? m).value = some ⟨p.name, text⟩ := by
  have hp : ∀ name code, p ≠ .custom name code := by
    rintro name code rfl
    cases h
  rw [value_failure?, check_of_ne_custom hp, h]
  rfl

/-- A predicate that is not custom and has no complaint reports nothing. -/
theorem value_failure?_of_no_complaint (hp : ∀ name code, p ≠ .custom name code)
    (h : p.complaint? m = none) : (p.failure? m).value = none := by
  rw [value_failure?, check_of_ne_custom hp, h]
  rfl

/-- A custom check reports the failure that its outcome amounts to. -/
theorem value_failure?_custom (name : String) (code : Metadata → Told (Outcome Unit)) :
    ((custom name code).failure? m).value = (code m).value.failure? name := rfl

theorem failsWith_custom_of_outcome {name : String} {code : Metadata → Told (Outcome Unit)}
    (h : (code m).value.failure? name = some f) : FailsWith m (.custom name code) f := by
  cases hcode : (code m).value with
  | value u =>
      rw [hcode] at h
      cases h
  | panicked payload =>
      rw [hcode] at h
      cases payload with
      | text t => cases h; exact .panicked hcode
      | other => cases h; exact .panickedOther hcode
  | raised e =>
      rw [hcode, Outcome.failure?, Option.some.injEq] at h
      cases hcarried : e.failure? with
      | some g =>
          obtain ⟨outer, inner, hlayers⟩ := Raised.failure?_eq_some_iff.mp hcarried
          rw [hcarried] at h
          cases h
          exact .carried hcode hlayers
      | none =>
          obtain ⟨texts, hlayers⟩ := Raised.failure?_eq_none_iff.mp hcarried
          rw [hcarried] at h
          cases h
          cases texts with
          | nil => simp [Raised.layers] at hlayers
          | cons t inner =>
              rw [Raised.text_of_layers hlayers]
              exact .raised hcode hlayers

/-- What a check reports is what the predicate fails with. -/
theorem failsWith_iff : FailsWith m p f ↔ (p.failure? m).value = some f := by
  constructor
  · intro h
    cases h with
    | complaint h => exact value_failure?_of_complaint h
    | carried hraised hlayers =>
        have hcarried := Raised.failure?_eq_some_iff.mpr ⟨_, _, hlayers⟩
        rw [value_failure?_custom, hraised, Outcome.failure?, hcarried]
        rfl
    | raised hraised hlayers =>
        have hnone := Raised.failure?_eq_none_iff.mpr ⟨_, hlayers⟩
        rw [value_failure?_custom, hraised, Outcome.failure?, hnone, Raised.text_of_layers hlayers]
        rfl
    | panicked hpanicked => rw [value_failure?_custom, hpanicked]; rfl
    | panickedOther hpanicked => rw [value_failure?_custom, hpanicked]; rfl
  · intro h
    cases hcomplaint : p.complaint? m with
    | some text =>
        rw [value_failure?_of_complaint hcomplaint] at h
        cases h
        exact .complaint hcomplaint
    | none =>
        by_cases hcustom : ∃ name code, p = .custom name code
        · obtain ⟨name, code, rfl⟩ := hcustom
          exact failsWith_custom_of_outcome h
        · have hp : ∀ name code, p ≠ .custom name code :=
            fun name code heq => hcustom ⟨name, code, heq⟩
          rw [value_failure?_of_no_complaint hp hcomplaint] at h
          cases h

/-- Of several failures among the layers the outermost counts, even when a text is around it. -/
example : ((custom "strict" fun _ => pure (.raised ⟨.failure ⟨"base", "first"⟩,
    [.failure ⟨"wrapper", "second"⟩, .plain "third"]⟩)).failure? m).value =
      some ⟨"wrapper", "second"⟩ := rfl

/-! ### Sequences -/

/-- A sequence is evaluated up to its first predicate that does not pass. -/
theorem evaluated_of_not_passes (hpassed : ∀ q ∈ passed, q.passes m = true)
    (hp : p.passes m = false) (rest : List Predicate) :
    evaluated m (passed ++ p :: rest) = passed ++ [p] := by
  induction passed with
  | nil => simp [evaluated, hp]
  | cons q passed ih =>
      obtain ⟨hq, hpassed⟩ := List.forall_mem_cons.mp hpassed
      rw [List.cons_append, evaluated, if_pos hq, ih hpassed, List.cons_append]

theorem failsFirst_of_failsWith (hpassed : ∀ q ∈ passed, q.passes m = true)
    (hp : FailsWith m p f) (rest : List Predicate) : FailsFirst m (passed ++ p :: rest) f := by
  have hvalue : (p.failure? m).value = some f := failsWith_iff.mp hp
  exact ⟨passed, p, rest, rfl, hpassed, hvalue,
    evaluated_of_not_passes hpassed (not_passes_iff.mpr ⟨f, hvalue⟩) rest⟩

/-- A sequence whose first predicate that does not pass is `p` reports what `p` fails with. The checks
up to that of `p` are all that log, whatever comes after it. -/
theorem firstFailure?_of_failsWith (hpassed : ∀ q ∈ passed, q.passes m = true)
    (hp : FailsWith m p f) (rest : List Predicate) :
    firstFailure? m (passed ++ p :: rest) =
      ⟨some f, (passed ++ [p]).flatMap fun q => (q.check m).events⟩ := by
  have hnot : p.passes m = false := not_passes_iff.mpr ⟨f, failsWith_iff.mp hp⟩
  rw [← failsFirst_iff.mp (failsFirst_of_failsWith hpassed hp rest),
    ← evaluated_of_not_passes hpassed hnot rest, ← events_firstFailure?]

/-- **Sequences report what they first fail with.** A sequence has no failure exactly when all its
predicates pass. Otherwise its failure is what its first predicate that does not pass fails with;
there is exactly one such failure, and the predicates after that one are not evaluated: nothing about
the report, events included, depends on them. Of several sequences each is checked as it is alone, and
their failures are those of the ones that fail, in order. -/
theorem sequences_report (m : Metadata) (ps : List Predicate) (sequences : List (List Predicate)) :
    ((firstFailure? m ps).value = none ↔ ∀ p ∈ ps, p.passes m = true) ∧
    (∀ f, (firstFailure? m ps).value = some f ↔
      ∃ passed p rest, ps = passed ++ p :: rest ∧ (∀ q ∈ passed, q.passes m = true) ∧
        FailsWith m p f) ∧
    (∀ p, p.passes m = false ↔ ∃ f, FailsWith m p f) ∧
    (∀ p f g, FailsWith m p f → FailsWith m p g → f = g) ∧
    (∀ passed p f, (∀ q ∈ passed, q.passes m = true) → FailsWith m p f →
      ∀ rest, firstFailure? m (passed ++ p :: rest) =
        ⟨some f, (passed ++ [p]).flatMap fun q => (q.check m).events⟩) ∧
    failures m sequences =
      ⟨sequences.filterMap fun ps => (firstFailure? m ps).value,
        sequences.flatMap fun ps => (firstFailure? m ps).events⟩ := by
  refine ⟨firstFailure?_eq_none, ?first, ?fails, ?unique, ?stops, ?each⟩
  case first =>
    intro f
    rw [← failsFirst_iff]
    constructor
    · rintro ⟨passed, p, rest, rfl, hpassed, hp, -⟩
      exact ⟨passed, p, rest, rfl, hpassed, failsWith_iff.mpr hp⟩
    · rintro ⟨passed, p, rest, rfl, hpassed, hp⟩
      exact failsFirst_of_failsWith hpassed hp rest
  case fails =>
    intro p
    rw [not_passes_iff]
    exact exists_congr fun f => failsWith_iff.symm
  case unique =>
    intro p f g hf hg
    have heq : some f = some g := (failsWith_iff.mp hf).symm.trans (failsWith_iff.mp hg)
    exact Option.some.inj heq
  case stops => exact fun passed p f hpassed hp rest => firstFailure?_of_failsWith hpassed hp rest
  case each =>
    rw [← value_failures, ← events_failures]

end Predicate
end CallCheck
