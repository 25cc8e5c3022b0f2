import CallCheck.Check

/-!
# What checking a sequence finds

A predicate passes when its check ends with a value (`Predicate.passes`). A sequence is evaluated up
to its first predicate that does not pass (`Predicate.evaluated`): only the checks of those log
anything, and the failure of the sequence is the one that the last of them gives
(`Predicate.failsFirst_iff`). Several sequences are checked one by one, so their failures are the
failures of each, in order.
-/

namespace CallCheck

theorem Outcome.failure?_eq_none {name : String} {o : Outcome Unit} :
    o.failure? name = none ↔ o = .value () := by
  cases o with
  | value u => exact ⟨fun _ => rfl, fun _ => rfl⟩
  | raised error => simp [Outcome.failure?]
  | panicked payload => simp [Outcome.failure?]

namespace Predicate

variable {m : Metadata} {p : Predicate} {ps : List Predicate} {f : Failure}

def passes (m : Metadata) (p : Predicate) : Bool :=
  match (p.check m).value with
  | .value () => true
  | _ => false

theorem value_failure? (p : Predicate) (m : Metadata) :
    (p.failure? m).value = (p.check m).value.failure? p.name := rfl

theorem events_failure? (p : Predicate) (m : Metadata) :
    (p.failure? m).events = (p.check m).events := List.append_nil _

theorem passes_iff : p.passes m = true ↔ (p.failure? m).value = none := by
  rw [value_failure?, Outcome.failure?_eq_none, passes]
  split
  · next h => simp [h]
  · next h => simpa using h

theorem not_passes_iff : p.passes m = false ↔ ∃ f, (p.failure? m).value = some f := by
  rw [← Bool.not_eq_true, passes_iff, ← ne_eq, Option.ne_none_iff_exists']

/-! ### One sequence -/

/-- The predicates of a sequence that are evaluated: those up to the first that does not pass. -/
def evaluated (m : Metadata) : List Predicate → List Predicate
  | [] => []
  | p :: rest => p :: if p.passes m then evaluated m rest else []

theorem value_firstFailure?_cons (m : Metadata) (p : Predicate) (rest : List Predicate) :
    (firstFailure? m (p :: rest)).value =
      ((p.failure? m).value).or (firstFailure? m rest).value := by
  rw [firstFailure?, Told.value_bind]
  cases h : (p.failure? m).value with
  | none => rfl
  | some f => rfl

theorem events_firstFailure?_cons (m : Metadata) (p : Predicate) (rest : List Predicate) :
    (firstFailure? m (p :: rest)).events =
      (p.check m).events ++ if p.passes m then (firstFailure? m rest).events else [] := by
  rw [firstFailure?, Told.events_bind, events_failure?]
  cases h : (p.failure? m).value with
  | none => rw [if_pos (passes_iff.mpr h)]
  | some f =>
      have hp : p.passes m = false := not_passes_iff.mpr ⟨f, h⟩
      simp [hp]

/-- Only the checks of evaluated predicates log. -/
theorem events_firstFailure? (m : Metadata) (ps : List Predicate) :
    (firstFailure? m ps).events = (evaluated m ps).flatMap fun p => (p.check m).events := by
  induction ps with
  | nil => rfl
  | cons p rest ih =>
      rw [events_firstFailure?_cons, evaluated, List.flatMap_cons, ih]
      split <;> rfl

/-- A sequence has no failure exactly when all of it passes. -/
theorem firstFailure?_eq_none :
    (firstFailure? m ps).value = none ↔ ∀ p ∈ ps, p.passes m = true := by
  induction ps with
  | nil => simp [firstFailure?]
  | cons p rest ih =>
      rw [value_firstFailure?_cons, Option.or_eq_none_iff, ih, ← passes_iff, List.forall_mem_cons]

/-- The sequence fails with `f` at its first predicate that does not pass, which is the last one
evaluated. -/
def FailsFirst (m : Metadata) (ps : List Predicate) (f : Failure) : Prop :=
  ∃ passed p rest, ps = passed ++ p :: rest ∧ (∀ q ∈ passed, q.passes m = true) ∧
    (p.failure? m).value = some f ∧ evaluated m ps = passed ++ [p]

theorem failsFirst_cons_of_passes (hp : p.passes m = true) :
    FailsFirst m (p :: ps) f ↔ FailsFirst m ps f := by
  constructor
  · rintro ⟨passed, q, rest, hps, hall, hq, hev⟩
    cases passed with
    | nil =>
        -- the first predicate passes, so it is not the one that fails
        obtain ⟨rfl, rfl⟩ := List.cons.inj hps
        rw [passes_iff.mp hp] at hq
        cases hq
    | cons p' passed =>
        obtain ⟨rfl, rfl⟩ := List.cons.inj hps
        rw [evaluated, if_pos hp] at hev
        exact ⟨passed, q, rest, rfl, fun r hr => hall r (List.mem_cons_of_mem p hr), hq,
          (List.cons.inj hev).2⟩
  · rintro ⟨passed, q, rest, rfl, hall, hq, hev⟩
    refine ⟨p :: passed, q, rest, rfl, List.forall_mem_cons.mpr ⟨hp, hall⟩, hq, ?_⟩
    rw [evaluated, if_pos hp, hev, List.cons_append]

/-- The failure of a sequence is that of its first predicate that does not pass. -/
theorem failsFirst_iff : FailsFirst m ps f ↔ (firstFailure? m ps).value = some f := by
  induction ps with
  | nil =>
      constructor
      · rintro ⟨passed, p, rest, h, -⟩
        exact absurd h (by simp)
      · intro h
        cases h
  | cons p rest ih =>
      rw [value_firstFailure?_cons]
      cases hp : (p.failure? m).value with
      | none =>
          rw [failsFirst_cons_of_passes (passes_iff.mpr hp), ih, Option.none_or]
      | some g =>
          have hnot : p.passes m = false := not_passes_iff.mpr ⟨g, hp⟩
          rw [Option.some_or]
          constructor
          · rintro ⟨passed, q, rest', hps, hall, hq, -⟩
            cases passed with
            | nil =>
                obtain ⟨rfl, rfl⟩ := List.cons.inj hps
                rw [← hp, hq]
            | cons p' passed =>
                obtain ⟨rfl, rfl⟩ := List.cons.inj hps
                rw [hall p List.mem_cons_self] at hnot
                cases hnot
          · intro h
            exact ⟨[], p, rest, rfl, by simp, by rw [hp, h], by simp [evaluated, hnot]⟩

/-! ### Several sequences -/

theorem value_failures (m : Metadata) (sequences : List (List Predicate)) :
    (failures m sequences).value = sequences.filterMap fun ps => (firstFailure? m ps).value := by
  induction sequences with
  | nil => rfl
  | cons ps rest ih =>
      rw [failures, Told.value_bind, Told.value_bind, Told.value_pure, ih, List.filterMap_cons]
      cases (firstFailure? m ps).value with
      | none => rfl
      | some f => rfl

theorem events_failures (m : Metadata) (sequences : List (List Predicate)) :
    (failures m sequences).events = sequences.flatMap fun ps => (firstFailure? m ps).events := by
  induction sequences with
  | nil => rfl
  | cons ps rest ih =>
      rw [failures, Told.events_bind, Told.events_bind, Told.events_pure, ih, List.append_nil,
        List.flatMap_cons]

/-- The failure of the last sequence comes last. -/
theorem value_failures_concat (m : Metadata) (others : List (List Predicate)) (ps : List Predicate) :
    (failures m (others ++ [ps])).value =
      (failures m others).value ++ (firstFailure? m ps).value.toList := by
  rw [value_failures, value_failures, List.filterMap_append, List.filterMap_cons]
  cases (firstFailure? m ps).value with
  | none => rfl
  | some f => rfl

theorem events_failures_concat (m : Metadata) (others : List (List Predicate)) (ps : List Predicate) :
    (failures m (others ++ [ps])).events =
      (failures m others).events ++ (evaluated m ps).flatMap fun p => (p.check m).events := by
  rw [events_failures, events_failures, List.flatMap_append, List.flatMap_singleton,
    events_firstFailure?]

/-- No sequence has a failure exactly when every predicate of every one passes. -/
theorem failures_eq_nil {sequences : List (List Predicate)} :
    (failures m sequences).value = [] ↔ ∀ ps ∈ sequences, ∀ p ∈ ps, p.passes m = true := by
  rw [value_failures, List.filterMap_eq_nil_iff]
  exact forall₂_congr fun ps _ => firstFailure?_eq_none

end Predicate
end CallCheck
