import CallCheck.Handle
import CallCheck.Proofs.Journal

/-!
# Declarations on a handle

A declaration adds at most one rule, and a refused one adds nothing. What it adds is said by
`Declaration.rule?` without any run: an exact input becomes a rule when it can be written and has no
schema errors; otherwise `Declaration.refusal?` says why not. A rule for an exact input brings its
case along (`Rule.case?`), so the handle after any run of declarations is known in closed form
(`Handle.value_declareAll`): its rules are the old ones followed by the accepted ones, and its cases
grow by those of the new rules, in order. `Handle.rules_and_cases_grow` follows every step of a run.
-/

namespace CallCheck

/-! ### Consulting a schema -/

namespace InputSchema

/-- What the schema finds wrong with a value, whenever it is consulted. -/
def found : InputSchema → Json → List String
  | .any, _ => []
  | .json document, v => (document.violations v).map Schema.Violation.words
  | .custom check, v => (check v).value

def accepts (s : InputSchema) (v : Json) : Bool := (s.found v).isEmpty

theorem accepts_iff {s : InputSchema} {v : Json} : s.accepts v = true ↔ s.found v = [] :=
  List.isEmpty_iff

@[simp] theorem value_errors (s : InputSchema) (v : Json) (j : Journal) :
    (s.errors v).value j = s.found v := by
  cases s <;> rfl

@[simp] theorem value_consult (s : InputSchema) (v : Json) (j : Journal) :
    (s.consult v).value j = if s.accepts v then .ok () else .error (.invalid (s.found v)) := by
  rw [consult, accepts, Run.value_bind, value_errors]
  rfl

end InputSchema

/-! ### What a declaration adds -/

/-- A call that declares predicates on a handle. -/
inductive Declaration (ι : Type) where
  | forAll (predicates : List Predicate)
  | forInput (input : ι) (predicates : List Predicate)
  | forInputContaining (text : String) (predicates : List Predicate)

/-- The case that a rule for an exact input comes with. -/
def Rule.case? (r : Rule) : Option Case :=
  match r.condition with
  | .exactly input => some ⟨input, r.predicates⟩
  | _ => none

@[simp] theorem Rule.case?_always (ps : List Predicate) : case? ⟨.always, ps⟩ = none := rfl

@[simp] theorem Rule.case?_containing (text : String) (ps : List Predicate) :
    case? ⟨.containing text, ps⟩ = none := rfl

@[simp] theorem Rule.case?_exactly (input : Json) (ps : List Predicate) :
    case? ⟨.exactly input, ps⟩ = some ⟨input, ps⟩ := rfl

namespace Declaration

variable {ι : Type}

def predicates : Declaration ι → List Predicate
  | .forAll ps | .forInput _ ps | .forInputContaining _ ps => ps

/-- The exact input that predicates are declared for, if it is one. -/
def exactInput? : Declaration ι → Option ι
  | .forInput input _ => some input
  | _ => none

/-- The rule that a declaration adds to a handle with that codec and that schema; none if it is
refused. -/
def rule? (codec : Codec ι) (schema : InputSchema) : Declaration ι → Option Rule
  | .forAll ps => some ⟨.always, ps⟩
  | .forInputContaining text ps => some ⟨.containing text, ps⟩
  | .forInput input ps =>
    match codec.encode input with
    | .ok v => if schema.accepts v then some ⟨.exactly v, ps⟩ else none
    | .error _ => none

/-- Why a declaration on a handle with that codec and that schema is refused, if it is. -/
def refusal? (codec : Codec ι) (schema : InputSchema) : Declaration ι → Option SchemaFault
  | .forInput input _ =>
    match codec.encode input with
    | .ok v => if schema.accepts v then none else some (.invalid (schema.found v))
    | .error reason => some (.serialize reason)
  | _ => none

variable {codec : Codec ι} {schema : InputSchema} {d : Declaration ι} {r : Rule}

/-- A declared rule has the predicates of its declaration. -/
theorem predicates_of_rule? (h : d.rule? codec schema = some r) : r.predicates = d.predicates := by
  cases d with
  | forAll ps => cases h; rfl
  | forInputContaining text ps => cases h; rfl
  | forInput input ps =>
      rw [rule?] at h
      split at h
      · split at h
        · cases h; rfl
        · cases h
      · cases h

/-- A declared case comes from a declaration for its input, which can be written and is accepted. -/
theorem eq_forInput_of_case? {k : Case} (h : d.rule? codec schema = some r)
    (hcase : r.case? = some k) :
    ∃ input, d = .forInput input k.predicates ∧ codec.encode input = .ok k.input ∧
      schema.accepts k.input = true := by
  cases d with
  | forAll ps => cases h; cases hcase
  | forInputContaining text ps => cases h; cases hcase
  | forInput input ps =>
      rw [rule?] at h
      split at h
      case h_1 v hencode =>
        split at h
        case isTrue haccepts =>
          cases h
          cases hcase
          exact ⟨input, rfl, hencode, haccepts⟩
        case isFalse => cases h
      case h_2 => cases h

/-- An input is refused as impossible to write exactly when the codec says so. -/
theorem refusal?_eq_serialize {input : ι} {ps : List Predicate} {reason : String} :
    refusal? codec schema (.forInput input ps) = some (.serialize reason) ↔
      codec.encode input = .error reason := by
  rw [refusal?]
  cases codec.encode input with
  | error reason' => simp
  | ok v => cases schema.accepts v <;> simp

/-- An input is refused as invalid exactly when the schema finds errors in it. -/
theorem refusal?_eq_invalid {input : ι} {ps : List Predicate} {errors : List String} :
    refusal? codec schema (.forInput input ps) = some (.invalid errors) ↔
      ∃ v, codec.encode input = .ok v ∧ schema.found v = errors ∧ errors ≠ [] := by
  rw [refusal?]
  cases codec.encode input with
  | error reason => simp
  | ok v =>
      by_cases hnil : schema.found v = []
      · simp [InputSchema.accepts_iff.mpr hnil, hnil, eq_comm]
      · simp only [if_neg (fun h => hnil (InputSchema.accepts_iff.mp h))]
        constructor
        · rintro ⟨⟩
          exact ⟨v, rfl, rfl, hnil⟩
        · rintro ⟨_, ⟨⟩, rfl, -⟩
          rfl

/-- A refused declaration adds no rule. -/
theorem rule?_of_refusal? {fault : SchemaFault} (h : d.refusal? codec schema = some fault) :
    d.rule? codec schema = none := by
  cases d with
  | forAll ps => cases h
  | forInputContaining text ps => cases h
  | forInput input ps =>
      rw [refusal?] at h
      rw [rule?]
      split at h
      case h_1 v hencode =>
        split at h
        case isTrue => cases h
        case isFalse hrefuses => rw [if_neg hrefuses]
      case h_2 => rfl

end Declaration

/-! ### Runs of declarations -/

namespace Handle

variable {ι ο : Type}

def declare (h : Handle ι ο) : Declaration ι → Run (Except SchemaFault (Handle ι ο))
  | .forAll ps => return .ok (h.forAll ps)
  | .forInput input ps => h.forInput input ps
  | .forInputContaining text ps => return .ok (h.forInputContaining text ps)

/-- The handle after a declaration on it, which is the same one if the declaration is refused. -/
def afterDeclaring (h : Handle ι ο) (d : Declaration ι) : Run (Handle ι ο) := do
  return (← h.declare d).toOption.getD h

def declareAll (h : Handle ι ο) (ds : List (Declaration ι)) : Run (Handle ι ο) :=
  ds.foldlM afterDeclaring h

/-- The handle with more rules at the end, and with the cases that these come with. -/
def extended (h : Handle ι ο) (rs : List Rule) : Handle ι ο :=
  { h with rules := h.rules ++ rs, cases := h.cases ++ rs.filterMap Rule.case? }

@[simp] theorem extended_nil (h : Handle ι ο) : h.extended [] = h := by
  simp [extended]

theorem extended_extended (h : Handle ι ο) (rs rs' : List Rule) :
    (h.extended rs).extended rs' = h.extended (rs ++ rs') := by
  simp [extended]

theorem value_afterDeclaring (h : Handle ι ο) (d : Declaration ι) (j : Journal) :
    (h.afterDeclaring d).value j = h.extended (d.rule? h.input h.schema).toList := by
  rw [afterDeclaring]
  cases d with
  | forAll ps =>
      simp [declare, forAll, addRule, extended, Declaration.rule?, Except.toOption]
  | forInputContaining text ps =>
      simp [declare, forInputContaining, addRule, extended, Declaration.rule?, Except.toOption]
  | forInput input ps =>
      rw [declare, forInput, Declaration.rule?]
      cases h.input.encode input with
      | error reason => simp [Except.toOption]
      | ok v =>
          cases hv : h.schema.accepts v with
          | false => simp [hv, Except.toOption]
          | true => simp [hv, Except.toOption, addCase, addRule, extended]

/-- The handle after a run of declarations: every accepted one has added its rule at the end. -/
theorem value_declareAll (h : Handle ι ο) (ds : List (Declaration ι)) (j : Journal) :
    (h.declareAll ds).value j = h.extended (ds.filterMap (·.rule? h.input h.schema)) := by
  induction ds generalizing h j with
  | nil => rw [List.filterMap_nil, extended_nil]; rfl
  | cons d ds ih =>
      rw [declareAll, List.foldlM_cons, Run.value_bind, value_afterDeclaring]
      rw [← declareAll, ih, extended_extended, List.filterMap_cons]
      -- a declaration keeps the codec and the schema
      cases hd : d.rule? h.input h.schema with
      | none => rfl
      | some r => rfl

/-- Every case of a handle is that of one of its rules. -/
theorem cases_declareAll {h : Handle ι ο} (hcases : h.cases = h.rules.filterMap Rule.case?)
    (ds : List (Declaration ι)) (j : Journal) :
    ((h.declareAll ds).value j).cases = ((h.declareAll ds).value j).rules.filterMap Rule.case? := by
  rw [value_declareAll, extended, List.filterMap_append, hcases]

/-- A last declaration adds its rule to what those before it came to. -/
theorem value_declareAll_concat (h : Handle ι ο) (ds : List (Declaration ι)) (d : Declaration ι)
    (j : Journal) :
    (h.declareAll (ds ++ [d])).value j =
      ((h.declareAll ds).value j).extended (d.rule? h.input h.schema).toList := by
  rw [value_declareAll, value_declareAll, extended_extended, List.filterMap_append]
  cases hd : d.rule? h.input h.schema with
  | none => simp [hd]
  | some r => simp [hd]

/-! ### Refused declarations -/

/-- A declaration gives the extended handle, unless it is refused. -/
theorem value_declare (h : Handle ι ο) (d : Declaration ι) (j : Journal) :
    (h.declare d).value j =
      match d.refusal? h.input h.schema with
      | some fault => .error fault
      | none => .ok (h.extended (d.rule? h.input h.schema).toList) := by
  cases d with
  | forAll ps => simp [declare, forAll, addRule, extended, Declaration.rule?, Declaration.refusal?]
  | forInputContaining text ps =>
      simp [declare, forInputContaining, addRule, extended, Declaration.rule?, Declaration.refusal?]
  | forInput input ps =>
      rw [declare, forInput, Declaration.rule?, Declaration.refusal?]
      cases h.input.encode input with
      | error reason => rfl
      | ok v =>
          cases hv : h.schema.accepts v with
          | false => simp [hv]
          | true => simp [hv, addCase, addRule, extended]

/-- What one declaration more comes to: the next handle, or a fault. -/
theorem value_declare_declareAll (h : Handle ι ο) (ds : List (Declaration ι)) (d : Declaration ι)
    (j j' : Journal) :
    (((h.declareAll ds).value j).declare d).value j' =
      match d.refusal? h.input h.schema with
      | some fault => .error fault
      | none => .ok ((h.declareAll (ds ++ [d])).value j) := by
  rw [value_declare, value_declareAll_concat, value_declareAll]
  rfl

/-- **Rules and cases grow together.** After any declarations on a fresh handle the cases are those
of the rules for exact inputs, in the same order, and the schema has nothing against any of their
inputs. One declaration more adds at most one rule, at the end. Predicates for every call and for
texts in the input are always accepted. Those for an exact input are refused exactly when it cannot
be written or the schema finds errors in it, which the fault then lists, and a refused declaration
leaves the handle as it was. -/
theorem rules_and_cases_grow (name : String) (number : Nat) (subject : Subject ι ο)
    (codec : Codec ι) (output : Codec ο) (schema : InputSchema) (ds : List (Declaration ι))
    (j₀ : Journal) :
    let fresh := register name number subject codec output schema
    let h := (fresh.declareAll ds).value j₀
    let j := (fresh.declareAll ds).journal j₀
    h.cases = h.rules.filterMap Rule.case? ∧
    (∀ k ∈ h.cases, ∃ input, .forInput input k.predicates ∈ ds ∧ codec.encode input = .ok k.input ∧
      ∀ j', (schema.consult k.input).value j' = .ok ()) ∧
    ∀ d,
      let result := (h.declare d).value j
      let next := (fresh.declareAll (ds ++ [d])).value j₀
      (∃ added : Option Rule, next.rules = h.rules ++ added.toList ∧
        next.cases = h.cases ++ added.toList.filterMap Rule.case?) ∧
      (∀ fault, result = .error fault → next = h) ∧
      (∀ ps, d = .forAll ps → result = .ok next ∧ next.rules = h.rules ++ [⟨.always, ps⟩]) ∧
      (∀ text ps, d = .forInputContaining text ps →
        result = .ok next ∧ next.rules = h.rules ++ [⟨.containing text, ps⟩]) ∧
      (∀ input ps, d = .forInput input ps →
        (∀ reason, result = .error (.serialize reason) ↔ codec.encode input = .error reason) ∧
        (∀ errors, result = .error (.invalid errors) ↔
          ∃ v, codec.encode input = .ok v ∧ schema.found v = errors ∧ errors ≠ []) ∧
        (∀ v, codec.encode input = .ok v → schema.found v = [] →
          result = .ok next ∧ next.rules = h.rules ++ [⟨.exactly v, ps⟩])) := by
  intro fresh h j
  have hh : h = fresh.extended (ds.filterMap (·.rule? codec schema)) := value_declareAll fresh ds j₀
  refine ⟨cases_declareAll rfl ds j₀, ?declared, ?step⟩
  case declared =>
    rw [hh]
    intro k hk
    obtain ⟨r, hr, hcase⟩ := List.mem_filterMap.mp hk
    obtain ⟨d, hd, hrule⟩ := List.mem_filterMap.mp hr
    obtain ⟨input, rfl, hencode, haccepts⟩ := Declaration.eq_forInput_of_case? hrule hcase
    refine ⟨input, hd, hencode, fun j' => ?_⟩
    rw [InputSchema.value_consult, if_pos haccepts]
  case step =>
    intro d result next
    have hnext : next = h.extended (d.rule? codec schema).toList :=
      value_declareAll_concat fresh ds d j₀
    have hresult : result = match d.refusal? codec schema with
        | some fault => .error fault
        | none => .ok next := value_declare_declareAll fresh ds d j₀ j
    refine ⟨⟨d.rule? codec schema, ?_, ?_⟩, ?refused, ?forAll, ?containing, ?exactly⟩
    · rw [hnext]; rfl
    · rw [hnext]; rfl
    case refused =>
      intro fault hfault
      cases hrefusal : d.refusal? codec schema with
      | none => rw [hresult, hrefusal] at hfault; cases hfault
      | some fault' =>
          rw [hnext, Declaration.rule?_of_refusal? hrefusal]
          exact extended_nil h
    case forAll =>
      rintro ps rfl
      exact ⟨hresult, by rw [hnext]; rfl⟩
    case containing =>
      rintro text ps rfl
      exact ⟨hresult, by rw [hnext]; rfl⟩
    case exactly =>
      rintro input ps rfl
      have herror : ∀ fault, result = .error fault ↔
          Declaration.refusal? codec schema (.forInput input ps) = some fault := by
        intro fault
        rw [hresult]
        cases Declaration.refusal? codec schema (.forInput input ps) with
        | none => simp
        | some fault' => simp
      refine ⟨fun reason => (herror _).trans Declaration.refusal?_eq_serialize,
        fun errors => (herror _).trans Declaration.refusal?_eq_invalid, ?_⟩
      intro v hencode hnil
      have haccepts : schema.accepts v = true := InputSchema.accepts_iff.mpr hnil
      have hnone : Declaration.refusal? codec schema (.forInput input ps) = none := by
        simp [Declaration.refusal?, hencode, haccepts]
      have hrule : Declaration.rule? codec schema (.forInput input ps) = some ⟨.exactly v, ps⟩ := by
        simp [Declaration.rule?, hencode, haccepts]
      refine ⟨by rw [hresult, hnone], ?_⟩
      rw [hnext, hrule]
      rfl

end Handle
end CallCheck
