import CallCheck.Proofs.Declaration
import CallCheck.Proofs.Matching
import CallCheck.Proofs.Runner

/-!
# Equality by value is a congruence

Equality by value is reflexive, symmetric and transitive on values whose objects have each key once. It
does not see the order in which the fields of an object are listed, and it is kept when an item of a
list or a field of an object is replaced by an equal one, however deep in a value (`Json.Place`) that
stands.

Reflexivity is what exact inputs live on: the value that an input was declared with is equal to the
value that it is called or probed with. So the rule for an exact input applies to each call with it, or
with an input that is equal by value, and the probe of a case finds a case for its input. All of this
is `Json.sameValue_congruence`.
-/

namespace CallCheck
namespace Json

/-! ### Places in a value -/

/-- A place in a value, given by what stands around it. -/
inductive Place where
  | here
  | item (before : List Json) (inner : Place) (after : List Json)
  | field (before : List (String × Json)) (key : String) (inner : Place)
      (after : List (String × Json))

/-- The value that has `v` at the place. -/
def Place.fill (v : Json) : Place → Json
  | .here => v
  | .item before inner after => .list (before ++ inner.fill v :: after)
  | .field before key inner after => .object (before ++ (key, inner.fill v) :: after)

variable {eq : Number → Number → Bool} {v w : Json}

theorem agree_item (heq : ∀ n, eq n n = true) {before after : List Json}
    (hkeys : (list (before ++ v :: after)).UniqueKeys) (h : agree eq v w = true) :
    agree eq (.list (before ++ v :: after)) (.list (before ++ w :: after)) = true := by
  cases hkeys with
  | list hitems =>
      have hself : ∀ us, us ⊆ before ++ v :: after →
          List.Forall₂ (fun x y => agree eq x y = true) us us := by
        intro us hus
        exact List.forall₂_same.mpr fun u hu => agree_refl heq (hitems u (hus hu))
      refine agree_list.mpr ⟨_, rfl, List.rel_append (hself before ?_) (.cons h (hself after ?_))⟩
      · exact List.subset_append_left _ _
      · exact fun u hu => List.mem_append_right _ (List.mem_cons_of_mem _ hu)

theorem agree_field (heq : ∀ n, eq n n = true) {before after : List (String × Json)} {key : String}
    (hkeys : (object (before ++ (key, v) :: after)).UniqueKeys) (h : agree eq v w = true) :
    agree eq (.object (before ++ (key, v) :: after)) (.object (before ++ (key, w) :: after)) =
      true := by
  cases hkeys with
  | object hnodup hfields =>
      have hnodup' : ((before ++ (key, w) :: after).map Prod.fst).Nodup := by
        simpa using hnodup
      refine agree_object.mpr ⟨_, rfl, by simp, ?_⟩
      intro f hf
      by_cases hhole : f = (key, v)
      · subst hhole
        have hw : (key, w) ∈ before ++ (key, w) :: after := by simp
        exact ⟨w, field?_of_mem hnodup' hw, h⟩
      · -- the field stands beside the hole, so it is there on both sides
        have hf' : f ∈ before ++ (key, w) :: after := by
          simp only [List.mem_append, List.mem_cons] at hf ⊢
          tauto
        exact ⟨f.2, field?_of_mem hnodup' hf', agree_refl heq (hfields f hf)⟩

theorem Place.uniqueKeys_of_fill {p : Place} (h : (p.fill v).UniqueKeys) : v.UniqueKeys := by
  induction p with
  | here => exact h
  | item before inner after ih =>
      cases h with
      | list hitems => exact ih (hitems _ (by simp))
  | field before key inner after ih =>
      cases h with
      | object _ hfields => exact ih (hfields (key, inner.fill v) (by simp))

/-- A value at a place may be replaced by an equal one. -/
theorem Place.agree_fill (heq : ∀ n, eq n n = true) (p : Place) (hkeys : (p.fill v).UniqueKeys)
    (h : agree eq v w = true) : agree eq (p.fill v) (p.fill w) = true := by
  induction p with
  | here => exact h
  | item before inner after ih =>
      refine agree_item heq hkeys (ih ?_)
      cases hkeys with
      | list hitems => exact hitems _ (by simp)
  | field before key inner after ih =>
      refine agree_field heq hkeys (ih ?_)
      cases hkeys with
      | object _ hfields => exact hfields (key, inner.fill v) (by simp)

/-- The order of the fields does not matter. -/
theorem agree_of_perm (heq : ∀ n, eq n n = true) {fields fields' : List (String × Json)}
    (hkeys : (object fields).UniqueKeys) (hperm : fields.Perm fields') :
    agree eq (.object fields) (.object fields') = true := by
  cases hkeys with
  | object hnodup hfields =>
      have hnodup' : (fields'.map Prod.fst).Nodup := (hperm.map Prod.fst).nodup_iff.mp hnodup
      refine agree_object.mpr ⟨_, rfl, hperm.length_eq, ?_⟩
      intro f hf
      exact ⟨f.2, field?_of_mem hnodup' (hperm.subset hf), agree_refl heq (hfields f hf)⟩

/-! ### Equality by value -/

theorem sameValue_symm (hv : v.UniqueKeys) (hw : w.UniqueKeys) (h : v.sameValue w = true) :
    w.sameValue v = true := by
  refine agree_symm ?_ hv hw h
  intro a b hab
  exact Binary64.sameValue_iff.mpr (Binary64.sameValue_iff.mp hab).symm

theorem number_sameValue_self (n : Number) : n.sameValue n = true := Binary64.sameValue_iff.mpr rfl

end Json

/-! ### Exact inputs -/

/-- A raw input equal by value is enough for a declared input. -/
theorem inputMatches_of_sameValue {declared : Json} {m : Metadata}
    (h : declared.sameValue m.rawInput = true) : inputMatches declared m = true := by
  cases declared with
  | text s => rw [inputMatches, h, Bool.or_true]
  | null | bool | number | list | object => exact h

namespace Handle

variable {ι ο : Type} {h h' : Handle ι ο} {input : ι} {ps : List Predicate}

/-- A call sees the value that its input is written as. -/
theorem rawInput_seen {w : Json} (hencode : h.input.encode input = .ok w) (output : ο)
    (elapsed : Nat) : (h.seen input output elapsed).rawInput = w := by
  show h.input.encoded input = w
  rw [Codec.encoded, hencode]
  rfl

/-- An accepted exact input can be written, and adds the rule for what it is written as. -/
theorem exists_rule_of_forInput {j : Journal} (haccepted : (h.forInput input ps).value j = .ok h') :
    ∃ v, h.input.encode input = .ok v ∧ h' = h.extended [⟨.exactly v, ps⟩] := by
  have hvalue := value_declare h (.forInput input ps) j
  rw [declare, haccepted] at hvalue
  cases hencode : h.input.encode input with
  | error reason => simp [Declaration.refusal?, hencode] at hvalue
  | ok v =>
      cases haccepts : h.schema.accepts v with
      | false => simp [Declaration.refusal?, hencode, haccepts] at hvalue
      | true =>
          simp only [Declaration.refusal?, Declaration.rule?, hencode, haccepts, if_true,
            Except.ok.injEq] at hvalue
          exact ⟨v, rfl, hvalue⟩

/-- Whatever is declared after it, a rule for an exact input applies to the calls with an input that is
equal by value. -/
theorem mem_applicable_of_sameValue {v w : Json} (hrule : ⟨.exactly v, ps⟩ ∈ h.rules)
    (hencode : h.input.encode input = .ok w) (hsame : v.sameValue w = true)
    (ds : List (Declaration ι)) (j : Journal) (output : ο) (elapsed : Nat) :
    let used := (h.declareAll ds).value j
    ⟨.exactly v, ps⟩ ∈ used.applicable (used.seen input output elapsed) := by
  intro used
  have hused : used = h.extended (ds.filterMap (·.rule? h.input h.schema)) := value_declareAll h ds j
  rw [hused, applicable, List.mem_filter]
  -- declarations keep the codec, so the input is written as before
  have hraw : ((h.extended (ds.filterMap (·.rule? h.input h.schema))).seen input output elapsed).rawInput
      = w := rawInput_seen hencode output elapsed
  exact ⟨List.mem_append_left _ hrule, inputMatches_of_sameValue (by rw [hraw, hsame])⟩

end Handle

namespace Runner

/-- For the input of a declared case some case is found, and its predicates are the last sequence. -/
theorem exists_declared {cases : List Case} {k : Case} (hk : k ∈ cases)
    (hkeys : k.input.UniqueKeys) (rules : List Rule) (raw : Json) (withSubstrings : Bool) :
    ∃ k' ∈ cases, k'.isFor k.input = true ∧
      ∃ others, sequences rules cases (probeMetadata k.input raw) withSubstrings =
        others ++ [k'.predicates] := by
  have hsome : (cases.find? (·.isFor k.input)).isSome = true := by
    rw [List.find?_isSome]
    exact ⟨k, hk, Json.sameValue_refl hkeys⟩
  obtain ⟨k', hk'⟩ := Option.isSome_iff_exists.mp hsome
  have hdeclared : cases.find? (·.isFor (probeMetadata k.input raw).rawInput) = some k' := hk'
  refine ⟨k', List.mem_of_find?_eq_some hk', by simpa using List.find?_some hk', ?_⟩
  rw [sequences, hdeclared]
  exact ⟨_, rfl⟩

end Runner

/-- **Equality by value is a congruence.** It is an equivalence on the values whose objects have each
key once; a value at any place in another may be replaced by an equal one, and the fields of an object
at any place may be put into another order. Let an exact input be accepted by a handle, and let anything
be declared on it afterwards: the rule for the input applies to every call with it, and to every call
with an input that is equal by value. For the input of any declared case, a probe finds a case that is
for it. -/
theorem Json.sameValue_congruence :
    Equivalence (fun v w : {v : Json // v.UniqueKeys} => v.1.sameValue w.1 = true) ∧
    (∀ (p : Place) (v w : Json), (p.fill v).UniqueKeys → v.sameValue w = true →
      (p.fill v).sameValue (p.fill w) = true) ∧
    (∀ (p : Place) (fields fields' : List (String × Json)), (p.fill (.object fields)).UniqueKeys →
      fields.Perm fields' →
        (p.fill (.object fields)).sameValue (p.fill (.object fields')) = true) ∧
    (∀ (ι ο : Type) (h h' : Handle ι ο) (input : ι) (ps : List Predicate) (j : Journal),
      (h.forInput input ps).value j = .ok h' →
      ∃ v, h.input.encode input = .ok v ∧ ∀ (ds : List (Declaration ι)) (j' : Journal),
        let used := (h'.declareAll ds).value j'
        (v.UniqueKeys → ∀ output elapsed,
          ⟨.exactly v, ps⟩ ∈ used.applicable (used.seen input output elapsed)) ∧
        (∀ input' w, h.input.encode input' = .ok w → v.sameValue w = true → ∀ output elapsed,
          ⟨.exactly v, ps⟩ ∈ used.applicable (used.seen input' output elapsed))) ∧
    (∀ (rules : List Rule) (cases : List Case) (k : Case), k ∈ cases → k.input.UniqueKeys →
      ∀ raw withSubstrings, ∃ k' ∈ cases, k'.isFor k.input = true ∧
        ∃ others, Runner.sequences rules cases (Runner.probeMetadata k.input raw) withSubstrings =
          others ++ [k'.predicates]) := by
  refine ⟨?equivalence, ?replace, ?reorder, ?calls, ?probes⟩
  case equivalence =>
    exact ⟨fun v => sameValue_refl v.2, fun {v w} h => sameValue_symm v.2 w.2 h,
      fun h h' => sameValue_trans h h'⟩
  case replace => exact fun p v w hkeys h => p.agree_fill number_sameValue_self hkeys h
  case reorder =>
    intro p fields fields' hkeys hperm
    have hobject : (object fields).UniqueKeys := Place.uniqueKeys_of_fill hkeys
    exact p.agree_fill number_sameValue_self hkeys
      (agree_of_perm number_sameValue_self hobject hperm)
  case calls =>
    intro ι ο h h' input ps j haccepted
    obtain ⟨v, hencode, rfl⟩ := Handle.exists_rule_of_forInput haccepted
    refine ⟨v, hencode, ?_⟩
    intro ds j' used
    have hrule : ⟨.exactly v, ps⟩ ∈ (h.extended [⟨.exactly v, ps⟩]).rules :=
      List.mem_append_right _ (List.mem_singleton_self _)
    constructor
    · intro hkeys output elapsed
      exact Handle.mem_applicable_of_sameValue hrule hencode (sameValue_refl hkeys) ds j' output elapsed
    · intro input' w hencode' hsame output elapsed
      exact Handle.mem_applicable_of_sameValue hrule hencode' hsame ds j' output elapsed
  case probes =>
    exact fun rules cases k hk hkeys raw withSubstrings =>
      Runner.exists_declared hk hkeys rules raw withSubstrings

end CallCheck
