import CallCheck.Proofs.Compilation
import CallCheck.Proofs.Spelling

/-!
# Descriptors of predicates

Every predicate but a custom one is of one of seven kinds (`Predicate.Kind`). A kind has the name that
its predicates report and perhaps a second one, and takes a text, a natural number or nothing. A
descriptor is looked up by the short form of its name, so it means a kind exactly if it is spelled like
one of the kind's names (`Predicate.Kind.IsSpelled`), and these are different for different kinds.
-/

namespace CallCheck
namespace Predicate

/-! ### Kinds -/

/-- A built-in predicate without its parameter. -/
inductive Kind where
  | lacks
  | contains
  | followsPattern
  | fasterThan
  | longerThan
  | usesTool
  | usesNoTool
  deriving DecidableEq

/-- The kind of a predicate that is not custom. -/
def kind? : Predicate → Option Kind
  | .lacks _ => some .lacks
  | .contains _ => some .contains
  | .followsPattern _ => some .followsPattern
  | .fasterThan _ => some .fasterThan
  | .longerThan _ => some .longerThan
  | .usesTool _ => some .usesTool
  | .usesNoTool => some .usesNoTool
  | .custom .. => none

/-- Whether a predicate has the argument as its only parameter, or no parameter if there is no
argument. -/
def Carries (p : Predicate) (arg : Json) : Prop := p.args = [arg] ∨ p.args = [] ∧ arg = .null

namespace Kind

/-- The name under which the predicates of a kind are reported. -/
def name : Kind → String
  | .lacks => "ensure_doesnt_contain"
  | .contains => "ensure_contains"
  | .followsPattern => "ensure_matches_pattern"
  | .fasterThan => "ensure_response_time_under"
  | .longerThan => "ensure_length_over"
  | .usesTool => "tool_is_used"
  | .usesNoTool => "ensure_no_tools_called"

def aliases : Kind → List String
  | .lacks => ["not_contains"]
  | .followsPattern => ["matches"]
  | .usesTool => ["tool_used"]
  | _ => []

def names (k : Kind) : List String := k.name :: k.aliases

/-- Whether a name is a spelling of one of the names of a kind. -/
def IsSpelled (k : Kind) (s : String) : Prop := ∃ name ∈ k.names, Spells s name

theorem plain_names (k : Kind) : ∀ name ∈ k.names, Plain name := by
  cases k <;> decide

theorem not_ensures_shortName (k : Kind) : ∀ name ∈ k.names, ¬ Ensures (shortName name) := by
  cases k <;> decide

/-- A name means a kind if it has the short form of one of the names of the kind. -/
theorem isSpelled_iff {k : Kind} {s : String} :
    k.IsSpelled s ↔ shortName (normalName s) ∈ k.names.map shortName := by
  rw [List.mem_map]
  refine exists_congr fun name => and_congr_right fun hname => ?_
  rw [spells_iff (k.plain_names name hname) (k.not_ensures_shortName name hname), eq_comm]

/-- The predicate of a kind with the argument that a descriptor has. -/
def describe (s : String) (arg : Json) : Kind → Except Fault Predicate
  | .lacks => .lacks <$> textArg s arg
  | .contains => .contains <$> textArg s arg
  | .followsPattern => .followsPattern <$> textArg s arg
  | .fasterThan => .fasterThan <$> natArg s arg
  | .longerThan => .longerThan <$> natArg s arg
  | .usesTool => .usesTool <$> textArg s arg
  | .usesNoTool => .ok .usesNoTool

end Kind

variable {p : Predicate} {k : Kind} {s : String} {arg a : Json}

/-- A descriptor whose name is spelled like a name of a kind is one of that kind. -/
theorem ofDescriptor_of_isSpelled (h : k.IsSpelled s) : ofDescriptor s arg = k.describe s arg := by
  have hshort := Kind.isSpelled_iff.mp h
  cases k with
  | lacks | followsPattern | usesTool =>
      rcases List.mem_pair.mp hshort with hshort | hshort <;> · rw [ofDescriptor, hshort]; rfl
  | contains | fasterThan | longerThan | usesNoTool =>
      rw [ofDescriptor, List.mem_singleton.mp hshort]
      rfl

/-- A name that is no spelling of any name is unknown. -/
theorem ofDescriptor_of_not_isSpelled (h : ∀ k : Kind, ¬ k.IsSpelled s) :
    ofDescriptor s arg = .error (.unknownPredicate s) := by
  have hshort : ∀ k : Kind, ∀ short ∈ k.names.map shortName, shortName (normalName s) ≠ short := by
    rintro k short hmem rfl
    exact h k (Kind.isSpelled_iff.mpr hmem)
  rw [ofDescriptor]
  -- one case for each short name, in the order of the lookup
  split
  · exact absurd ‹_› (hshort .lacks _ (by decide))
  · exact absurd ‹_› (hshort .lacks _ (by decide))
  · exact absurd ‹_› (hshort .contains _ (by decide))
  · exact absurd ‹_› (hshort .followsPattern _ (by decide))
  · exact absurd ‹_› (hshort .followsPattern _ (by decide))
  · exact absurd ‹_› (hshort .fasterThan _ (by decide))
  · exact absurd ‹_› (hshort .longerThan _ (by decide))
  · exact absurd ‹_› (hshort .usesTool _ (by decide))
  · exact absurd ‹_› (hshort .usesTool _ (by decide))
  · exact absurd ‹_› (hshort .usesNoTool _ (by decide))
  · rfl

/-! ### Arguments -/

theorem carries_iff (h : p.args = [a]) : p.Carries arg ↔ arg = a := by
  simp [Carries, h, eq_comm]

theorem natArg_ofInt (s : String) (n : Nat) : natArg s (.ofInt n) = .ok n := by
  simp [natArg, Json.ofInt, Number.toNat?]

theorem exists_kind (h : ∀ n code, p ≠ .custom n code) : ∃ k, p.kind? = some k := by
  cases p with
  | custom n code => exact absurd rfl (h n code)
  | lacks | contains | followsPattern | fasterThan | longerThan | usesTool | usesNoTool =>
      exact ⟨_, rfl⟩

theorem name_of_kind (h : p.kind? = some k) : p.name = k.name := by
  cases p with
  | custom => cases h
  | lacks | contains | followsPattern | fasterThan | longerThan | usesTool | usesNoTool =>
      cases h
      rfl

theorem exists_carries (h : p.kind? = some k) : ∃ arg, p.Carries arg := by
  cases p with
  | custom => cases h
  | usesNoTool => exact ⟨.null, .inr ⟨rfl, rfl⟩⟩
  | lacks | contains | followsPattern | fasterThan | longerThan | usesTool => exact ⟨_, .inl rfl⟩

/-- A predicate is described by its kind and the argument that it carries. -/
theorem describe_of_carries (hk : p.kind? = some k) (h : p.Carries arg) (s : String) :
    k.describe s arg = .ok p := by
  cases p with
  | lacks t | contains t | followsPattern t | usesTool t =>
      cases hk
      obtain rfl := (carries_iff rfl).mp h
      rfl
  | fasterThan n | longerThan n =>
      cases hk
      obtain rfl := (carries_iff rfl).mp h
      rw [Kind.describe, natArg_ofInt]
      rfl
  | usesNoTool =>
      cases hk
      rfl
  | custom => cases hk

/-- An argument is refused under the name that the descriptor has, with what was expected and what was
found. -/
inductive Refused (s : String) (arg : Json) : Except Fault Predicate → Prop where
  | text : Refused s arg (.error (.invalidArgument s ("expected text, got " ++ arg.compact)))
  | natural :
      Refused s arg
        (.error (.invalidArgument s ("expected a non-negative integer, got " ++ arg.compact)))

/-- Where predicates take a text, one of them carries the argument, or it is refused. -/
theorem carries_or_refused_text {f : String → Predicate} (hk : ∀ t, (f t).kind? = some k)
    (hargs : ∀ t, (f t).args = [.text t]) (s : String) (arg : Json) :
    (∃ p : Predicate, p.kind? = some k ∧ p.Carries arg) ∨ Refused s arg (f <$> textArg s arg) := by
  cases arg with
  | text t => exact .inl ⟨f t, hk t, (carries_iff (hargs t)).mpr rfl⟩
  | null | bool | number | list | object => exact .inr .text

/-- Where predicates take a natural number, one of them carries the argument, or it is refused. -/
theorem carries_or_refused_natural {f : Nat → Predicate} (hk : ∀ n, (f n).kind? = some k)
    (hargs : ∀ n, (f n).args = [.ofInt n]) (s : String) (arg : Json) :
    (∃ p : Predicate, p.kind? = some k ∧ p.Carries arg) ∨ Refused s arg (f <$> natArg s arg) := by
  cases arg with
  | number n =>
      cases n with
      | int i =>
          by_cases hi : 0 ≤ i
          · refine .inl ⟨f i.toNat, hk _, (carries_iff (hargs _)).mpr ?_⟩
            rw [Json.ofInt, Int.toNat_of_nonneg hi]
          · refine .inr ?_
            simp only [natArg, Number.toNat?, if_neg hi]
            exact .natural
      | real b => exact .inr .natural
  | null | bool | text | list | object => exact .inr .natural

/-- Of every kind that takes an argument some predicate carries the one that there is, or it is
refused. -/
theorem carries_or_refused (hk : k ≠ .usesNoTool) (s : String) (arg : Json) :
    (∃ p : Predicate, p.kind? = some k ∧ p.Carries arg) ∨ Refused s arg (k.describe s arg) := by
  cases k with
  | lacks | contains | followsPattern | usesTool =>
      exact carries_or_refused_text (fun _ => rfl) (fun _ => rfl) s arg
  | fasterThan | longerThan => exact carries_or_refused_natural (fun _ => rfl) (fun _ => rfl) s arg
  | usesNoTool => exact absurd rfl hk

/-- A descriptor with a name of a kind. -/
theorem ofDescriptor_cases (h : k.IsSpelled s) (arg : Json) :
    (∃ p : Predicate, p.kind? = some k ∧ p.Carries arg ∧ ofDescriptor s arg = .ok p) ∨
      (k ≠ .usesNoTool ∧ (∀ p : Predicate, p.kind? = some k → ¬ p.Carries arg) ∧
        Refused s arg (ofDescriptor s arg)) ∨
      (k = .usesNoTool ∧ arg ≠ .null ∧ ofDescriptor s arg = .ok .usesNoTool) := by
  rw [ofDescriptor_of_isSpelled h]
  by_cases hcarried : ∃ p : Predicate, p.kind? = some k ∧ p.Carries arg
  · obtain ⟨p, hp, hcarries⟩ := hcarried
    exact .inl ⟨p, hp, hcarries, describe_of_carries hp hcarries s⟩
  · have hnone : ∀ p : Predicate, p.kind? = some k → ¬ p.Carries arg :=
      fun p hp hcarries => hcarried ⟨p, hp, hcarries⟩
    by_cases hk : k = .usesNoTool
    · subst hk
      exact .inr (.inr ⟨rfl, fun harg => hnone .usesNoTool rfl (.inr ⟨rfl, harg⟩), rfl⟩)
    · exact .inr (.inl ⟨hk, hnone, (carries_or_refused hk s arg).resolve_left hcarried⟩)

/-- Whatever a descriptor with a name of a kind describes is of that kind, and carries the argument unless
it uses no tool. -/
theorem of_ofDescriptor (h : k.IsSpelled s) (hp : ofDescriptor s arg = .ok p) :
    p.kind? = some k ∧ (p.Carries arg ∨ k = .usesNoTool ∧ arg ≠ .null) := by
  rcases ofDescriptor_cases h arg with ⟨q, hq, hcarries, hok⟩ | ⟨-, -, hrefused⟩ | ⟨rfl, hne, hok⟩
  · obtain rfl := Except.ok.inj (hp.symm.trans hok)
    exact ⟨hq, .inl hcarries⟩
  · rw [hp] at hrefused
    cases hrefused
  · obtain rfl := Except.ok.inj (hp.symm.trans hok)
    exact ⟨rfl, .inr ⟨rfl, hne⟩⟩

/-- **Descriptors rebuild predicates.** A predicate that is not custom is rebuilt from its own argument
and any spelling of its name, or of another name of its kind. A spelling of a name of one kind never
gives a predicate of another kind, and a name that is spelled like none of them is unknown as it is
written, whatever the argument. -/
theorem descriptors_rebuild :
    (∀ p : Predicate, (∀ n code, p ≠ .custom n code) → ∃ k arg,
      p.kind? = some k ∧ p.name = k.name ∧ p.Carries arg ∧
        ∀ s, k.IsSpelled s → ofDescriptor s arg = .ok p) ∧
    (∀ (k : Kind) (s : String), k.IsSpelled s → ∀ arg p, ofDescriptor s arg = .ok p →
      p.kind? = some k) ∧
    (∀ s, (∀ k : Kind, ¬ k.IsSpelled s) → ∀ arg,
      ofDescriptor s arg = .error (.unknownPredicate s)) := by
  refine ⟨?rebuilt, fun k s h arg p hp => (of_ofDescriptor h hp).1, ?unknown⟩
  case rebuilt =>
    intro p hp
    obtain ⟨k, hk⟩ := exists_kind hp
    obtain ⟨arg, harg⟩ := exists_carries hk
    refine ⟨k, arg, hk, name_of_kind hk, harg, fun s hs => ?_⟩
    rw [ofDescriptor_of_isSpelled hs, describe_of_carries hk harg]
  case unknown => exact fun s hs arg => ofDescriptor_of_not_isSpelled hs

/-- A response time, the longest that can be asked for, with its name spelled in an unusual way; `ensure_`
may stand in front only once. -/
theorem descriptors_rebuild_responseTime :
    let name := " Response-TIME_under\n"
    let twice := "ensure_ensure_contains"
    Kind.fasterThan.IsSpelled name ∧ (∀ k : Kind, ¬ k.IsSpelled twice) ∧
      ofDescriptor name (.ofInt 18446744073709551615) = .ok (.fasterThan 18446744073709551615) ∧
      ofDescriptor twice (.text "lamp") = .error (.unknownPredicate twice) := by
  intro name twice
  have hname : Kind.fasterThan.IsSpelled name := Kind.isSpelled_iff.mpr (by decide)
  have htwice : ∀ k : Kind, ¬ k.IsSpelled twice := by
    intro k h
    have hshort := Kind.isSpelled_iff.mp h
    cases k <;> revert hshort <;> decide
  obtain ⟨hrebuilt, -, hunknown⟩ := descriptors_rebuild
  obtain ⟨k, arg, hk, -, harg, hall⟩ :=
    hrebuilt (.fasterThan 18446744073709551615) fun n code h => nomatch h
  cases hk
  obtain rfl := (carries_iff rfl).mp harg
  exact ⟨hname, htwice, hall name hname, hunknown twice htwice (.text "lamp")⟩

end Predicate

/-! ### Rule files -/

namespace RuleFile

variable {f : RuleFile}

/-- A file is compiled only if every entry means a predicate. -/
theorem means_of_compile {t : Target} {j : Journal} {compiled : Compiled}
    (h : (f.compile t).run.value j = .ok compiled) :
    (∀ ds ∈ f.expectations, ∀ e ∈ ds, ∃ p, e.Means p) ∧ f.compiled = compiled := by
  rw [value_compile, value_firstFault?, unlessFault_eq_ok_iff, List.findSome?_eq_none_iff] at h
  exact ⟨((forall_fault?_eq_none_iff f t _).mp h.1).1, h.2⟩

/-- The predicates of the compiled rules are those of the entries, in order. -/
theorem flatMap_predicates_compiled (f : RuleFile) :
    f.compiled.rules.flatMap Rule.predicates = resolved f.expectations.flatten := by
  -- no rule stands for no entries, and it would add no predicates
  have halways : (if f.forAll.isEmpty then []
      else [(⟨.always, resolved f.forAll⟩ : Rule)]).flatMap Rule.predicates = resolved f.forAll := by
    split
    · next hempty => rw [List.isEmpty_iff.mp hempty]; rfl
    · exact List.flatMap_singleton _ _
  have hresolved : ∀ dss : List (List Descriptor), resolved dss.flatten = dss.flatMap resolved := by
    intro dss
    simp only [resolved, List.filterMap_flatten, List.flatMap_def]
    rfl
  rw [compiled, hresolved, expectations, List.flatMap_append, List.flatMap_append, halways,
    List.flatMap_cons, List.flatMap_append, List.append_assoc]
  simp only [List.flatMap_map, ruleOfCase]

/-- Whether a predicate has the argument that an entry was written with. -/
def Descriptor.IsKept (e : Descriptor) (p : Predicate) : Prop :=
  ∃ name arg, e.Says name arg ∧ Predicate.ofDescriptor name arg = .ok p ∧ p.Carries arg

end RuleFile

namespace Predicate

/-- A descriptor gives a predicate that carries its argument, unless it is one to use no tool. -/
theorem carries_of_ofDescriptor (harg : Kind.usesNoTool.IsSpelled s → arg = .null)
    (hp : ofDescriptor s arg = .ok p) : p.Carries arg := by
  by_cases hspelled : ∃ k : Kind, k.IsSpelled s
  · obtain ⟨k, hk⟩ := hspelled
    rcases (of_ofDescriptor hk hp).2 with hcarries | ⟨rfl, hne⟩
    · exact hcarries
    · exact absurd (harg hk) hne
  · rw [ofDescriptor_of_not_isSpelled (not_exists.mp hspelled)] at hp
    cases hp

/-- **Descriptors lose no argument, except one to use no tool.** What is described carries the argument
that is written, unless the name is a spelling of the one for no tool and the argument is not null: there
the argument is dropped. Otherwise every argument that no predicate of a known kind carries is refused.
So each predicate of the rules that a rule file is compiled to carries the argument of its entry, if the
entries for no tool have none. -/
theorem descriptors_keep_arguments (s : String) (arg : Json) :
    ((∀ p, ofDescriptor s arg = .ok p → p.args = [arg] ∨ p.args = [] ∧ arg = .null) ↔
      (Kind.usesNoTool.IsSpelled s → arg = .null)) ∧
    ((Kind.usesNoTool.IsSpelled s → arg = .null) → ∀ k : Kind, k.IsSpelled s →
      (∃ p : Predicate, p.kind? = some k ∧ p.Carries arg ∧ ofDescriptor s arg = .ok p) ∨
      (∀ p : Predicate, p.kind? = some k → ¬ p.Carries arg) ∧
        Refused s arg (ofDescriptor s arg)) ∧
    (Kind.usesNoTool.IsSpelled s → ofDescriptor s arg = .ok .usesNoTool) ∧
    (∀ (f : RuleFile) (t : Target) (j : Journal) compiled,
      (∀ e ∈ f.expectations.flatten, ∀ s arg, e.Says s arg → Kind.usesNoTool.IsSpelled s →
        arg = .null) →
      (f.compile t).run.value j = .ok compiled →
        List.Forall₂ RuleFile.Descriptor.IsKept f.expectations.flatten
          (compiled.rules.flatMap Rule.predicates)) := by
  refine ⟨⟨?dropped, fun harg p => carries_of_ofDescriptor harg⟩, ?known, ofDescriptor_of_isSpelled,
    ?file⟩
  case dropped =>
    intro hkept hs
    -- the predicate has no parameter, so the argument cannot be one
    rcases hkept _ (ofDescriptor_of_isSpelled hs) with hargs | ⟨-, harg⟩
    · cases hargs
    · exact harg
  case known =>
    intro harg k hk
    rcases ofDescriptor_cases hk arg with hcarried | ⟨-, hnone, hrefused⟩ | ⟨rfl, hne, -⟩
    · exact .inl hcarried
    · exact .inr ⟨hnone, hrefused⟩
    · exact absurd (harg hk) hne
  case file =>
    intro f t j compiled hnull hcompile
    obtain ⟨hmeans, rfl⟩ := RuleFile.means_of_compile hcompile
    have hall : ∀ e ∈ f.expectations.flatten, ∃ p, e.Means p := by
      intro e he
      obtain ⟨ds, hds, he⟩ := List.mem_flatten.mp he
      exact hmeans ds hds e he
    rw [RuleFile.flatMap_predicates_compiled]
    -- what an entry means is described by what it says
    refine List.Forall₂.imp ?_
      ((List.forall₂_and_left _ _).mpr ⟨hnull, RuleFile.forall₂_means_resolved hall⟩)
    rintro e p ⟨harg, s, arg, hsays, hp⟩
    exact ⟨s, arg, hsays, hp, carries_of_ofDescriptor (harg s arg hsays) hp⟩

/-- A flag for a length is refused. A file in which a text must be missing and no tool be used is compiled
to predicates with the arguments of its two entries. -/
theorem descriptors_keep_arguments_lamp :
    let lacks : RuleFile.Descriptor := .call [("Not-Contains", .text "lamp")]
    let useNone : RuleFile.Descriptor := .bare "no_tools_called"
    let f : RuleFile := ⟨none, "echo", [lacks, useNone], [], [], []⟩
    let t := (Handle.register "echo" 0 (fun _ s => ⟨.value s, [], 0⟩) .text .text .any).target
    Refused "length_over" (.bool true) (ofDescriptor "length_over" (.bool true)) ∧
    ∃ compiled, (f.compile t).run.value [] = .ok compiled ∧
      List.Forall₂ RuleFile.Descriptor.IsKept [lacks, useNone]
        (compiled.rules.flatMap Rule.predicates) := by
  intro lacks useNone f t
  obtain ⟨-, hknown, -, hfile⟩ := descriptors_keep_arguments "length_over" (.bool true)
  have hlength : Kind.longerThan.IsSpelled "length_over" := Kind.isSpelled_iff.mpr (by decide)
  have hother : ∀ s ∈ ["length_over", "Not-Contains"], ¬ Kind.usesNoTool.IsSpelled s := by
    simp only [Kind.isSpelled_iff]
    decide
  have hcompiled : (f.compile t).run.value [] = .ok f.compiled := rfl
  refine ⟨?_, f.compiled, hcompiled, hfile f t [] f.compiled ?_ hcompiled⟩
  · have hkept := hknown (fun h => absurd h (hother _ (by decide))) .longerThan hlength
    exact (hkept.resolve_left fun ⟨p, _, _, hp⟩ => nomatch hp).2
  · intro e he s arg hsays hspelled
    rcases List.mem_pair.mp he with rfl | rfl
    · change RuleFile.Descriptor.Says (.call _) s arg at hsays
      cases hsays
      exact absurd hspelled (hother _ (by decide))
    · change RuleFile.Descriptor.Says (.bare _) s arg at hsays
      cases hsays
      rfl

/-- Whether no tool is to be used is not asked: the flag is dropped, and the file is compiled. -/
theorem flag_for_no_tool_dropped :
    let entry : RuleFile.Descriptor := .call [("ensure_no_tools_called", .bool false)]
    let f : RuleFile := ⟨none, "echo", [entry], [], [], []⟩
    let t := (Handle.register "echo" 0 (fun _ s => ⟨.value s, [], 0⟩) .text .text .any).target
    ofDescriptor "ensure_no_tools_called" (.bool false) = .ok .usesNoTool ∧
      ¬ Predicate.usesNoTool.Carries (.bool false) ∧
      (f.compile t).run.value [] = .ok ⟨[⟨.always, [.usesNoTool]⟩], []⟩ := by
  intro entry f t
  refine ⟨rfl, ?_, rfl⟩
  rintro (h | ⟨-, h⟩)
  · cases h
  · cases h

end Predicate
end CallCheck
