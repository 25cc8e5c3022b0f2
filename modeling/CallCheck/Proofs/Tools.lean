import CallCheck.Extract
import Mathlib.Data.List.Forall2

/-!
# The tools of a result

A result reports its tools in a list of calls, or else in a list of choices each of which has calls of
its own. Whatever stands in these lists, each entry adds the names that it has (`Extract.CallNames`,
`Extract.Contributes`), and no entry can hide what the others add: the tools of two lists after one
another are those of the first and then those of the second (`Extract.tools_append`). So an entry that
has no name can be put anywhere without changing the tools.
-/

namespace CallCheck

theorem Json.text?_eq_some_iff {v : Json} {s : String} : v.text? = some s ↔ v = .text s := by
  cases v with
  | text t => simp [Json.text?]
  | null | bool | number | list | object => simp [Json.text?]

theorem Json.items?_eq_some_iff {v : Json} {items : List Json} :
    v.items? = some items ↔ v = .list items := by
  cases v with
  | list us => simp [Json.items?]
  | null | bool | number | text | object => simp [Json.items?]

namespace Extract

/-! ### Names in a list -/

/-- The names of those values in a list that have one, in order and as often as they stand there. -/
inductive NamesOf (names : Json → String → Prop) : List Json → List String → Prop where
  | nil : NamesOf names [] []
  | named {v : Json} {n : String} {vs : List Json} {ns : List String} (h : names v n)
      (rest : NamesOf names vs ns) : NamesOf names (v :: vs) (n :: ns)
  | nameless {v : Json} {vs : List Json} {ns : List String} (h : ∀ n, ¬ names v n)
      (rest : NamesOf names vs ns) : NamesOf names (v :: vs) ns

/-- Nothing is found where there is nothing to be found. -/
theorem eq_none_of_nameless {found : Option String} {names : String → Prop}
    (h : ∀ n, found = some n ↔ names n) (hnameless : ∀ n, ¬ names n) : found = none :=
  Option.eq_none_iff_forall_ne_some.mpr fun n hn => hnameless n ((h n).mp hn)

/-- Values without a name are left out. -/
theorem namesOf_iff {names : Json → String → Prop} {name? : Json → Option String}
    (h : ∀ v n, name? v = some n ↔ names v n) {vs : List Json} {ns : List String} :
    NamesOf names vs ns ↔ ns = vs.filterMap name? := by
  constructor
  · intro hnames
    induction hnames with
    | nil => rfl
    | named hv _ ih => rw [List.filterMap_cons_some ((h _ _).mpr hv), ih]
    | nameless hv _ ih => rw [List.filterMap_cons_none (eq_none_of_nameless (h _) hv), ih]
  · rintro rfl
    induction vs with
    | nil => exact .nil
    | cons v vs ih =>
        cases hv : name? v with
        | none =>
            rw [List.filterMap_cons_none hv]
            refine .nameless (fun n hn => ?_) ih
            rw [(h v n).mpr hn] at hv
            cases hv
        | some n =>
            rw [List.filterMap_cons_some hv]
            exact .named ((h v n).mp hv) ih

/-- A value without a name adds nothing, wherever it stands. -/
theorem filterMap_insert {name? : Json → Option String} {v : Json} (h : name? v = none)
    (xs ys : List Json) : (xs ++ v :: ys).filterMap name? = (xs ++ ys).filterMap name? := by
  rw [List.filterMap_append, List.filterMap_cons_none h, List.filterMap_append]

/-! ### Calls -/

/-- A call of the function that it names by a text. -/
def NamesFunction (call : Json) (name : String) : Prop :=
  ∃ function, call.get? "function" = some function ∧ function.get? "name" = some (.text name)

def functionName? (call : Json) : Option String :=
  (call.get? "function").bind (·.get? "name") |>.bind Json.text?

theorem functionName?_eq_some_iff {call : Json} {name : String} :
    functionName? call = some name ↔ NamesFunction call name := by
  simp only [functionName?, NamesFunction, Option.bind_eq_some_iff, Json.text?_eq_some_iff,
    exists_eq_right]

/-- The name of a call in the list of calls: the call itself if it is a text, else the text in the
first of its three places that is there. -/
inductive CallNames : Json → String → Prop where
  | text (name : String) : CallNames (.text name) name
  | toolName {call : Json} {name : String} (h : call.get? "toolName" = some (.text name)) :
      CallNames call name
  | name {call : Json} {name : String} (htool : call.get? "toolName" = none)
      (h : call.get? "name" = some (.text name)) : CallNames call name
  | function {call : Json} {name : String} (htool : call.get? "toolName" = none)
      (hname : call.get? "name" = none) (h : NamesFunction call name) : CallNames call name

theorem toolName?_of_ne_text {call : Json} (h : ∀ s, call ≠ .text s) :
    toolName? call = ((call.get? "toolName").or <| (call.get? "name").or <|
      (call.get? "function").bind (·.get? "name")).bind Json.text? := by
  cases call with
  | text s => exact absurd rfl (h s)
  | null | bool | number | list | object => rfl

theorem toolName?_eq_some_iff {call : Json} {name : String} :
    toolName? call = some name ↔ CallNames call name := by
  by_cases htext : ∃ s, call = .text s
  · obtain ⟨s, rfl⟩ := htext
    constructor
    · rintro ⟨⟩
      exact .text name
    · intro h
      cases h with
      | text => rfl
      | toolName h | name _ h => cases h
      | function _ _ h =>
          obtain ⟨_, h, _⟩ := h
          cases h
  · rw [toolName?_of_ne_text (not_exists.mp htext)]
    constructor
    · intro h
      -- the first place that is there decides, also if what stands in it is no text
      cases htool : call.get? "toolName" with
      | some v =>
          rw [htool] at h
          exact .toolName (htool.trans (congrArg some (Json.text?_eq_some_iff.mp h)))
      | none =>
          rw [htool] at h
          cases hname : call.get? "name" with
          | some v =>
              rw [hname] at h
              exact .name htool (hname.trans (congrArg some (Json.text?_eq_some_iff.mp h)))
          | none =>
              rw [hname] at h
              exact .function htool hname (functionName?_eq_some_iff.mp h)
    · intro h
      cases h with
      | text => exact absurd ⟨_, rfl⟩ htext
      | toolName h => rw [h]; rfl
      | name htool h => rw [htool, h]; rfl
      | function htool hname h =>
          rw [htool, hname]
          exact functionName?_eq_some_iff.mpr h

/-! ### Choices -/

/-- The calls of a choice: a list, in the message of the choice. -/
def ChoiceCalls (choice : Json) (calls : List Json) : Prop :=
  ∃ message, choice.get? "message" = some message ∧ message.get? "tool_calls" = some (.list calls)

/-- The names that a choice adds: those of the functions that its calls name, if it has calls. -/
inductive Contributes (choice : Json) : List String → Prop where
  | calls {calls : List Json} {names : List String} (h : ChoiceCalls choice calls)
      (hnames : NamesOf NamesFunction calls names) : Contributes choice names
  | malformed (h : ∀ calls, ¬ ChoiceCalls choice calls) : Contributes choice []

theorem choiceCalls_iff {choice : Json} {calls : List Json} :
    ChoiceCalls choice calls ↔
      ((choice.get? "message").bind (·.get? "tool_calls") |>.bind Json.items?) = some calls := by
  simp only [ChoiceCalls, Option.bind_eq_some_iff, Json.items?_eq_some_iff, exists_eq_right]

theorem choiceTools_of_calls {choice : Json} {calls : List Json} (h : ChoiceCalls choice calls) :
    choiceTools choice = calls.filterMap functionName? := by
  rw [choiceTools, choiceCalls_iff.mp h]
  rfl

theorem choiceTools_of_malformed {choice : Json} (h : ∀ calls, ¬ ChoiceCalls choice calls) :
    choiceTools choice = [] := by
  have hnone : ((choice.get? "message").bind (·.get? "tool_calls") |>.bind Json.items?) = none :=
    Option.eq_none_iff_forall_ne_some.mpr fun calls hcalls => h calls (choiceCalls_iff.mpr hcalls)
  rw [choiceTools, hnone]
  rfl

theorem contributes_choiceTools (choice : Json) : Contributes choice (choiceTools choice) := by
  by_cases h : ∃ calls, ChoiceCalls choice calls
  · obtain ⟨calls, hcalls⟩ := h
    refine .calls hcalls ((namesOf_iff fun _ _ => functionName?_eq_some_iff).mpr ?_)
    exact choiceTools_of_calls hcalls
  · have hnone := not_exists.mp h
    rw [choiceTools_of_malformed hnone]
    exact .malformed hnone

/-! ### Results -/

/-- A result with a list of calls. -/
def HasCalls (result : Json) (calls : List Json) : Prop :=
  result.get? "toolCalls" = some (.list calls)

/-- A result without a list of calls, but with one of choices. -/
structure HasChoices (result : Json) (choices : List Json) : Prop where
  noCalls : ∀ calls, ¬ HasCalls result calls
  choices : result.get? "choices" = some (.list choices)

variable {r r₁ r₂ : Json} {xs ys : List Json}

theorem tools_of_hasCalls (h : HasCalls r xs) : tools r = xs.filterMap toolName? := by
  rw [tools, show r.get? "toolCalls" = some (.list xs) from h]

theorem tools_of_no_calls (h : ∀ calls, ¬ HasCalls r calls) :
    tools r = ((choices? r).getD []).flatMap choiceTools := by
  rw [tools]
  split
  · exact absurd ‹_› (h _)
  · rfl

theorem tools_of_hasChoices (h : HasChoices r xs) : tools r = xs.flatMap choiceTools := by
  rw [tools_of_no_calls h.noCalls, choices?, h.choices]
  rfl

/-- What is no object has no lists. -/
theorem tools_of_ne_object (h : ∀ fields, r ≠ .object fields) : tools r = [] := by
  cases r with
  | object fields => exact absurd rfl (h fields)
  | null | bool | number | text | list => rfl

/-- The tools of two lists of calls, one after the other. Nothing else of the results counts. -/
theorem tools_append_calls (h : HasCalls r (xs ++ ys)) (h₁ : HasCalls r₁ xs)
    (h₂ : HasCalls r₂ ys) : tools r = tools r₁ ++ tools r₂ := by
  rw [tools_of_hasCalls h, tools_of_hasCalls h₁, tools_of_hasCalls h₂, List.filterMap_append]

/-- The tools of two lists of choices, one after the other. -/
theorem tools_append_choices (h : HasChoices r (xs ++ ys)) (h₁ : HasChoices r₁ xs)
    (h₂ : HasChoices r₂ ys) : tools r = tools r₁ ++ tools r₂ := by
  rw [tools_of_hasChoices h, tools_of_hasChoices h₁, tools_of_hasChoices h₂, List.flatMap_append]

/-- Of a choice only what it adds counts. -/
theorem tools_congr_choice {choice choice' : Json} (h : HasChoices r₁ (xs ++ choice :: ys))
    (h' : HasChoices r₂ (xs ++ choice' :: ys)) (hsame : choiceTools choice = choiceTools choice') :
    tools r₁ = tools r₂ := by
  rw [tools_of_hasChoices h, tools_of_hasChoices h', List.flatMap_append, List.flatMap_append,
    List.flatMap_cons, List.flatMap_cons, hsame]

/-- **Tools are extracted entry by entry.** Of a result with a list of calls only that list counts, and
of another one only its list of choices. The tools of two lists after one another are those of the
first followed by those of the second. A call adds the name that it has, if any; a choice adds the names
of the functions that its calls name. So a call without a name and a choice without calls can be put
anywhere: no name is added, and none of the others is lost, moved or merged. What is no object has no
tools. -/
theorem tools_homomorphism :
    (∀ r r₁ r₂ xs ys,
      (HasCalls r (xs ++ ys) → HasCalls r₁ xs → HasCalls r₂ ys → tools r = tools r₁ ++ tools r₂) ∧
      (HasChoices r (xs ++ ys) → HasChoices r₁ xs → HasChoices r₂ ys →
        tools r = tools r₁ ++ tools r₂)) ∧
    (∀ r calls, HasCalls r calls → NamesOf CallNames calls (tools r)) ∧
    (∀ r choices, HasChoices r choices → ∃ blocks,
      List.Forall₂ Contributes choices blocks ∧ tools r = blocks.flatten) ∧
    (∀ r r' xs ys,
      (∀ call, (∀ n, ¬ CallNames call n) → HasCalls r (xs ++ call :: ys) →
        HasCalls r' (xs ++ ys) → tools r = tools r') ∧
      (∀ choice, (∀ calls, ¬ ChoiceCalls choice calls) → HasChoices r (xs ++ choice :: ys) →
        HasChoices r' (xs ++ ys) → tools r = tools r') ∧
      (∀ choice choice' us call vs, (∀ n, ¬ NamesFunction call n) →
        ChoiceCalls choice (us ++ call :: vs) → ChoiceCalls choice' (us ++ vs) →
        HasChoices r (xs ++ choice :: ys) → HasChoices r' (xs ++ choice' :: ys) →
        tools r = tools r')) ∧
    (∀ r, (∀ fields, r ≠ .object fields) → tools r = []) := by
  refine ⟨?append, ?calls, ?choices, ?insert, fun r => tools_of_ne_object⟩
  case append => exact fun r r₁ r₂ xs ys => ⟨tools_append_calls, tools_append_choices⟩
  case calls =>
    intro r calls h
    exact (namesOf_iff fun _ _ => toolName?_eq_some_iff).mpr (tools_of_hasCalls h)
  case choices =>
    intro r choices h
    refine ⟨choices.map choiceTools, ?_, ?_⟩
    · rw [List.forall₂_map_right_iff, List.forall₂_same]
      exact fun choice _ => contributes_choiceTools choice
    · rw [tools_of_hasChoices h, List.flatMap_def]
  case insert =>
    intro r r' xs ys
    refine ⟨?_, ?_, ?_⟩
    · intro call hnameless h h'
      rw [tools_of_hasCalls h, tools_of_hasCalls h']
      exact filterMap_insert (eq_none_of_nameless (fun _ => toolName?_eq_some_iff) hnameless) xs ys
    · intro choice hmalformed h h'
      rw [tools_of_hasChoices h, tools_of_hasChoices h', List.flatMap_append, List.flatMap_cons,
        choiceTools_of_malformed hmalformed, List.nil_append, List.flatMap_append]
    · intro choice choice' us call vs hnameless hcalls hcalls' h h'
      refine tools_congr_choice h h' ?_
      rw [choiceTools_of_calls hcalls, choiceTools_of_calls hcalls']
      exact filterMap_insert (eq_none_of_nameless (fun _ => functionName?_eq_some_iff) hnameless) us vs

/-- Two choices that use the same tool, and between them one whose calls are no list; two calls, and
between them one that has no name. -/
theorem tools_homomorphism_lookups :
    let lookup : Json := .object [("function", .object [("name", .text "lookup")])]
    let choice (calls : Json) : Json := .object [("message", .object [("tool_calls", calls)])]
    let first := choice (.list [.null, lookup])
    let second := choice (.list [lookup])
    let chosen (choices : List Json) : Json := .object [("choices", .list choices)]
    let called (calls : List Json) : Json := .object [("toolCalls", .list calls)]
    tools (chosen [first, second]) = tools (chosen [first]) ++ tools (chosen [second]) ∧
      tools (chosen [first, choice .null, second]) = ["lookup", "lookup"] ∧
      tools (called [.text "search", .null, lookup]) = ["search", "lookup"] := by
  intro lookup choice first second chosen called
  have hchosen : ∀ choices, HasChoices (chosen choices) choices :=
    fun choices => ⟨fun calls h => (nomatch h), rfl⟩
  have hcalled : ∀ calls, HasCalls (called calls) calls := fun _ => rfl
  obtain ⟨happend, -, -, hinsert, -⟩ := tools_homomorphism
  have hmalformed : ∀ calls, ¬ ChoiceCalls (choice .null) calls := by
    rintro calls ⟨message, hmessage, hcalls⟩
    cases hmessage
    cases hcalls
  have hnameless : ∀ n, ¬ CallNames .null n :=
    fun n h => nomatch toolName?_eq_some_iff.mpr h
  have hchoice : tools (chosen [first, choice .null, second]) = tools (chosen [first, second]) :=
    (hinsert _ _ [first] [second]).2.1 _ hmalformed (hchosen _) (hchosen _)
  have hcall : tools (called [.text "search", .null, lookup]) =
      tools (called [.text "search", lookup]) :=
    (hinsert _ _ [.text "search"] [lookup]).1 _ hnameless (hcalled _) (hcalled _)
  exact ⟨(happend _ _ _ [first] [second]).2 (hchosen _) (hchosen _) (hchosen _),
    hchoice.trans rfl, hcall.trans rfl⟩

end Extract
end CallCheck
