import CallCheck.Proofs.Fallback
import CallCheck.Proofs.Tools

/-!
# The places of a name

A call in the list of a result is either a text, and so its own name, or it has its name in one of three
places (`Extract.places`). The name that is meant is the text in the first place that has one
(`Extract.Named`). What is extracted is what stands in the first place that is there, if that is a text:

    callNames_iff_not_hidden : CallNames call name ↔ Named call name ∧ ¬ HidesName call

So a place with a null, a number or anything else in it hides the names in the places after it, and the
call adds nothing. `Extract.named_unless_hidden` says which names of a result are extracted, and
`Extract.name_hidden_by_null` is a call whose name is lost.
-/

namespace CallCheck
namespace Extract

open Fallback (FirstOf First Hides)

/-! ### Lists with the same names -/

section

variable {names names' : Json → String → Prop} {vs : List Json} {ns ns' : List String}

/-- Where less counts as a name, there are not more of them. -/
theorem NamesOf.length_le (himp : ∀ v n, names v n → names' v n) (h : NamesOf names vs ns)
    (h' : NamesOf names' vs ns') : ns.length ≤ ns'.length := by
  induction h generalizing ns' with
  | nil => exact Nat.zero_le _
  | named hv _ ih =>
      cases h' with
      | named _ rest' => exact Nat.succ_le_succ (ih rest')
      | nameless hnone _ => exact absurd (himp _ _ hv) (hnone _)
  | nameless _ _ ih =>
      cases h' with
      | named _ rest' => exact Nat.le_succ_of_le (ih rest')
      | nameless _ rest' => exact ih rest'

/-- If the names are the same nevertheless, the same values have one. -/
theorem NamesOf.exists_name (himp : ∀ v n, names v n → names' v n) (h : NamesOf names vs ns)
    (h' : NamesOf names' vs ns) : ∀ v ∈ vs, (∃ n, names' v n) → ∃ n, names v n := by
  induction h with
  | nil => exact fun v hv => nomatch hv
  | named hv _ ih =>
      cases h' with
      | named _ rest' => exact List.forall_mem_cons.mpr ⟨fun _ => ⟨_, hv⟩, ih rest'⟩
      | nameless hnone _ => exact absurd (himp _ _ hv) (hnone _)
  | nameless _ rest ih =>
      cases h' with
      | named _ rest' =>
          -- the rest would have one name more than is left for it
          have hlength := rest.length_le himp rest'
          rw [List.length_cons] at hlength
          omega
      | nameless hnone' rest' =>
          refine List.forall_mem_cons.mpr ⟨?_, ih rest'⟩
          rintro ⟨n, hn⟩
          exact absurd hn (hnone' n)

theorem NamesOf.congr (h : ∀ v ∈ vs, ∀ n, names v n ↔ names' v n) :
    NamesOf names vs ns ↔ NamesOf names' vs ns := by
  induction vs generalizing ns with
  | nil =>
      constructor
      all_goals
        intro hnames
        cases hnames
        exact .nil
  | cons v vs ih =>
      obtain ⟨hv, hvs⟩ := List.forall_mem_cons.mp h
      constructor
      · intro hnames
        cases hnames with
        | named hn rest => exact .named ((hv _).mp hn) ((ih hvs).mp rest)
        | nameless hn rest => exact .nameless (fun n => (hv n).not.mp (hn n)) ((ih hvs).mp rest)
      · intro hnames
        cases hnames with
        | named hn rest => exact .named ((hv _).mpr hn) ((ih hvs).mpr rest)
        | nameless hn rest => exact .nameless (fun n => (hv n).not.mpr (hn n)) ((ih hvs).mpr rest)

end

/-! ### Names and places -/

/-- What stands in the three places where a call may have its name, in order. -/
def places (call : Json) : List (Option Json) :=
  [call.get? "toolName", call.get? "name", (call.get? "function").bind (·.get? "name")]

def IsText (v : Json) : Prop := ∃ s, v = .text s

/-- The name of a call: the call itself if it is a text, else the text in the first of its places that
has one, whatever stands in the others. -/
inductive Named : Json → String → Prop where
  | text (name : String) : Named (.text name) name
  | place {call : Json} {name : String} (h : FirstOf IsText (places call) (.text name)) :
      Named call name

/-- Whether a call has a text in one of its places, but something else in the first that is there. -/
def HidesName (call : Json) : Prop := Hides IsText (places call)

variable {call : Json} {name name' : String}

theorem namesFunction_iff :
    NamesFunction call name ↔ (call.get? "function").bind (·.get? "name") = some (.text name) := by
  rw [NamesFunction, Option.bind_eq_some_iff]

/-- What is extracted is the first thing in the places, if it is a text. -/
theorem callNames_iff : CallNames call name ↔ call = .text name ∨ First (places call) (.text name) := by
  have hplaces : First (places call) (.text name) ↔
      call.get? "toolName" = some (.text name) ∨
        call.get? "toolName" = none ∧ (call.get? "name" = some (.text name) ∨
          call.get? "name" = none ∧ NamesFunction call name) := by
    simp only [places, Fallback.first_cons, namesFunction_iff, Fallback.not_firstOf_nil, and_false,
      or_false, First]
  rw [hplaces]
  constructor
  · intro h
    cases h with
    | text => exact .inl rfl
    | toolName h => exact .inr (.inl h)
    | name htool h => exact .inr (.inr ⟨htool, .inl h⟩)
    | function htool hname h => exact .inr (.inr ⟨htool, .inr ⟨hname, h⟩⟩)
  · rintro (rfl | h | ⟨htool, h | ⟨hname, h⟩⟩)
    · exact .text name
    · exact .toolName h
    · exact .name htool h
    · exact .function htool hname h

/-- A text has no places. -/
theorem eq_none_of_mem_places {s : String} {o : Option Json} (h : o ∈ places (.text s)) : o = none := by
  change o ∈ [none, none, none] at h
  simpa using h

theorem not_firstOf_places_text {usable : Json → Prop} {s : String} {v : Json} :
    ¬ FirstOf usable (places (.text s)) v :=
  fun h => nomatch eq_none_of_mem_places h.mem

theorem not_hidesName_text {s : String} : ¬ HidesName (.text s) := by
  intro h
  obtain ⟨v, hv⟩ := Hides.exists_firstOf h
  exact not_firstOf_places_text hv

theorem Named.unique (h : Named call name) (h' : Named call name') : name = name' := by
  cases h with
  | text =>
      cases h' with
      | text => rfl
      | place h' => exact absurd h' not_firstOf_places_text
  | place h =>
      cases h' with
      | text => exact absurd h not_firstOf_places_text
      | place h' => exact Json.text.inj (h.unique h')

/-- A name that is hidden is there nevertheless. -/
theorem HidesName.exists_named (h : HidesName call) : ∃ name, Named call name := by
  obtain ⟨v, hv⟩ := Hides.exists_firstOf h
  obtain ⟨name, rfl⟩ := hv.holds
  exact ⟨name, .place hv⟩

/-- The name of a call is extracted unless it is hidden. -/
theorem callNames_iff_not_hidden : CallNames call name ↔ Named call name ∧ ¬ HidesName call := by
  rw [callNames_iff]
  constructor
  · rintro (rfl | hfirst)
    · exact ⟨.text name, not_hidesName_text⟩
    · have hplace : FirstOf IsText (places call) (.text name) := .of_first hfirst ⟨name, rfl⟩
      exact ⟨.place hplace, (Fallback.first_iff_not_hides hplace).mp hfirst⟩
  · rintro ⟨hnamed, hhides⟩
    cases hnamed with
    | text => exact .inl rfl
    | place hplace => exact .inr ((Fallback.first_iff_not_hides hplace).mpr hhides)

/-! ### The tools of a result -/

theorem namesOf_callNames_tools {r : Json} {calls : List Json} (h : HasCalls r calls) :
    NamesOf CallNames calls (tools r) :=
  (namesOf_iff fun _ _ => toolName?_eq_some_iff).mpr (tools_of_hasCalls h)

/-- **The names of calls are extracted unless they are hidden.** Of a result with a list of calls, the
tools are the names of those calls whose name does not stand behind something else, in order. These are
all the names that the calls have exactly if no call hides its name. A call has at most one name, and one
that hides its name has one. -/
theorem named_unless_hidden (r : Json) (calls : List Json) (h : HasCalls r calls) :
    NamesOf (fun call name => Named call name ∧ ¬ HidesName call) calls (tools r) ∧
    (NamesOf Named calls (tools r) ↔ ∀ call ∈ calls, ¬ HidesName call) ∧
    (∀ call name name', Named call name → Named call name' → name = name') ∧
    (∀ call, HidesName call → ∃ name, Named call name) := by
  have htools := namesOf_callNames_tools h
  refine ⟨?shown, ⟨?noneHidden, ?allNamed⟩, fun _ _ _ => Named.unique,
    fun _ => HidesName.exists_named⟩
  case shown => exact (NamesOf.congr fun _ _ _ => callNames_iff_not_hidden).mp htools
  case noneHidden =>
    intro hall call hcall hhides
    have himp : ∀ v n, CallNames v n → Named v n := fun _ _ hn => (callNames_iff_not_hidden.mp hn).1
    obtain ⟨name, hname⟩ := htools.exists_name himp hall call hcall hhides.exists_named
    exact (callNames_iff_not_hidden.mp hname).2 hhides
  case allNamed =>
    intro hshown
    refine (NamesOf.congr ?_).mp htools
    intro call hcall name
    rw [callNames_iff_not_hidden]
    exact and_iff_left (hshown call hcall)

/-- A call with a name in the second place and a number in the third, a text, and a call that has nothing
but a null where its name should be. -/
theorem named_unless_hidden_calendar :
    let named : Json := .object [("function", .object [("name", .ofInt 7)]), ("name", .text "calendar")]
    let nameless : Json := .object [("toolName", .null)]
    let calls := [named, .text "raw", nameless]
    let r : Json := .object [("toolCalls", .list calls)]
    NamesOf Named calls (tools r) ∧ tools r = ["calendar", "raw"] := by
  intro named nameless calls r
  have hnamed : ¬ HidesName named := by
    have hsecond : First (places named) (.text "calendar") := .later nofun (.here trivial)
    have hname : FirstOf IsText (places named) (.text "calendar") := .of_first hsecond ⟨_, rfl⟩
    exact (Fallback.first_iff_not_hides hname).mp hsecond
  have hnameless : ¬ HidesName nameless := by
    intro h
    change Hides IsText [some .null, none, none] at h
    cases h with
    | here _ hmem _ => simp at hmem
  have hall : ∀ call ∈ calls, ¬ HidesName call := by
    intro call hcall
    rcases List.mem_cons.mp hcall with rfl | hcall
    · exact hnamed
    · rcases List.mem_pair.mp hcall with rfl | rfl
      · exact not_hidesName_text
      · exact hnameless
  exact ⟨(named_unless_hidden r calls rfl).2.1.mpr hall, rfl⟩

/-- A null in the first place hides the name in the second: the call has a name, and it is lost. -/
theorem name_hidden_by_null :
    let call : Json := .object [("name", .text "lookup"), ("toolName", .null)]
    let r : Json := .object [("text", .text "done"), ("toolCalls", .list [call])]
    HasCalls r [call] ∧ Named call "lookup" ∧ tools r = [] ∧ ¬ NamesOf Named [call] (tools r) := by
  intro call r
  have hnamed : Named call "lookup" := by
    refine .place (.later ?_ (.here ⟨_, rfl⟩))
    rintro w hw ⟨s, rfl⟩
    cases hw
  have htools : tools r = [] := rfl
  refine ⟨rfl, hnamed, htools, ?_⟩
  rw [htools]
  intro h
  cases h with
  | nameless hnone _ => exact hnone _ hnamed

end Extract
end CallCheck
