import Mathlib.Data.List.Forall2

/-!
# Chains of fallbacks

What is looked for may stand in one of several places, of which each may be empty. The first place with
something of use decides what there is to be found (`Fallback.FirstOf`). Taking the first place with
anything in it finds just that, unless what stands there is of no use: then it hides whatever useful
stands in a later place (`Fallback.Hides`). The main statement is

    first_iff_not_hides : FirstOf usable ps v → (First ps v ↔ ¬ Hides usable ps).
-/

namespace CallCheck
namespace Fallback

variable {α : Type} {usable : α → Prop} {p : Option α} {ps qs : List (Option α)} {v w : α}

/-- What stands in the first of the places that has something of use. -/
inductive FirstOf (usable : α → Prop) : List (Option α) → α → Prop where
  | here {v : α} {ps : List (Option α)} (h : usable v) : FirstOf usable (some v :: ps) v
  | later {p : Option α} {ps : List (Option α)} {v : α} (h : ∀ w, p = some w → ¬ usable w)
      (rest : FirstOf usable ps v) : FirstOf usable (p :: ps) v

/-- What stands in the first of the places that has anything. -/
abbrev First (ps : List (Option α)) (v : α) : Prop := FirstOf (fun _ => True) ps v

/-- Something of use stands in one of the places, but something else in the first that is not empty. -/
inductive Hides (usable : α → Prop) : List (Option α) → Prop where
  | here {v w : α} {ps : List (Option α)} (hv : ¬ usable v) (hmem : some w ∈ ps) (hw : usable w) :
      Hides usable (some v :: ps)
  | later {ps : List (Option α)} (rest : Hides usable ps) : Hides usable (none :: ps)

theorem not_firstOf_nil : ¬ FirstOf usable [] v := nofun

theorem firstOf_cons :
    FirstOf usable (p :: ps) v ↔
      (p = some v ∧ usable v) ∨ ((∀ w, p = some w → ¬ usable w) ∧ FirstOf usable ps v) := by
  constructor
  · intro h
    cases h with
    | here h => exact .inl ⟨rfl, h⟩
    | later h rest => exact .inr ⟨h, rest⟩
  · rintro (⟨rfl, h⟩ | ⟨h, rest⟩)
    · exact .here h
    · exact .later h rest

/-- Taking anything, only an empty place is passed over. -/
theorem first_cons : First (p :: ps) v ↔ p = some v ∨ p = none ∧ First ps v := by
  have hnone : (∀ w, p = some w → ¬ True) ↔ p = none := by
    simp only [not_true_eq_false, imp_false, Option.eq_none_iff_forall_ne_some, ne_eq]
  unfold First
  rw [firstOf_cons, and_iff_left trivial, hnone]

theorem FirstOf.holds (h : FirstOf usable ps v) : usable v := by
  induction h with
  | here h => exact h
  | later _ _ ih => exact ih

theorem FirstOf.mem (h : FirstOf usable ps v) : some v ∈ ps := by
  induction h with
  | here _ => exact List.mem_cons_self
  | later _ _ ih => exact List.mem_cons_of_mem _ ih

theorem FirstOf.unique (h : FirstOf usable ps v) (h' : FirstOf usable ps w) : v = w := by
  induction h with
  | here hv =>
      cases h' with
      | here _ => rfl
      | later hnone _ => exact absurd hv (hnone _ rfl)
  | later hnone _ ih =>
      cases h' with
      | here hw => exact absurd hw (hnone _ rfl)
      | later _ rest' => exact ih rest'

/-- Wherever something of use stands, something of use is the first. -/
theorem exists_firstOf (hmem : some w ∈ ps) (hw : usable w) : ∃ v, FirstOf usable ps v := by
  induction ps with
  | nil => cases hmem
  | cons p ps ih =>
      by_cases hp : ∃ v, p = some v ∧ usable v
      · obtain ⟨v, rfl, hv⟩ := hp
        exact ⟨v, .here hv⟩
      · have hnone : ∀ v, p = some v → ¬ usable v := fun v heq hv => hp ⟨v, heq, hv⟩
        rcases List.mem_cons.mp hmem with heq | hmem
        · exact absurd hw (hnone w heq.symm)
        · obtain ⟨v, rest⟩ := ih hmem
          exact ⟨v, .later hnone rest⟩

/-- The first thing of all is the first of use if it is of use. -/
theorem FirstOf.of_first (h : First ps v) (hv : usable v) : FirstOf usable ps v := by
  induction ps with
  | nil => exact absurd h not_firstOf_nil
  | cons p ps ih =>
      rcases first_cons.mp h with rfl | ⟨rfl, rest⟩
      · exact .here hv
      · exact .later nofun (ih rest)

/-- Where something useful is hidden, the first thing of all is of no use. -/
theorem Hides.exists_first (h : Hides usable ps) : ∃ v, First ps v ∧ ¬ usable v := by
  induction h with
  | here hv _ _ => exact ⟨_, .here trivial, hv⟩
  | later _ ih =>
      obtain ⟨v, hfirst, hv⟩ := ih
      exact ⟨v, .later nofun hfirst, hv⟩

/-- What is hidden is there. -/
theorem Hides.exists_firstOf (h : Hides usable ps) : ∃ v, FirstOf usable ps v := by
  induction h with
  | here _ hmem hw => exact Fallback.exists_firstOf (List.mem_cons_of_mem _ hmem) hw
  | later _ ih =>
      obtain ⟨v, hv⟩ := ih
      exact ⟨v, .later nofun hv⟩

/-- The first thing of use is the first of all unless it is hidden. -/
theorem first_iff_not_hides (h : FirstOf usable ps v) : First ps v ↔ ¬ Hides usable ps := by
  constructor
  · intro hfirst hhides
    obtain ⟨w, hw, hnot⟩ := hhides.exists_first
    rw [hw.unique hfirst] at hnot
    exact hnot h.holds
  · intro hnot
    induction h with
    | here _ => exact .here trivial
    | @later p ps v hnone rest ih =>
        cases p with
        | none => exact .later nofun (ih fun hrest => hnot (.later hrest))
        | some w => exact absurd (.here (hnone w rfl) rest.mem rest.holds) hnot

/-- The first thing of use, by the number of its place. -/
theorem firstOf_iff_getElem? :
    FirstOf usable ps v ↔ usable v ∧
      ∃ i : Nat, ps[i]? = some (some v) ∧ ∀ j < i, ∀ w, ps[j]? = some (some w) → ¬ usable w := by
  constructor
  · intro h
    refine ⟨h.holds, ?_⟩
    induction h with
    | here _ => exact ⟨0, rfl, fun j hj => absurd hj (Nat.not_lt_zero j)⟩
    | later hnone _ ih =>
        obtain ⟨i, hi, hbefore⟩ := ih
        refine ⟨i + 1, hi, ?_⟩
        intro j hj w hw
        cases j with
        | zero => exact hnone w (Option.some.inj hw)
        | succ j => exact hbefore j (Nat.lt_of_succ_lt_succ hj) w hw
  · rintro ⟨hv, i, hi, hbefore⟩
    induction ps generalizing i with
    | nil => cases hi
    | cons p ps ih =>
        cases i with
        | zero =>
            obtain rfl := Option.some.inj hi
            exact .here hv
        | succ i =>
            refine .later ?_ (ih i hi fun j hj => hbefore (j + 1) (Nat.succ_lt_succ hj))
            rintro w rfl
            exact hbefore 0 (Nat.succ_pos i) w rfl

theorem first_iff_findSome? : First ps v ↔ ps.findSome? id = some v := by
  induction ps with
  | nil => exact iff_of_false not_firstOf_nil nofun
  | cons p ps ih =>
      rw [first_cons, ih, List.findSome?_cons]
      cases p with
      | none => simp
      | some w => simp

/-- Only what is of use in the places counts. -/
theorem FirstOf.congr
    (h : List.Forall₂ (fun p q => ∀ v, usable v → (p = some v ↔ q = some v)) ps qs) :
    FirstOf usable ps v ↔ FirstOf usable qs v := by
  induction h with
  | nil => exact Iff.rfl
  | cons hpq _ ih =>
      rw [firstOf_cons, firstOf_cons, ih]
      refine or_congr (and_congr_left fun hv => hpq v hv) (and_congr_left fun _ => ?_)
      refine forall_congr' fun w => ?_
      constructor
      · exact fun hp hq hw => hp ((hpq w hw).mpr hq) hw
      · exact fun hq hp hw => hq ((hpq w hw).mp hp) hw

end Fallback
end CallCheck
