import CallCheck.Proofs.Equality
import Mathlib.Data.List.Perm.Subperm

/-!
# Values of one shape

Two values match (`Json.Matches`) when they have one shape and numbers that are related: lists item by
item, objects with the same keys, in any order, and matching values under each key. The deep equality
looks for less in an object: as many fields, and for each of the first an equal one in the second. Where
keys are unique that comes to the same (`Json.agree_iff_matches`): different keys that are all found
among equally many leave no key over. Since nothing in `Matches` tells left from right, the equality is
symmetric (`Json.agree_symm`).

Only the numbers that a value holds (`Json.HasNumber`) matter to a comparison: values that match by one
relation match by any other that it implies for their numbers (`Json.Matches.imp`).
-/

namespace CallCheck
namespace Json

/-- Two values of one shape whose numbers are related by `R`. The fields of objects may come in
different orders. -/
inductive Matches (R : Number → Number → Prop) : Json → Json → Prop where
  | null : Matches R .null .null
  | bool (b : Bool) : Matches R (.bool b) (.bool b)
  | number {a b : Number} (h : R a b) : Matches R (.number a) (.number b)
  | text (s : String) : Matches R (.text s) (.text s)
  | list {xs ys : List Json} (h : List.Forall₂ (Matches R) xs ys) : Matches R (.list xs) (.list ys)
  | object {xs ys : List (String × Json)} (hkeys : (xs.map Prod.fst).Perm (ys.map Prod.fst))
      (h : ∀ key x y, (key, x) ∈ xs → (key, y) ∈ ys → Matches R x y) :
      Matches R (.object xs) (.object ys)

variable {R S : Number → Number → Prop} {eq : Number → Number → Bool} {x y : Json}

/-! ### Deep equality -/

/-- Equally many keys that are all found, and are all different, are the same keys. -/
theorem perm_keys {xs ys : List (String × Json)} (hkeys : (xs.map Prod.fst).Nodup)
    (hlength : xs.length = ys.length) (hfound : ∀ f ∈ xs, ∃ y, field? f.1 ys = some y) :
    (xs.map Prod.fst).Perm (ys.map Prod.fst) := by
  have hsubset : xs.map Prod.fst ⊆ ys.map Prod.fst := by
    intro key hkey
    obtain ⟨f, hf, rfl⟩ := List.mem_map.mp hkey
    obtain ⟨y, hy⟩ := hfound f hf
    exact List.mem_map.mpr ⟨(f.1, y), mem_of_field? hy, rfl⟩
  apply (List.subperm_of_subset hkeys hsubset).perm_of_length_le
  rw [List.length_map, List.length_map]
  exact Nat.le_of_eq hlength.symm

/-- Under a key that both objects have there is a value to compare with. -/
theorem exists_mem_of_perm_keys {xs ys : List (String × Json)}
    (hperm : (xs.map Prod.fst).Perm (ys.map Prod.fst)) {f : String × Json} (hf : f ∈ xs) :
    ∃ y, (f.1, y) ∈ ys := by
  have hkey : f.1 ∈ ys.map Prod.fst := hperm.subset (List.mem_map_of_mem hf)
  obtain ⟨g, hg, heq⟩ := List.mem_map.mp hkey
  exact ⟨g.2, by rw [← heq]; exact hg⟩

/-- Item by item, for the items that there are. -/
theorem forall₂_imp_of_mem {P Q : Json → Json → Prop} {xs ys : List Json}
    (hxy : List.Forall₂ P xs ys) (h : ∀ x ∈ xs, ∀ y ∈ ys, P x y → Q x y) :
    List.Forall₂ Q xs ys := by
  induction hxy with
  | nil => exact .nil
  | cons hhead _ ih =>
      refine .cons (h _ List.mem_cons_self _ List.mem_cons_self hhead) (ih ?_)
      intro x hx y hy
      exact h x (List.mem_cons_of_mem _ hx) y (List.mem_cons_of_mem _ hy)

/-- Deep equality finds out whether values match. -/
theorem agree_iff_matches (hx : x.UniqueKeys) :
    agree eq x y = true ↔ Matches (fun a b => eq a b = true) x y := by
  induction hx generalizing y with
  | null =>
      rw [agree_null]
      constructor
      · rintro rfl
        exact .null
      · rintro ⟨⟩
        rfl
  | bool b =>
      rw [agree_bool]
      constructor
      · rintro rfl
        exact .bool b
      · rintro ⟨⟩
        rfl
  | number n =>
      rw [agree_number]
      constructor
      · rintro ⟨n', rfl, h⟩
        exact .number h
      · rintro ⟨⟩
        exact ⟨_, rfl, ‹_›⟩
  | text s =>
      rw [agree_text]
      constructor
      · rintro rfl
        exact .text s
      · rintro ⟨⟩
        rfl
  | list h ih =>
      rw [agree_list]
      constructor
      · rintro ⟨ys, rfl, hys⟩
        exact .list (forall₂_imp_of_mem hys fun x hx y _ => (ih x hx).mp)
      · intro hmatches
        cases hmatches with
        | list hys => exact ⟨_, rfl, forall₂_imp_of_mem hys fun x hx y _ => (ih x hx).mpr⟩
  | @object xs hkeys h ih =>
      rw [agree_object]
      constructor
      · rintro ⟨ys, rfl, hlength, hys⟩
        have hperm : (xs.map Prod.fst).Perm (ys.map Prod.fst) :=
          perm_keys hkeys hlength fun f hf => (hys f hf).imp fun y hy => hy.1
        refine .object hperm ?_
        intro key x y hx hy
        obtain ⟨y', hy', hagree⟩ := hys (key, x) hx
        -- the field found under the key is the only one
        have heq : field? key ys = some y := field?_of_mem (hperm.nodup_iff.mp hkeys) hy
        rw [hy', Option.some.injEq] at heq
        subst heq
        exact (ih (key, x) hx).mp hagree
      · intro hmatches
        cases hmatches with
        | object hperm hvalues =>
            refine ⟨_, rfl, by simpa using hperm.length_eq, ?_⟩
            intro f hf
            obtain ⟨y, hy⟩ := exists_mem_of_perm_keys hperm hf
            exact ⟨y, field?_of_mem (hperm.nodup_iff.mp hkeys) hy,
              (ih f hf).mpr (hvalues f.1 f.2 y hf hy)⟩

/-! ### Symmetry -/

theorem Matches.symm (hRS : ∀ a b, R a b → S b a) (h : Matches R x y) : Matches S y x := by
  induction x using ind generalizing y with
  | null => cases h; exact .null
  | bool b => cases h; exact .bool b
  | number a =>
      cases h with
      | number hab => exact .number (hRS _ _ hab)
  | text s => cases h; exact .text s
  | list xs ih =>
      cases h with
      | list hxys => exact .list (forall₂_imp_of_mem hxys fun x hx y _ => ih x hx).flip
  | object xs ih =>
      cases h with
      | object hperm hvalues =>
          refine .object hperm.symm fun key y x hy hx => ?_
          exact ih (key, x) hx (hvalues key x y hx hy)

/-- Deep equality is symmetric if the comparison of numbers is. -/
theorem agree_symm (heq : ∀ a b, eq a b = true → eq b a = true) (hx : x.UniqueKeys)
    (hy : y.UniqueKeys) (h : agree eq x y = true) : agree eq y x = true :=
  (agree_iff_matches hy).mpr (((agree_iff_matches hx).mp h).symm heq)

/-! ### The numbers of a value -/

/-- Whether a number is one of those in a value. -/
inductive HasNumber (n : Number) : Json → Prop where
  | number : HasNumber n (.number n)
  | list {items : List Json} {v : Json} (hv : v ∈ items) (h : HasNumber n v) :
      HasNumber n (.list items)
  | object {fields : List (String × Json)} {f : String × Json} (hf : f ∈ fields)
      (h : HasNumber n f.2) : HasNumber n (.object fields)

/-- Of a relation of numbers only what it says of the numbers of both values counts. -/
theorem Matches.imp (hRS : ∀ a b, HasNumber a x → HasNumber b y → R a b → S a b)
    (h : Matches R x y) : Matches S x y := by
  induction x using ind generalizing y with
  | null => cases h; exact .null
  | bool b => cases h; exact .bool b
  | number a =>
      cases h with
      | number hab => exact .number (hRS _ _ .number .number hab)
  | text s => cases h; exact .text s
  | list xs ih =>
      cases h with
      | list hxys =>
          refine .list (forall₂_imp_of_mem hxys fun x hx y hy => ih x hx ?_)
          exact fun a b ha hb => hRS a b (.list hx ha) (.list hy hb)
  | object xs ih =>
      cases h with
      | object hperm hvalues =>
          refine .object hperm fun key x y hx hy => ih (key, x) hx ?_ (hvalues key x y hx hy)
          exact fun a b ha hb => hRS a b (.object hx ha) (.object hy hb)

end Json
end CallCheck
