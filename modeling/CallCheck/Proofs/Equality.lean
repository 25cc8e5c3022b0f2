import CallCheck.Json.Basic
import Mathlib.Data.List.Forall2

/-!
# Equality of JSON values

The deep equality of values goes through lists item by item and through objects key by key. Whatever
the comparison of numbers is, the equality built on it inherits reflexivity and transitivity: the
latter on all values, the former on those whose objects have each key once (`Json.UniqueKeys`), since
a second field of one key would be compared with the first.
-/

namespace CallCheck
namespace Json

/-! ### Induction on values

The recursor of `Json` has a motive for each kind of list in a value. The one below asks of a list
that every item satisfies the motive, and of an object that the value of every field does. -/

theorem ind {motive : Json → Prop} (null : motive .null) (bool : ∀ b, motive (.bool b))
    (number : ∀ n, motive (.number n)) (text : ∀ s, motive (.text s))
    (list : ∀ items, (∀ v ∈ items, motive v) → motive (.list items))
    (object : ∀ fields : List (String × Json), (∀ f ∈ fields, motive f.2) → motive (.object fields)) :
    ∀ v, motive v := by
  intro v
  refine @Json.rec motive (fun items => ∀ v ∈ items, motive v) (fun fields => ∀ f ∈ fields, motive f.2)
    (fun f => motive f.2) null bool number text list object ?_ ?_ ?_ ?_ (fun _ v hv => hv) v
  · exact List.forall_mem_nil _
  · exact fun item items hitem hitems => List.forall_mem_cons.mpr ⟨hitem, hitems⟩
  · exact List.forall_mem_nil _
  · exact fun f fields hf hfields => List.forall_mem_cons.mpr ⟨hf, hfields⟩

/-- Whether the objects in a value have each key once. -/
inductive UniqueKeys : Json → Prop where
  | null : UniqueKeys .null
  | bool (b : Bool) : UniqueKeys (.bool b)
  | number (n : Number) : UniqueKeys (.number n)
  | text (s : String) : UniqueKeys (.text s)
  | list {items : List Json} (h : ∀ v ∈ items, UniqueKeys v) : UniqueKeys (.list items)
  | object {fields : List (String × Json)} (hkeys : (fields.map Prod.fst).Nodup)
      (h : ∀ f ∈ fields, UniqueKeys f.2) : UniqueKeys (.object fields)

/-! ### Building objects -/

theorem mem_insertField {key : String} {value : Json} {fields : List (String × Json)}
    {f : String × Json} (h : f ∈ insertField key value fields) : f = (key, value) ∨ f ∈ fields := by
  induction fields with
  | nil => exact List.mem_cons.mp h
  | cons g rest ih =>
      rw [insertField] at h
      split at h
      · exact List.mem_cons.mp h
      · split at h
        · exact (List.mem_cons.mp h).imp_right (List.mem_cons_of_mem g)
        · rcases List.mem_cons.mp h with rfl | h
          · exact .inr List.mem_cons_self
          · exact (ih h).imp_right (List.mem_cons_of_mem g)

/-- Whether the keys of the fields ascend. -/
def Ascending (fields : List (String × Json)) : Prop := fields.Pairwise fun f g => f.1 < g.1

theorem ascending_insertField {fields : List (String × Json)} (h : Ascending fields)
    (key : String) (value : Json) : Ascending (insertField key value fields) := by
  induction fields with
  | nil => exact List.pairwise_singleton _ _
  | cons g rest ih =>
      obtain ⟨hg, hrest⟩ := List.pairwise_cons.mp h
      rw [insertField]
      split
      case isTrue hlt =>
        refine List.pairwise_cons.mpr ⟨?_, h⟩
        intro f hf
        rcases List.mem_cons.mp hf with rfl | hf
        · exact hlt
        · exact String.lt_trans hlt (hg f hf)
      case isFalse hnlt =>
        split
        case isTrue heq =>
          subst heq
          exact List.pairwise_cons.mpr ⟨hg, hrest⟩
        case isFalse hne =>
          refine List.pairwise_cons.mpr ⟨?_, ih hrest⟩
          intro f hf
          rcases mem_insertField hf with rfl | hf
          · -- the key is neither before that of `g` nor the same
            exact String.not_le.mp fun hle => hne (String.le_antisymm hle (String.not_lt.mp hnlt))
          · exact hg f hf

/-- An object that is built from fields has each key once. -/
theorem uniqueKeys_ofFields {fields : List (String × Json)} (h : ∀ f ∈ fields, UniqueKeys f.2) :
    UniqueKeys (ofFields fields) := by
  suffices hfold : ∀ sorted : List (String × Json), Ascending sorted →
      (∀ f ∈ sorted, UniqueKeys f.2) →
        UniqueKeys (.object (fields.foldl (fun s f => insertField f.1 f.2 s) sorted)) from
    hfold [] .nil (List.forall_mem_nil _)
  induction fields with
  | nil =>
      intro sorted hsorted hvalues
      refine .object (List.pairwise_map.mpr ?_) hvalues
      exact hsorted.imp fun hlt => String.ne_of_lt hlt
  | cons g rest ih =>
      intro sorted hsorted hvalues
      obtain ⟨hg, hrest⟩ := List.forall_mem_cons.mp h
      refine ih hrest _ (ascending_insertField hsorted g.1 g.2) ?_
      intro f hf
      rcases mem_insertField hf with rfl | hf
      · exact hg
      · exact hvalues f hf

/-! ### Looking up fields -/

theorem mem_of_field? {key : String} {fields : List (String × Json)} {v : Json}
    (h : field? key fields = some v) : (key, v) ∈ fields := by
  obtain ⟨f, hf, rfl⟩ := Option.map_eq_some_iff.mp h
  have hkey : f.1 = key := by simpa using List.find?_some hf
  rw [← hkey]
  exact List.mem_of_find?_eq_some hf

/-- Where keys are unique, every field is the one found under its key. -/
theorem field?_of_mem {fields : List (String × Json)} (hkeys : (fields.map Prod.fst).Nodup)
    {f : String × Json} (hf : f ∈ fields) : field? f.1 fields = some f.2 := by
  induction fields with
  | nil => cases hf
  | cons g fields ih =>
      rw [List.map_cons, List.nodup_cons] at hkeys
      rw [field?, List.find?_cons]
      rcases List.mem_cons.mp hf with rfl | hf
      · rw [beq_self_eq_true]
        rfl
      · have hne : g.1 ≠ f.1 := by
          intro heq
          exact hkeys.1 (heq ▸ List.mem_map_of_mem hf)
        rw [beq_false_of_ne hne]
        exact ih hkeys.2 hf

/-! ### Equality -/

variable {eq : Number → Number → Bool}

-- a comparison is computed by its equations, one for each pair of constructors
attribute [local simp] agree agreeItems agreeFields

theorem agreeItems_iff {xs ys : List Json} :
    agreeItems eq xs ys = true ↔ List.Forall₂ (fun x y => agree eq x y = true) xs ys := by
  induction xs generalizing ys with
  | nil => cases ys <;> simp
  | cons x xs ih => cases ys <;> simp [ih]

theorem agreeFields_iff {xs ys : List (String × Json)} :
    agreeFields eq xs ys = true ↔
      ∀ f ∈ xs, ∃ y, field? f.1 ys = some y ∧ agree eq f.2 y = true := by
  induction xs with
  | nil => simp
  | cons f xs ih =>
      rw [agreeFields, Bool.and_eq_true, ih, List.forall_mem_cons]
      refine and_congr_left fun _ => ?_
      cases field? f.1 ys with
      | none => simp
      | some y => simp

/-! What a value agrees with, one lemma for each kind. -/

variable {v : Json}

theorem agree_null : agree eq .null v = true ↔ v = .null := by
  cases v <;> simp

theorem agree_bool {b : Bool} : agree eq (.bool b) v = true ↔ v = .bool b := by
  cases v with
  | bool b' =>
      rw [agree, beq_iff_eq, bool.injEq]
      exact eq_comm
  | null | number | text | list | object => simp

theorem agree_number {n : Number} :
    agree eq (.number n) v = true ↔ ∃ n', v = .number n' ∧ eq n n' = true := by
  cases v <;> simp

theorem agree_text {s : String} : agree eq (.text s) v = true ↔ v = .text s := by
  cases v with
  | text s' =>
      rw [agree, beq_iff_eq, text.injEq]
      exact eq_comm
  | null | bool | number | list | object => simp

theorem agree_list {xs : List Json} :
    agree eq (.list xs) v = true ↔
      ∃ ys, v = .list ys ∧ List.Forall₂ (fun x y => agree eq x y = true) xs ys := by
  cases v <;> simp [agreeItems_iff]

theorem agree_object {xs : List (String × Json)} :
    agree eq (.object xs) v = true ↔
      ∃ ys, v = .object ys ∧ xs.length = ys.length ∧
        ∀ f ∈ xs, ∃ y, field? f.1 ys = some y ∧ agree eq f.2 y = true := by
  cases v <;> simp [agreeFields_iff]

theorem agree_refl (heq : ∀ n, eq n n = true) (h : v.UniqueKeys) : agree eq v v = true := by
  induction h with
  | null => exact agree_null.mpr rfl
  | bool b => exact agree_bool.mpr rfl
  | number n => exact agree_number.mpr ⟨n, rfl, heq n⟩
  | text s => exact agree_text.mpr rfl
  | list h ih => exact agree_list.mpr ⟨_, rfl, List.forall₂_same.mpr ih⟩
  | object hkeys h ih =>
      refine agree_object.mpr ⟨_, rfl, rfl, ?_⟩
      intro f hf
      exact ⟨f.2, field?_of_mem hkeys hf, ih f hf⟩

/-- Item by item, from values for which it is known. -/
theorem forall₂_agree_trans {xs ys zs : List Json}
    (ih : ∀ x ∈ xs, ∀ {y z}, agree eq x y = true → agree eq y z = true → agree eq x z = true)
    (hxy : List.Forall₂ (fun x y => agree eq x y = true) xs ys)
    (hyz : List.Forall₂ (fun y z => agree eq y z = true) ys zs) :
    List.Forall₂ (fun x z => agree eq x z = true) xs zs := by
  induction hxy generalizing zs with
  | nil => exact hyz
  | cons hhead _ ihtail =>
      obtain ⟨ihhead, ihrest⟩ := List.forall_mem_cons.mp ih
      cases hyz with
      | cons hhead' htail' => exact .cons (ihhead hhead hhead') (ihtail ihrest htail')

theorem agree_trans (heq : ∀ a b c, eq a b = true → eq b c = true → eq a c = true) {x y z : Json}
    (hxy : agree eq x y = true) (hyz : agree eq y z = true) : agree eq x z = true := by
  induction x using ind generalizing y z with
  | null =>
      rw [agree_null.mp hxy] at hyz
      exact hyz
  | bool b =>
      rw [agree_bool.mp hxy] at hyz
      exact hyz
  | number a =>
      obtain ⟨b, rfl, hab⟩ := agree_number.mp hxy
      obtain ⟨c, rfl, hbc⟩ := agree_number.mp hyz
      exact agree_number.mpr ⟨c, rfl, heq a b c hab hbc⟩
  | text s =>
      rw [agree_text.mp hxy] at hyz
      exact hyz
  | list xs ih =>
      obtain ⟨ys, rfl, hxys⟩ := agree_list.mp hxy
      obtain ⟨zs, rfl, hyzs⟩ := agree_list.mp hyz
      exact agree_list.mpr ⟨zs, rfl, forall₂_agree_trans ih hxys hyzs⟩
  | object xs ih =>
      obtain ⟨ys, rfl, hlen, hxys⟩ := agree_object.mp hxy
      obtain ⟨zs, rfl, hlen', hyzs⟩ := agree_object.mp hyz
      refine agree_object.mpr ⟨zs, rfl, hlen.trans hlen', ?_⟩
      intro f hf
      obtain ⟨y, hy, hfy⟩ := hxys f hf
      -- the field found in the middle is one of those looked up in the last
      obtain ⟨z, hz, hyz'⟩ := hyzs (f.1, y) (mem_of_field? hy)
      exact ⟨z, hz, ih f hf hfy hyz'⟩

/-! ### Equality by value -/

theorem sameValue_refl (h : v.UniqueKeys) : v.sameValue v = true :=
  agree_refl (fun _ => Binary64.sameValue_iff.mpr rfl) h

theorem sameValue_trans {x y z : Json} (hxy : x.sameValue y = true) (hyz : y.sameValue z = true) :
    x.sameValue z = true := by
  refine agree_trans ?_ hxy hyz
  intro a b c hab hbc
  exact Binary64.sameValue_iff.mpr
    ((Binary64.sameValue_iff.mp hab).trans (Binary64.sameValue_iff.mp hbc))

@[simp] theorem sameValue_text {s : String} : (text s).sameValue v = true ↔ v = .text s := agree_text

end Json
end CallCheck
