import CallCheck.Predicate.Descriptor
import Mathlib

/-!
# How names may be spelled

The name of a descriptor may stand between blanks, with its letters in either case and with hyphens for
underscores (`Predicate.Writes`); `ensure_` may be left out or put in front (`Predicate.IsForm`). All
these spellings, and no others, come to the same short name (`Predicate.spells_iff`), for every name
that is `Predicate.Plain`.
-/

namespace CallCheck

/-! ### Blanks around a text -/

section
variable {α : Type} {p : α → Bool}

theorem exists_trimBy (p : α → Bool) (s : List α) :
    ∃ before after, s = before ++ trimBy p s ++ after ∧
      (∀ a ∈ before, p a = true) ∧ ∀ a ∈ after, p a = true := by
  refine ⟨s.takeWhile p, ((s.dropWhile p).reverse.takeWhile p).reverse, ?_, ?_, ?_⟩
  · rw [trimBy, List.append_assoc, ← List.reverse_append, List.takeWhile_append_dropWhile,
      List.reverse_reverse, List.takeWhile_append_dropWhile]
  · exact fun a ha => List.mem_takeWhile_imp ha
  · exact fun a ha => List.mem_takeWhile_imp (List.mem_reverse.mp ha)

theorem dropWhile_append_of_none {before word after : List α} (hbefore : ∀ a ∈ before, p a = true)
    (hword : ∀ a ∈ word, p a = false) (hne : word ≠ []) :
    (before ++ (word ++ after)).dropWhile p = word ++ after := by
  rw [List.dropWhile_append_of_pos hbefore, List.dropWhile_eq_self_iff]
  intro _
  obtain ⟨a, word, rfl⟩ := List.exists_cons_of_ne_nil hne
  simp [hword a List.mem_cons_self]

/-- What stands between two blank parts and has no blank is what is left. -/
theorem trimBy_append {before word after : List α} (hbefore : ∀ a ∈ before, p a = true)
    (hword : ∀ a ∈ word, p a = false) (hafter : ∀ a ∈ after, p a = true) :
    trimBy p (before ++ word ++ after) = word := by
  rw [trimBy, List.append_assoc]
  by_cases hne : word = []
  · subst hne
    have hall : (before ++ ([] ++ after)).dropWhile p = [] :=
      List.dropWhile_eq_nil_iff.mpr (List.forall_mem_append.mpr ⟨hbefore, hafter⟩)
    rw [hall]
    rfl
  · rw [dropWhile_append_of_none hbefore hword hne, List.reverse_append]
    -- the other end is stripped in the same way, read backwards
    have hreverse : (after.reverse ++ (word.reverse ++ [])).dropWhile p = word.reverse ++ [] :=
      dropWhile_append_of_none (by simpa using hafter) (by simpa using hword) (by simpa using hne)
    rw [List.append_nil] at hreverse
    rw [hreverse, List.reverse_reverse]

end

namespace Predicate

/-! ### Characters -/

/-- What may stand for a character of a name: the character, its capital, and a hyphen for an
underscore. -/
def StandsFor (c d : Char) : Prop := c = d ∨ c = d.toUpper ∨ c = '-' ∧ d = '_'

theorem toLower_eq_iff {c d : Char} (hd : d.isUpper = false) :
    c.toLower = d ↔ c = d ∨ c = d.toUpper := by
  constructor
  · rintro rfl
    rw [Char.toUpper_toLower_eq_toUpper]
    by_cases hc : c.isUpper = true
    · exact .inr (Char.toUpper_eq_of_not_isLower (Char.not_isLower_of_isUpper hc)).symm
    · exact .inl (Char.toLower_eq_of_not_isUpper hc).symm
  · have hlower : d.toLower = d := Char.toLower_eq_of_not_isUpper (by simp [hd])
    rintro (rfl | rfl)
    · exact hlower
    · rw [Char.toLower_toUpper_eq_toLower, hlower]

/-- One character of a name in its normal spelling. -/
def normalChar (c : Char) : Char := if c = '-' then '_' else c.toLower

/-- A character of a name in its normal spelling: a small letter or an underscore. -/
def isNormal (d : Char) : Bool := d.isLower || d == '_'

theorem isUpper_iff {c : Char} : c.isUpper = true ↔ 65 ≤ c.toNat ∧ c.toNat ≤ 90 := by
  simp only [Char.isUpper, decide_eq_true_eq, UInt32.le_iff_toNat_le, Char.toNat_val]
  rfl

theorem isLower_iff {c : Char} : c.isLower = true ↔ 97 ≤ c.toNat ∧ c.toNat ≤ 122 := by
  simp only [Char.isLower, Bool.and_eq_true, decide_eq_true_eq, UInt32.le_iff_toNat_le,
    Char.toNat_val]
  rfl

theorem isBlank_of_isLower {c : Char} (h : c.isLower = true) : isBlank c = false := by
  rw [isLower_iff] at h
  simp only [isBlank, Bool.or_eq_false_iff, Bool.and_eq_false_iff, decide_eq_false_iff_not,
    beq_eq_false_iff_ne]
  omega

theorem not_isUpper_of_isBlank {c : Char} (h : isBlank c = true) : ¬ c.isUpper = true := by
  simp only [isBlank, Bool.or_eq_true, Bool.and_eq_true, decide_eq_true_eq, beq_iff_eq] at h
  rw [isUpper_iff]
  omega

/-- Normal characters are no capitals, no hyphens and no blanks. -/
theorem of_isNormal {d : Char} (h : isNormal d = true) :
    d.isUpper = false ∧ d ≠ '-' ∧ isBlank d = false := by
  rw [isNormal, Bool.or_eq_true, beq_iff_eq] at h
  rcases h with hlower | rfl
  · refine ⟨by simpa using Char.not_isUpper_of_isLower hlower, ?_, isBlank_of_isLower hlower⟩
    rintro rfl
    exact absurd hlower (by decide)
  · exact ⟨rfl, by decide, rfl⟩

theorem normalChar_eq_iff {c d : Char} (hd : isNormal d = true) :
    normalChar c = d ↔ StandsFor c d := by
  obtain ⟨hupper, hhyphen, -⟩ := of_isNormal hd
  rw [normalChar, StandsFor]
  split
  · next hc =>
      subst hc
      have hcapital : '-' ≠ d.toUpper := by
        intro h
        exact hhyphen ((toLower_eq_iff hupper).mpr (.inr h)).symm
      simp [hcapital, hhyphen.symm, eq_comm]
  · next hc => simp [toLower_eq_iff hupper, hc]

/-- Blanks are neither capitals nor hyphens. -/
theorem normalChar_of_isBlank {c : Char} (h : isBlank c = true) : normalChar c = c := by
  have hhyphen : c ≠ '-' := by
    rintro rfl
    exact absurd h (by decide)
  rw [normalChar, if_neg hhyphen, Char.toLower_eq_of_not_isUpper (not_isUpper_of_isBlank h)]

/-! ### Names in their normal spelling -/

/-- A name of small letters and underscores. -/
def Plain (name : String) : Prop := name.toList.all isNormal = true

instance (name : String) : Decidable (Plain name) :=
  inferInstanceAs (Decidable (name.toList.all isNormal = true))

/-- A way to write a name: between blanks, each letter in either case, hyphens for underscores. -/
def Writes (s name : String) : Prop :=
  ∃ before word after, s.toList = before ++ word ++ after ∧ (∀ c ∈ before, isBlank c = true) ∧
    (∀ c ∈ after, isBlank c = true) ∧ List.Forall₂ StandsFor word name.toList

theorem normalName_eq (s : String) :
    normalName s = String.ofList ((trimBy isBlank s.toList).map normalChar) := rfl

theorem map_normalChar {word name : List Char} (hword : List.Forall₂ StandsFor word name)
    (hname : ∀ d ∈ name, isNormal d = true) : word.map normalChar = name := by
  induction hword with
  | nil => rfl
  | cons hhead _ ih =>
      obtain ⟨hd, hrest⟩ := List.forall_mem_cons.mp hname
      rw [List.map_cons, (normalChar_eq_iff hd).mpr hhead, ih hrest]

/-- The normal spelling undoes every way to write a plain name. -/
theorem normalName_eq_iff {s name : String} (hname : Plain name) :
    normalName s = name ↔ Writes s name := by
  have hnormal := List.all_eq_true.mp hname
  rw [normalName_eq]
  constructor
  · -- what is left between the blanks is the word
    rintro rfl
    obtain ⟨before, after, hs, hbefore, hafter⟩ := exists_trimBy isBlank s.toList
    refine ⟨before, _, after, hs, hbefore, hafter, ?_⟩
    rw [String.toList_ofList] at hnormal ⊢
    rw [List.forall₂_map_right_iff, List.forall₂_same]
    exact fun c hc => (normalChar_eq_iff (hnormal _ (List.mem_map_of_mem hc))).mp rfl
  · rintro ⟨before, word, after, hs, hbefore, hafter, hword⟩
    have hmap : word.map normalChar = name.toList := map_normalChar hword hnormal
    have hblank : ∀ c ∈ word, isBlank c = false := by
      intro c hc
      have hc' := (of_isNormal (hnormal (normalChar c) (hmap ▸ List.mem_map_of_mem hc))).2.2
      -- a blank would stand for itself
      refine Bool.eq_false_iff.mpr fun hblank => ?_
      rw [normalChar_of_isBlank hblank, hblank] at hc'
      cases hc'
    rw [hs, trimBy_append hbefore hblank hafter, hmap, String.ofList_toList]

/-! ### Names with and without `ensure_` -/

/-- Whether a name has `ensure_` in front. -/
def Ensures (name : String) : Prop := "ensure_".toList <+: name.toList

instance (name : String) : Decidable (Ensures name) :=
  inferInstanceAs (Decidable ("ensure_".toList <+: name.toList))

/-- The forms of a name: as it is, without `ensure_` if it has that, and with it if it has not. -/
inductive IsForm : String → String → Prop where
  | same (name : String) : IsForm name name
  | dropped (rest : String) : IsForm rest ("ensure_" ++ rest)
  | added {name : String} (h : ¬ Ensures name) : IsForm ("ensure_" ++ name) name

theorem ensures_append (rest : String) : Ensures ("ensure_" ++ rest) := by
  rw [Ensures, String.toList_append]
  exact List.prefix_append _ _

theorem exists_of_ensures {name : String} (h : Ensures name) : ∃ rest, name = "ensure_" ++ rest := by
  obtain ⟨rest, hrest⟩ := h
  refine ⟨String.ofList rest, String.toList_injective ?_⟩
  rw [String.toList_append, @String.toList_ofList rest, hrest]

theorem shortName_append (rest : String) : shortName ("ensure_" ++ rest) = rest := by
  have hfront : "ensure_".toList.isPrefixOf ("ensure_" ++ rest).toList = true :=
    List.isPrefixOf_iff_prefix.mpr (ensures_append rest)
  simp only [shortName, hfront, if_true]
  rw [String.toList_append, List.drop_left, String.ofList_toList]

theorem shortName_of_not_ensures {name : String} (h : ¬ Ensures name) : shortName name = name := by
  have hfront : ¬ "ensure_".toList.isPrefixOf name.toList = true :=
    fun hfront => h (List.isPrefixOf_iff_prefix.mp hfront)
  simp only [shortName, if_neg hfront]

/-- Two names are short for the same exactly when one is a form of the other. -/
theorem shortName_eq_iff {name form : String} (h : ¬ Ensures (shortName name)) :
    shortName form = shortName name ↔ IsForm form name := by
  constructor
  · intro hsame
    by_cases hname : Ensures name
    · obtain ⟨rest, rfl⟩ := exists_of_ensures hname
      rw [shortName_append] at hsame
      by_cases hform : Ensures form
      · obtain ⟨rest', rfl⟩ := exists_of_ensures hform
        rw [shortName_append] at hsame
        subst hsame
        exact .same _
      · rw [shortName_of_not_ensures hform] at hsame
        subst hsame
        exact .dropped _
    · rw [shortName_of_not_ensures hname] at hsame
      subst hsame
      by_cases hform : Ensures form
      · obtain ⟨rest, rfl⟩ := exists_of_ensures hform
        rw [shortName_append] at hname ⊢
        exact .added hname
      · rw [shortName_of_not_ensures hform]
        exact .same _
  · intro hform
    cases hform with
    | same => rfl
    | dropped rest =>
        rw [shortName_append] at h ⊢
        exact shortName_of_not_ensures h
    | added hname => rw [shortName_append, shortName_of_not_ensures hname]

/-! ### Spellings -/

/-- A spelling of a name: a way to write one of its forms. -/
def Spells (s name : String) : Prop := ∃ form, IsForm form name ∧ Writes s form

theorem plain_append {s t : String} : Plain (s ++ t) ↔ Plain s ∧ Plain t := by
  rw [Plain, String.toList_append, List.all_append, Bool.and_eq_true]
  rfl

theorem IsForm.plain {form name : String} (h : IsForm form name) (hname : Plain name) :
    Plain form := by
  cases h with
  | same => exact hname
  | dropped rest => exact (plain_append.mp hname).2
  | added _ => exact plain_append.mpr ⟨by decide, hname⟩

/-- The spellings of a plain name are the texts with its short name. -/
theorem spells_iff {s name : String} (hname : Plain name) (hshort : ¬ Ensures (shortName name)) :
    Spells s name ↔ shortName (normalName s) = shortName name := by
  rw [shortName_eq_iff hshort]
  constructor
  · rintro ⟨form, hform, hwrites⟩
    rw [(normalName_eq_iff (hform.plain hname)).mpr hwrites]
    exact hform
  · intro hform
    exact ⟨_, hform, (normalName_eq_iff (hform.plain hname)).mp rfl⟩

end Predicate
end CallCheck
