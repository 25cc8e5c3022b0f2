import CallCheck.Discovery
import Mathlib.Data.List.Forall2
import Mathlib.Data.List.TakeWhile

/-!
# Texts that patterns with braces stand for

The rule for braces replaces the first group of a text by each of its alternatives and goes on with
what comes of that, as long as there is a group (`Glob.Braces.Expands`). Alternatives may have opening
braces themselves, so that a new group may begin within one and end behind it; still each text has one
result by this rule, which is `Glob.Braces.expand`, and no text of it has a group (`expands_iff`,
`not_hasGroup_of_mem_expand`).

Where braces and commas are only used to write groups of alternatives, a pattern is written from
segments (`Glob.Braces.written`). Then the texts are those with one alternative chosen of each group, in
the order of the choices (`Glob.Braces.forall₂_chooses`), and the rule files are the files that one of
them names. `Glob.Braces.expand_exact` puts it together.
-/

namespace CallCheck
namespace Glob
namespace Braces

variable {s t u v lead : List Char} {x : Char} {g : Group} {ts : List (List Char)}

/-! ### Groups -/

/-- Somewhere in the text a brace is opened, and one is closed after it. -/
def HasGroup (s : List Char) : Prop := List.Sublist ['\x7b', '\x7d'] s

namespace Group

/-- The text of a group, with what is around it. -/
def whole (g : Group) : List Char := g.before ++ '\x7b' :: (g.inside ++ '\x7d' :: g.after)

/-- No brace is opened before the group, and the first brace that is closed in it is its end. -/
structure IsFirst (g : Group) : Prop where
  before : '\x7b' ∉ g.before
  inside : '\x7d' ∉ g.inside

theorem hasGroup_whole (g : Group) : HasGroup g.whole := by
  have hclosed : List.Sublist ['\x7d'] (g.inside ++ '\x7d' :: g.after) := by simp
  exact (hclosed.cons_cons '\x7b').trans (List.sublist_append_right _ _)

end Group

theorem dropWhile_ne_append (h : x ∉ u) : (u ++ x :: v).dropWhile (· ≠ x) = x :: v := by
  rw [List.dropWhile_append_of_pos fun y hy => decide_eq_true (ne_of_mem_of_not_mem hy h)]
  simp

theorem takeWhile_ne_append (h : x ∉ u) : (u ++ x :: v).takeWhile (· ≠ x) = u := by
  rw [List.takeWhile_append_of_pos fun y hy => decide_eq_true (ne_of_mem_of_not_mem hy h)]
  simp

theorem dropWhile_ne_eq_nil (h : x ∉ u) : u.dropWhile (· ≠ x) = [] :=
  List.dropWhile_eq_nil_iff.mpr fun _ hy => decide_eq_true (ne_of_mem_of_not_mem hy h)

theorem Group.IsFirst.firstGroup? (h : g.IsFirst) : firstGroup? g.whole = some g := by
  simp only [Braces.firstGroup?, whole, dropWhile_ne_append h.before, takeWhile_ne_append h.before,
    dropWhile_ne_append h.inside, takeWhile_ne_append h.inside]

/-- A text with a group has a first one. -/
theorem HasGroup.exists_isFirst (h : HasGroup s) : ∃ g : Group, g.IsFirst ∧ s = g.whole := by
  have hopen : '\x7b' ∈ s := h.subset List.mem_cons_self
  obtain ⟨before, rest, rfl, hbefore⟩ := List.eq_append_cons_of_mem hopen
  obtain ⟨s₁, s₂, hs, h₁, h₂⟩ := List.sublist_append_iff.mp h
  -- nothing of the group stands before the first brace that is opened
  have hclose : '\x7d' ∈ rest := by
    cases s₁ with
    | nil =>
        obtain rfl := hs
        exact List.singleton_sublist.mp (List.cons_sublist_cons.mp h₂)
    | cons c s₁ =>
        obtain rfl := (List.cons.inj hs).1
        exact absurd (h₁.subset List.mem_cons_self) hbefore
  obtain ⟨inside, after, rfl, hinside⟩ := List.eq_append_cons_of_mem hclose
  exact ⟨⟨before, inside, after⟩, ⟨hbefore, hinside⟩, rfl⟩

theorem firstGroup?_eq_none_iff : firstGroup? s = none ↔ ¬ HasGroup s := by
  constructor
  · intro hnone hs
    obtain ⟨g, hg, rfl⟩ := hs.exists_isFirst
    rw [hg.firstGroup?] at hnone
    cases hnone
  · intro hs
    rw [firstGroup?]
    by_cases hopen : '\x7b' ∈ s
    · obtain ⟨before, rest, rfl, hbefore⟩ := List.eq_append_cons_of_mem hopen
      have hclose : '\x7d' ∉ rest := fun hmem => hs <|
        ((List.singleton_sublist.mpr hmem).cons_cons '\x7b').trans (List.sublist_append_right _ _)
      simp only [dropWhile_ne_append hbefore, dropWhile_ne_eq_nil hclose]
    · rw [dropWhile_ne_eq_nil hopen]

theorem firstGroup?_eq_some_iff : firstGroup? s = some g ↔ g.IsFirst ∧ s = g.whole := by
  constructor
  · intro h
    have hs : HasGroup s := by
      by_contra hs
      rw [firstGroup?_eq_none_iff.mpr hs] at h
      cases h
    obtain ⟨g', hg', rfl⟩ := hs.exists_isFirst
    rw [hg'.firstGroup?] at h
    obtain rfl := Option.some.inj h
    exact ⟨hg', rfl⟩
  · rintro ⟨hg, rfl⟩
    exact hg.firstGroup?

/-! ### The rule -/

/-- What a text stands for by the rule: itself if it has no group; else what it stands for with each of
the alternatives of its first group in place of that, one after the other. -/
inductive Expands : List Char → List (List Char) → Prop where
  | plain {s : List Char} (h : ¬ HasGroup s) : Expands s [s]
  | group {g : Group} {tss : List (List (List Char))} (hfirst : g.IsFirst)
      (h : List.Forall₂ Expands (g.alternatives.map g.choose) tss) : Expands g.whole tss.flatten

theorem expand_of_not_hasGroup (h : ¬ HasGroup s) : expand s = [s] := by
  rw [expand]
  split
  · rfl
  · next g hg => rw [firstGroup?_eq_none_iff.mpr h] at hg; cases hg

theorem expand_of_firstGroup? (h : firstGroup? s = some g) :
    expand s = g.alternatives.flatMap fun a => expand (g.choose a) := by
  rw [expand]
  split
  · next hnone => rw [h] at hnone; cases hnone
  · next g' hg' =>
      obtain rfl := Option.some.inj (h.symm.trans hg')
      show g.alternatives.attach.flatMap (fun a => expand (g.choose a.1)) = _
      conv_rhs => rw [← List.attach_map_subtype_val g.alternatives, List.flatMap_map]

theorem Group.IsFirst.unique {g' : Group} (h : g.IsFirst) (h' : g'.IsFirst)
    (heq : g.whole = g'.whole) : g = g' := by
  have hfirst := h.firstGroup?
  rw [heq, h'.firstGroup?] at hfirst
  exact (Option.some.inj hfirst).symm

theorem expands_of_not_hasGroup (h : ¬ HasGroup s) : Expands s ts ↔ ts = [s] := by
  constructor
  · intro hs
    cases hs with
    | plain _ => rfl
    | group _ _ => exact absurd (Group.hasGroup_whole _) h
  · rintro rfl
    exact .plain h

theorem expands_whole (h : g.IsFirst) :
    Expands g.whole ts ↔
      ∃ tss, List.Forall₂ Expands (g.alternatives.map g.choose) tss ∧ ts = tss.flatten := by
  constructor
  · intro hs
    generalize heq : g.whole = s at hs
    cases hs with
    | plain hnot => exact absurd (heq ▸ g.hasGroup_whole) hnot
    | group h' htss =>
        obtain rfl := h.unique h' heq
        exact ⟨_, htss, rfl⟩
  · rintro ⟨tss, htss, rfl⟩
    exact .group h htss

/-- What a list is related to, if each of its elements is related to just one thing. -/
theorem forall₂_iff_eq_map {α β : Type} {R : α → β → Prop} {f : α → β} {as : List α} {bs : List β}
    (h : ∀ a ∈ as, ∀ b, R a b ↔ b = f a) : List.Forall₂ R as bs ↔ bs = as.map f := by
  induction as generalizing bs with
  | nil => rw [List.forall₂_nil_left_iff, List.map_nil]
  | cons a as ih =>
      have hrest : ∀ {bs}, List.Forall₂ R as bs ↔ bs = as.map f :=
        ih fun a' ha' => h a' (List.mem_cons_of_mem a ha')
      rw [List.forall₂_cons_left_iff, List.map_cons]
      constructor
      · rintro ⟨b, bs, hb, hbs, rfl⟩
        rw [(h a List.mem_cons_self b).mp hb, hrest.mp hbs]
      · rintro rfl
        exact ⟨f a, as.map f, (h a List.mem_cons_self _).mpr rfl, hrest.mpr rfl, rfl⟩

/-- Each text has one result by the rule, and it is the expansion. -/
theorem expands_iff : Expands s ts ↔ ts = expand s := by
  -- each alternative in place of the group leaves fewer closing braces, and so the recursion ends
  induction s using expand.induct generalizing ts with
  | case1 s hnone =>
      have hs : ¬ HasGroup s := firstGroup?_eq_none_iff.mp hnone
      rw [expand_of_not_hasGroup hs, expands_of_not_hasGroup hs]
  | case2 s g hsome ih =>
      obtain ⟨hfirst, rfl⟩ := firstGroup?_eq_some_iff.mp hsome
      have halternatives : ∀ {tss}, List.Forall₂ Expands (g.alternatives.map g.choose) tss ↔
          tss = g.alternatives.map fun a => expand (g.choose a) := by
        intro tss
        rw [List.forall₂_map_left_iff]
        exact forall₂_iff_eq_map fun a ha b => ih ⟨a, ha⟩
      simp only [expands_whole hfirst, halternatives, exists_eq_left, expand_of_firstGroup? hsome,
        List.flatMap_def]

theorem not_hasGroup_of_mem_expand (h : t ∈ expand s) : ¬ HasGroup t := by
  induction s using expand.induct with
  | case1 s hnone =>
      rw [firstGroup?_eq_none_iff] at hnone
      rw [expand_of_not_hasGroup hnone, List.mem_singleton] at h
      rwa [h]
  | case2 s g hsome ih =>
      rw [expand_of_firstGroup? hsome, List.mem_flatMap] at h
      obtain ⟨a, ha, h⟩ := h
      exact ih ⟨a, ha⟩ h

/-! ### Patterns written from segments -/

/-- A text without braces. -/
def Bare (s : List Char) : Prop := '\x7b' ∉ s ∧ '\x7d' ∉ s

instance (s : List Char) : Decidable (Bare s) := inferInstanceAs (Decidable (_ ∧ _))

/-- A group of alternatives with the text that follows. None of them has a brace, and no alternative has
a comma. -/
structure Segment where
  alternatives : List (List Char)
  after : List Char
  nonempty : alternatives ≠ []
  bare : ∀ a ∈ alternatives, Bare a ∧ ',' ∉ a
  bare_after : Bare after

/-- A pattern written from the text it begins with and segments. -/
def written (lead : List Char) : List Segment → List Char
  | [] => lead
  | seg :: segs =>
    lead ++ '\x7b' :: ([','].intercalate seg.alternatives ++ '\x7d' :: written seg.after segs)

/-- What a pattern says if of each of its groups one alternative is chosen, by its number. -/
inductive Chooses : List Char → List Segment → List Nat → List Char → Prop where
  | nil {lead : List Char} : Chooses lead [] [] lead
  | cons {lead a t : List Char} {seg : Segment} {segs : List Segment} {i : Nat} {is : List Nat}
      (h : seg.alternatives[i]? = some a) (rest : Chooses seg.after segs is t) :
      Chooses lead (seg :: segs) (i :: is) (lead ++ a ++ t)

variable {a : List Char} {seg : Segment} {segs : List Segment} {i : Nat} {is : List Nat}

theorem Bare.append (hs : Bare s) (ht : Bare t) : Bare (s ++ t) :=
  ⟨List.not_mem_append hs.1 ht.1, List.not_mem_append hs.2 ht.2⟩

theorem Bare.not_hasGroup (h : Bare s) : ¬ HasGroup s :=
  fun hs => h.1 (hs.subset List.mem_cons_self)

/-- A text in front of a pattern belongs to the text that it begins with. -/
theorem written_append : written (u ++ lead) segs = u ++ written lead segs := by
  cases segs with
  | nil => rfl
  | cons seg segs => simp only [written, List.append_assoc]

/-- A text in front of a pattern is in front of all that it says. -/
theorem chooses_append :
    Chooses (u ++ lead) segs is t ↔ ∃ t', Chooses lead segs is t' ∧ t = u ++ t' := by
  constructor
  · intro h
    cases h with
    | nil => exact ⟨_, .nil, rfl⟩
    | cons h rest => exact ⟨_, .cons h rest, by simp only [List.append_assoc]⟩
  · rintro ⟨t', h, rfl⟩
    cases h with
    | nil => exact .nil
    | cons h rest =>
        rw [← List.append_assoc, ← List.append_assoc]
        exact .cons h rest

theorem chooses_nil : Chooses lead [] is t ↔ is = [] ∧ t = lead := by
  constructor
  · intro h
    cases h
    exact ⟨rfl, rfl⟩
  · rintro ⟨rfl, rfl⟩
    exact .nil

/-- To choose is to put an alternative in place of the first group, and to choose in what is left. -/
theorem chooses_cons :
    Chooses lead (seg :: segs) (i :: is) t ↔
      ∃ a, seg.alternatives[i]? = some a ∧ Chooses (lead ++ a ++ seg.after) segs is t := by
  simp only [chooses_append]
  constructor
  · intro h
    cases h with
    | cons h rest => exact ⟨_, h, _, rest, rfl⟩
  · rintro ⟨a, h, t, rest, rfl⟩
    exact .cons h rest

theorem not_mem_intercalate {ws : List (List Char)} (h : ∀ w ∈ ws, x ∉ w) (hx : x ≠ ',') :
    x ∉ [','].intercalate ws := by
  induction ws with
  | nil => exact List.not_mem_nil
  | cons w ws ih =>
      have hrest : x ∉ [','].intercalate ws := ih fun v hv => h v (List.mem_cons_of_mem w hv)
      have hw : x ∉ w := h w List.mem_cons_self
      cases ws with
      | nil => simpa using hw
      | cons v ws =>
          rw [List.intercalate_cons_cons]
          simp only [List.mem_append, List.mem_singleton, not_or]
          exact ⟨⟨hw, hx⟩, hrest⟩

/-- The group that a segment writes is the first one, and has the alternatives of the segment. -/
theorem expand_written_cons (hlead : Bare lead) :
    expand (written lead (seg :: segs)) =
      seg.alternatives.flatMap fun a => expand (written (lead ++ a ++ seg.after) segs) := by
  let g : Group := ⟨lead, [','].intercalate seg.alternatives, written seg.after segs⟩
  have hfirst : g.IsFirst :=
    ⟨hlead.1, not_mem_intercalate (fun a ha => (seg.bare a ha).1.2) (by decide)⟩
  have halternatives : g.alternatives = seg.alternatives :=
    List.splitOn_intercalate ',' (fun a ha => (seg.bare a ha).2) seg.nonempty
  have hchoose : ∀ a, g.choose a = written (lead ++ a ++ seg.after) segs :=
    fun a => written_append.symm
  show expand g.whole = _
  rw [expand_of_firstGroup? hfirst.firstGroup?, halternatives]
  simp only [hchoose]

/-- With an alternative in place of the first group the text before the next one is bare again. -/
theorem Segment.bare_append (hlead : Bare lead) (ha : a ∈ seg.alternatives) :
    Bare (lead ++ a ++ seg.after) :=
  (hlead.append (seg.bare a ha).1).append seg.bare_after

theorem mem_expand_written (hlead : Bare lead) :
    t ∈ expand (written lead segs) ↔ ∃ is, Chooses lead segs is t := by
  -- what stands before the next group grows with each group that is replaced
  induction segs generalizing lead with
  | nil =>
      rw [written, expand_of_not_hasGroup hlead.not_hasGroup, List.mem_singleton]
      simp only [chooses_nil, exists_eq_left]
  | cons seg segs ih =>
      rw [expand_written_cons hlead, List.mem_flatMap]
      constructor
      · rintro ⟨a, ha, ht⟩
        obtain ⟨is, his⟩ := (ih (Segment.bare_append hlead ha)).mp ht
        obtain ⟨i, hi⟩ := List.mem_iff_getElem?.mp ha
        exact ⟨i :: is, chooses_cons.mpr ⟨a, hi, his⟩⟩
      · rintro ⟨_ | ⟨i, is⟩, h⟩
        · cases h
        · obtain ⟨a, hi, his⟩ := chooses_cons.mp h
          have ha : a ∈ seg.alternatives := List.mem_of_getElem? hi
          exact ⟨a, ha, (ih (Segment.bare_append hlead ha)).mpr ⟨is, his⟩⟩

/-! ### The order of the choices -/

/-- The choices of alternatives for segments, by number, the first segment going slowest. -/
def choices : List Segment → List (List Nat)
  | [] => [[]]
  | seg :: segs =>
    (List.range seg.alternatives.length).flatMap fun i => (choices segs).map (i :: ·)

theorem pairwise_choices (segs : List Segment) : (choices segs).Pairwise (· < ·) := by
  induction segs with
  | nil => exact List.pairwise_singleton _ _
  | cons seg segs ih =>
      rw [choices, List.pairwise_flatMap]
      constructor
      · intro i _
        exact List.pairwise_map.mpr (ih.imp fun h => List.cons_lt_cons_iff.mpr (.inr ⟨rfl, h⟩))
      · refine List.pairwise_lt_range.imp fun hij is his js hjs => ?_
        obtain ⟨is, -, rfl⟩ := List.mem_map.mp his
        obtain ⟨js, -, rfl⟩ := List.mem_map.mp hjs
        exact List.cons_lt_cons_iff.mpr (.inl hij)

theorem forall₂_range_getElem? {α : Type} (as : List α) :
    List.Forall₂ (fun (i : Nat) a => as[i]? = some a) (List.range as.length) as := by
  rw [List.forall₂_iff_get]
  refine ⟨List.length_range, fun i _ hi => ?_⟩
  rw [List.get_eq_getElem, List.getElem_range, List.get_eq_getElem]
  exact List.getElem?_eq_getElem hi

/-- One after the other, the choices say what a pattern is expanded to. -/
theorem forall₂_chooses (hlead : Bare lead) :
    List.Forall₂ (Chooses lead segs) (choices segs) (expand (written lead segs)) := by
  induction segs generalizing lead with
  | nil =>
      rw [written, expand_of_not_hasGroup hlead.not_hasGroup]
      exact .cons .nil .nil
  | cons seg segs ih =>
      rw [expand_written_cons hlead, choices]
      refine List.rel_flatMap (forall₂_range_getElem? seg.alternatives) fun i a hi => ?_
      rw [List.forall₂_map_left_iff]
      have hbare : Bare (lead ++ a ++ seg.after) :=
        Segment.bare_append hlead (List.mem_of_getElem? hi)
      exact (ih hbare).imp fun is t h => chooses_cons.mpr ⟨a, hi, h⟩

/-- The choices are all those that say something. -/
theorem mem_choices : is ∈ choices segs ↔ ∃ t, Chooses lead segs is t := by
  induction segs generalizing lead is with
  | nil =>
      simp only [choices, List.mem_singleton, chooses_nil, exists_and_left, exists_eq, and_true]
  | cons seg segs ih =>
      simp only [choices, List.mem_flatMap, List.mem_range, List.mem_map]
      constructor
      · rintro ⟨i, hi, is, his, rfl⟩
        obtain ⟨t, ht⟩ : ∃ t, Chooses (lead ++ seg.alternatives[i] ++ seg.after) segs is t := ih.mp his
        exact ⟨t, chooses_cons.mpr ⟨_, List.getElem?_eq_getElem hi, ht⟩⟩
      · rintro ⟨t, ht⟩
        cases ht with
        | cons hi rest =>
            exact ⟨_, (List.getElem?_eq_some_iff.mp hi).1, _, ih.mpr ⟨_, rest⟩, rfl⟩

end Braces
end Glob

/-! ### Rule files -/

namespace Discovery

variable {text : String} {pattern : Glob.Pattern}

/-- The patterns for the names of rule files are those of the texts that the setting stands for, as far as
they are well-formed. -/
theorem mem_namePatterns :
    pattern ∈ namePatterns text ↔
      ∃ t ∈ Glob.Braces.expand text.toList, Glob.Pattern.ofText (String.ofList t) = .ok pattern := by
  have hread : ∀ t, (Glob.Pattern.ofText (String.ofList t)).toOption = some pattern ↔
      Glob.Pattern.ofText (String.ofList t) = .ok pattern := by
    intro t
    cases Glob.Pattern.ofText (String.ofList t) with
    | error fault => exact iff_of_false nofun nofun
    | ok found => simp [Except.toOption]
  rw [namePatterns, List.mem_filterMap]
  simp only [hread]

theorem isRuleFile_iff {c : Config} {p : Path} :
    isRuleFile c p = true ↔ ∃ name, p.fileName? = some name ∧
      ∃ pattern ∈ namePatterns c.testPattern, pattern.accepts name = true := by
  simp only [isRuleFile, Option.any_eq_true, List.any_eq_true]

end Discovery

namespace Glob
namespace Braces

/-! ### The expansion -/

/-- **Braces are expanded to what they stand for.** Each text has just one result by the rule, its
expansion, in which nothing has a group left. A pattern written from segments is expanded to one text for
each choice of alternatives, in the lexicographic order of the choices, and the rule files are the files
that the pattern of one of the choices names. -/
theorem expand_exact :
    (∀ s, (∀ ts, Expands s ts ↔ ts = expand s) ∧ ∀ t ∈ expand s, ¬ HasGroup t) ∧
      ∀ (lead : List Char) (segs : List Segment), Bare lead →
        (∃ choices : List (List Nat), choices.Pairwise (· < ·) ∧
          (∀ is, is ∈ choices ↔ ∃ t, Chooses lead segs is t) ∧
          List.Forall₂ (Chooses lead segs) choices (expand (written lead segs))) ∧
        ∀ (c : Config) (p : Path), c.testPattern = String.ofList (written lead segs) →
          (Discovery.isRuleFile c p = true ↔
            ∃ name, p.fileName? = some name ∧ ∃ is t pattern, Chooses lead segs is t ∧
              Pattern.ofText (String.ofList t) = .ok pattern ∧ pattern.accepts name = true) := by
  refine ⟨fun s => ⟨fun ts => expands_iff, fun t => not_hasGroup_of_mem_expand⟩, ?_⟩
  intro lead segs hlead
  refine ⟨⟨choices segs, pairwise_choices segs, fun is => mem_choices, forall₂_chooses hlead⟩, ?_⟩
  intro c p hc
  rw [Discovery.isRuleFile_iff, hc]
  simp only [Discovery.mem_namePatterns, String.toList_ofList, mem_expand_written hlead]
  refine exists_congr fun name => and_congr_right fun _ => ?_
  constructor
  · rintro ⟨pattern, ⟨t, ⟨is, his⟩, htext⟩, haccepts⟩
    exact ⟨is, t, pattern, his, htext, haccepts⟩
  · rintro ⟨is, t, pattern, his, htext, haccepts⟩
    exact ⟨pattern, ⟨t, ⟨is, his⟩, htext⟩, haccepts⟩

/-- The segments of a pattern for the rules of a lamp, with or without `.eval` in their names. -/
def lampSegments : List Segment :=
  [⟨[[], ".eval".toList], ['.'], by decide, by decide, by decide⟩,
    ⟨["yaml".toList, "yml".toList], [], by decide, by decide, by decide⟩]

/-- With the empty alternative of one group and the last of the other chosen, the file has its name. -/
theorem expand_exact_lamp :
    let lead := "lamp".toList
    let c : Config := { Config.standard with testPattern := "lamp\x7b,.eval\x7d.\x7byaml,yml\x7d" }
    Bare lead ∧ c.testPattern = String.ofList (written lead lampSegments) ∧
      (∃ choices : List (List Nat), choices.Pairwise (· < ·) ∧
        (∀ is, is ∈ choices ↔ ∃ t, Chooses lead lampSegments is t) ∧
        List.Forall₂ (Chooses lead lampSegments) choices (expand (written lead lampSegments))) ∧
      Discovery.isRuleFile c ⟨"suites/lamp.yml"⟩ = true := by
  intro lead c
  have hlead : Bare lead := by decide
  have hpattern : c.testPattern = String.ofList (written lead lampSegments) := by decide
  have hchosen : Chooses lead lampSegments [0, 1] "lamp.yml".toList :=
    chooses_cons.mpr ⟨_, rfl, chooses_cons.mpr ⟨_, rfl, chooses_nil.mpr ⟨rfl, by decide⟩⟩⟩
  obtain ⟨hchoices, hrules⟩ := expand_exact.2 lead lampSegments hlead
  refine ⟨hlead, hpattern, hchoices, (hrules c ⟨"suites/lamp.yml"⟩ hpattern).mpr ?_⟩
  refine ⟨"lamp.yml", by decide +kernel, [0, 1], _, "lamp.yml".toList.map .literal, hchosen, ?_, ?_⟩
  · decide +kernel
  · decide +kernel

end Braces
end Glob
end CallCheck
