import CallCheck.Proofs.Equality
import CallCheck.Proofs.Registry
import Mathlib.Data.List.Induction
import Mathlib.Data.List.Nodup

/-!
# What a registry holds

A registry keeps every target twice: in the suite it was added to, and under its name. The suites
group the additions (`Registry.GroupsBy`): they are in the order in which they were first used, and
each of them has the targets added to it, in order. One more addition keeps that
(`Registry.GroupsBy.extend`), whether its suite is new or not; so it holds of every registry, by
adding one target after another at the end. The target of a name is the one added last
(`Registry.target?_addAll_eq_some`), and the names are sorted (`Registry.pairwise_names`).
`Registry.holds_what_is_added` puts this together.
-/

namespace CallCheck
namespace Registry

variable {suite : String} {t : Target} {suites : List (String × List Target)}

/-- The targets that additions bring to a suite, in order. -/
def addedTo (as : List Addition) (suite : String) : List Target :=
  (as.filter (·.suite == suite)).map Addition.target

theorem addedTo_concat_self (as : List Addition) (a : Addition) :
    addedTo (as ++ [a]) a.suite = addedTo as a.suite ++ [a.target] := by
  simp [addedTo]

theorem addedTo_concat_of_ne {as : List Addition} {a : Addition} (h : suite ≠ a.suite) :
    addedTo (as ++ [a]) suite = addedTo as suite := by
  have hne : ¬ a.suite = suite := fun heq => h heq.symm
  simp [addedTo, hne]

theorem addedTo_eq_nil_iff {as : List Addition} :
    addedTo as suite = [] ↔ suite ∉ as.map Addition.suite := by
  simp [addedTo, List.filter_eq_nil_iff]

/-! ### Extending a suite -/

/-- A suite that is new comes last. -/
theorem map_fst_extend : (extend suite t suites).map Prod.fst =
    if suite ∈ suites.map Prod.fst then suites.map Prod.fst
    else suites.map Prod.fst ++ [suite] := by
  induction suites with
  | nil => rfl
  | cons first rest ih =>
      obtain ⟨name, ts⟩ := first
      rw [extend]
      by_cases hname : name = suite
      · simp [hname]
      · have hne : ¬ suite = name := fun heq => hname heq.symm
        rw [if_neg hname, List.map_cons, ih]
        by_cases hmem : suite ∈ rest.map Prod.fst <;> simp [hne, hmem]

/-- The other suites stay as they are. -/
theorem filter_extend : (extend suite t suites).filter (·.1 != suite) =
    suites.filter (·.1 != suite) := by
  induction suites with
  | nil => simp [extend]
  | cons first rest ih =>
      obtain ⟨name, ts⟩ := first
      rw [extend]
      by_cases hname : name = suite
      · simp [hname]
      · rw [if_neg hname, List.filter_cons, List.filter_cons, ih]

/-- The suite that is extended has the new target after those it had, if it had any. -/
theorem mem_extend_self {ts : List Target} (hnodup : (suites.map Prod.fst).Nodup)
    (h : (suite, ts) ∈ extend suite t suites) :
    (∃ before, (suite, before) ∈ suites ∧ ts = before ++ [t]) ∨
      suite ∉ suites.map Prod.fst ∧ ts = [t] := by
  induction suites with
  | nil =>
      have hts : ts = [t] := by simpa [extend] using h
      exact .inr ⟨List.not_mem_nil, hts⟩
  | cons first rest ih =>
      obtain ⟨name, before⟩ := first
      obtain ⟨hfresh, hrest⟩ := List.nodup_cons.mp hnodup
      rw [extend] at h
      split at h
      · next hname =>
          subst hname
          rcases List.mem_cons.mp h with heq | hmem
          · cases heq
            exact .inl ⟨before, List.mem_cons_self, rfl⟩
          · -- no other suite has that name
            exact absurd (List.mem_map_of_mem hmem) hfresh
      · next hname =>
          have hne : ¬ suite = name := fun heq => hname heq.symm
          rcases List.mem_cons.mp h with heq | hmem
          · cases heq
            exact absurd rfl hname
          · rcases ih hrest hmem with ⟨before', hbefore, hts⟩ | ⟨hnew, hts⟩
            · exact .inl ⟨before', List.mem_cons_of_mem _ hbefore, hts⟩
            · refine .inr ⟨?_, hts⟩
              simpa [hne] using hnew

/-- The targets of suites as additions to them. -/
def additions (suites : List (String × List Target)) : List Addition :=
  suites.flatMap fun s => s.2.map (Addition.mk s.1)

/-- Extending a suite adds one target to one suite. -/
theorem perm_additions_extend :
    (additions (extend suite t suites)).Perm (additions suites ++ [⟨suite, t⟩]) := by
  induction suites with
  | nil => exact .refl _
  | cons first rest ih =>
      obtain ⟨name, ts⟩ := first
      rw [extend]
      split
      · next hname =>
          subst hname
          simp only [additions, List.flatMap_cons, List.map_append, List.map_cons, List.map_nil,
            List.append_assoc]
          exact List.perm_append_comm.append_left _
      · simp only [additions, List.flatMap_cons, List.append_assoc]
        exact ih.append_left _

/-! ### The suites of a registry -/

/-- Suites that hold exactly what was added to them. -/
structure GroupsBy (suites : List (String × List Target)) (as : List Addition) : Prop where
  /-- The names are in the order in which they were used first; so they are different. -/
  ordered : (suites.map Prod.fst).Pairwise fun m n =>
    (as.map Addition.suite).idxOf m < (as.map Addition.suite).idxOf n
  used : ∀ name, name ∈ suites.map Prod.fst ↔ name ∈ as.map Addition.suite
  targets : ∀ s ∈ suites, s.2 = addedTo as s.1
  /-- No addition is lost, and none is in two places. -/
  perm : (additions suites).Perm as

theorem groupsBy_nil : GroupsBy [] [] :=
  ⟨.nil, fun _ => Iff.rfl, fun _ hs => (nomatch hs), .refl _⟩

variable {as : List Addition}

theorem GroupsBy.nodup (h : GroupsBy suites as) : (suites.map Prod.fst).Nodup :=
  h.ordered.imp fun hlt heq => by rw [heq] at hlt; exact Nat.lt_irrefl _ hlt

theorem GroupsBy.ne_nil (h : GroupsBy suites as) : ∀ s ∈ suites, s.2 ≠ [] := by
  intro s hs hnil
  have hused : s.1 ∈ as.map Addition.suite := (h.used s.1).mp (List.mem_map_of_mem hs)
  rw [h.targets s hs, addedTo_eq_nil_iff] at hnil
  exact hnil hused

/-- What was used before is used first where it was. -/
theorem pairwise_idxOf_concat (name : String) {names used : List String}
    (hnames : ∀ n ∈ names, n ∈ used)
    (h : names.Pairwise fun m n => used.idxOf m < used.idxOf n) :
    names.Pairwise fun m n => (used ++ [name]).idxOf m < (used ++ [name]).idxOf n := by
  refine h.imp_of_mem fun hm hn hlt => ?_
  rw [List.idxOf_append_of_mem (hnames _ hm), List.idxOf_append_of_mem (hnames _ hn)]
  exact hlt

/-- One more addition is grouped with those before it. -/
theorem GroupsBy.extend (h : GroupsBy suites as) (a : Addition) :
    GroupsBy (extend a.suite a.target suites) (as ++ [a]) := by
  have hmem : ∀ n ∈ suites.map Prod.fst, n ∈ as.map Addition.suite := fun n => (h.used n).mp
  have hbefore := pairwise_idxOf_concat a.suite hmem h.ordered
  refine ⟨?ordered, ?used, ?targets, ?perm⟩
  case ordered =>
    rw [map_fst_extend, List.map_append, List.map_singleton]
    split
    · exact hbefore
    · next hnew =>
        have hunused : a.suite ∉ as.map Addition.suite := fun hused => hnew ((h.used _).mpr hused)
        refine List.pairwise_append.mpr ⟨hbefore, List.pairwise_singleton _ _, ?_⟩
        intro m hm n hn
        obtain rfl := List.mem_singleton.mp hn
        rw [List.idxOf_append_of_mem (hmem m hm), List.idxOf_append_of_notMem hunused]
        exact Nat.lt_add_right _ (List.idxOf_lt_length_of_mem (hmem m hm))
  case used =>
    intro name
    rw [map_fst_extend, List.map_append, List.map_singleton, List.mem_append, ← h.used name]
    split
    · next hold =>
        constructor
        · exact .inl
        · rintro (hname | hname)
          · exact hname
          · exact List.mem_singleton.mp hname ▸ hold
    · exact List.mem_append
  case targets =>
    rintro ⟨name, ts⟩ hs
    by_cases hname : name = a.suite
    · subst hname
      rw [addedTo_concat_self]
      rcases mem_extend_self h.nodup hs with ⟨before, hbefore, rfl⟩ | ⟨hnew, rfl⟩
      · rw [← h.targets _ hbefore]
      · have hnone : addedTo as a.suite = [] :=
          addedTo_eq_nil_iff.mpr fun hused => hnew ((h.used _).mpr hused)
        rw [hnone, List.nil_append]
    · rw [addedTo_concat_of_ne hname]
      -- another suite is there as before
      have hother : (name, ts) ∈ (Registry.extend a.suite a.target suites).filter (·.1 != a.suite) :=
        List.mem_filter.mpr ⟨hs, by simpa using hname⟩
      rw [filter_extend] at hother
      exact h.targets _ (List.mem_of_mem_filter hother)
  case perm => exact perm_additions_extend.trans (h.perm.append_right [a])

/-! ### Several additions -/

/-- Additions are made one after another, whatever they warn of. -/
theorem value_addAll (r : Registry) (as : List Addition) (j : Journal) :
    (r.addAll as).value j = as.foldl (fun r a => r.insert a.suite a.target) r := by
  induction as generalizing r j with
  | nil => rfl
  | cons a as ih => rw [value_addAll_cons, ih, List.foldl_cons]

theorem value_addAll_concat (r : Registry) (as : List Addition) (a : Addition) (j : Journal) :
    (r.addAll (as ++ [a])).value j = ((r.addAll as).value j).insert a.suite a.target := by
  rw [value_addAll, value_addAll, List.foldl_append]
  rfl

/-- The suites of a registry hold what was added. -/
theorem groupsBy_addAll (as : List Addition) (j : Journal) :
    GroupsBy ((empty.addAll as).value j).suites as := by
  induction as using List.reverseRecOn with
  | nil => exact groupsBy_nil
  | append_singleton as a ih =>
      rw [value_addAll_concat]
      exact ih.extend a

/-! ### Targets by name -/

theorem target?_addAll (as : List Addition) (j : Journal) (name : String) :
    ((empty.addAll as).value j).target? name =
      (as.reverse.find? (·.target.name == name)).map Addition.target := by
  have hlatest : ((empty.addAll as).value j).latest = as.reverse.map Addition.target := by
    rw [latest_addAll, List.map_reverse]
    exact List.append_nil _
  rw [target?, hlatest, List.find?_map]
  rfl

/-- The target of a name is the one added last under that name. -/
theorem target?_addAll_eq_some {as : List Addition} {j : Journal} {name : String} :
    ((empty.addAll as).value j).target? name = some t ↔
      ∃ before a after, as = before ++ a :: after ∧ a.target = t ∧ t.name = name ∧
        ∀ later ∈ after, later.target.name ≠ name := by
  rw [target?_addAll, Option.map_eq_some_iff]
  constructor
  · rintro ⟨a, hfound, rfl⟩
    obtain ⟨hname, after, before, hsplit, hafter⟩ := List.find?_eq_some_iff_append.mp hfound
    have hreverse : as = before.reverse ++ a :: after.reverse := by
      rw [← List.reverse_inj, hsplit]
      simp
    refine ⟨before.reverse, a, after.reverse, hreverse, rfl, beq_iff_eq.mp hname, ?_⟩
    intro later hlater
    simpa using hafter later (List.mem_reverse.mp hlater)
  · rintro ⟨before, a, after, rfl, rfl, hname, hafter⟩
    refine ⟨a, List.find?_eq_some_iff_append.mpr ⟨beq_iff_eq.mpr hname, after.reverse,
      before.reverse, by simp, ?_⟩, rfl⟩
    intro later hlater
    simpa using hafter later (List.mem_reverse.mp hlater)

theorem target?_addAll_eq_none {as : List Addition} {j : Journal} {name : String} :
    ((empty.addAll as).value j).target? name = none ↔ ∀ a ∈ as, a.target.name ≠ name := by
  rw [target?_addAll, Option.map_eq_none_iff, List.find?_eq_none]
  simp

/-- A target under another name does not change what is found. -/
theorem target?_insert_of_ne (r : Registry) (suite : String) {name : String}
    (h : name ≠ t.name) : (r.insert suite t).target? name = r.target? name := by
  have hne : ¬ t.name = name := fun heq => h heq.symm
  simp [target?, insert, hne]

/-! ### Names -/

theorem mem_insertName {name n : String} {sorted : List String} :
    n ∈ insertName name sorted ↔ n = name ∨ n ∈ sorted := by
  induction sorted with
  | nil => simp [insertName]
  | cons m rest ih =>
      rw [insertName]
      split
      · simp
      · split
        · next heq => simp [heq]
        · simp only [List.mem_cons, ih]
          exact or_left_comm

/-- Names are put into a list as keys are put into an object. -/
theorem map_fst_insertField (key : String) (value : Json) (fields : List (String × Json)) :
    (Json.insertField key value fields).map Prod.fst = insertName key (fields.map Prod.fst) := by
  induction fields with
  | nil => rfl
  | cons f rest ih =>
      rw [Json.insertField, List.map_cons, insertName]
      split
      · rfl
      · split
        · next heq => rw [List.map_cons, heq]
        · rw [List.map_cons, ih]

theorem pairwise_insertName {sorted : List String} (h : sorted.Pairwise (· < ·)) (name : String) :
    (insertName name sorted).Pairwise (· < ·) := by
  let fields := sorted.map fun n => (n, Json.null)
  have hkeys : fields.map Prod.fst = sorted := by
    rw [List.map_map]
    exact List.map_id sorted
  have hfields : Json.Ascending fields := by
    rw [← hkeys] at h
    exact List.pairwise_map.mp h
  have hinserted := List.pairwise_map.mpr (Json.ascending_insertField hfields name .null)
  rwa [map_fst_insertField, hkeys] at hinserted

/-- The names of targets, put one after another into a sorted list. -/
theorem foldl_insertName {sorted : List String} (h : sorted.Pairwise (· < ·)) (ts : List Target) :
    let names := ts.foldl (fun sorted t => insertName t.name sorted) sorted
    names.Pairwise (· < ·) ∧ ∀ n, n ∈ names ↔ n ∈ sorted ∨ ∃ t ∈ ts, t.name = n := by
  induction ts generalizing sorted with
  | nil => exact ⟨h, by simp⟩
  | cons t ts ih =>
      obtain ⟨hsorted, hmem⟩ := ih (pairwise_insertName h t.name)
      refine ⟨hsorted, fun n => ?_⟩
      rw [List.foldl_cons, hmem, mem_insertName]
      simp only [List.mem_cons, exists_eq_or_imp, @eq_comm _ n]
      tauto

theorem pairwise_names (r : Registry) : r.names.Pairwise (· < ·) :=
  (foldl_insertName .nil r.latest).1

theorem mem_names {r : Registry} {n : String} : n ∈ r.names ↔ ∃ t ∈ r.latest, t.name = n := by
  rw [names, (foldl_insertName .nil r.latest).2]
  simp

theorem mem_names_addAll {as : List Addition} {j : Journal} {n : String} :
    n ∈ ((empty.addAll as).value j).names ↔ ∃ a ∈ as, a.target.name = n := by
  rw [mem_names, latest_addAll]
  simp [empty]

/-- **A registry holds what is added to it.** Its suites have different names, in the order in which
these were used first, and none is empty: each has the targets that were added to it, in order and
as often as they were added, so that no addition is lost or found in two suites. A name stands for
the target added last under it, and for none only if there is no such target. The names are sorted,
and they are those of the targets. One more addition changes neither another suite nor what another
name stands for. -/
theorem holds_what_is_added (as : List Addition) (j : Journal) :
    let r := (empty.addAll as).value j
    (r.suites.map Prod.fst).Nodup ∧
    ((r.suites.map Prod.fst).Pairwise fun m n =>
      (as.map Addition.suite).idxOf m < (as.map Addition.suite).idxOf n) ∧
    (∀ name, name ∈ r.suites.map Prod.fst ↔ ∃ a ∈ as, a.suite = name) ∧
    (∀ s ∈ r.suites, s.2 ≠ [] ∧ s.2 = (as.filter (·.suite == s.1)).map Addition.target) ∧
    (r.suites.flatMap fun s => s.2.map (Addition.mk s.1)).Perm as ∧
    (∀ name t, r.target? name = some t ↔
      ∃ before a after, as = before ++ a :: after ∧ a.target = t ∧ t.name = name ∧
        ∀ later ∈ after, later.target.name ≠ name) ∧
    (∀ name, r.target? name = none ↔ ∀ a ∈ as, a.target.name ≠ name) ∧
    r.names.Pairwise (· < ·) ∧
    (∀ name, name ∈ r.names ↔ ∃ a ∈ as, a.target.name = name) ∧
    ∀ suite t j',
      let next := (r.add suite t).value j'
      next.suites.filter (·.1 != suite) = r.suites.filter (·.1 != suite) ∧
      ∀ name, name ≠ t.name → next.target? name = r.target? name := by
  intro r
  have hgroups : GroupsBy r.suites as := groupsBy_addAll as j
  refine ⟨hgroups.nodup, hgroups.ordered, ?used, ?targets, hgroups.perm,
    fun name t => target?_addAll_eq_some, fun name => target?_addAll_eq_none, pairwise_names r,
    fun name => mem_names_addAll, ?next⟩
  case used =>
    intro name
    rw [hgroups.used, List.mem_map]
  case targets => exact fun s hs => ⟨hgroups.ne_nil s hs, hgroups.targets s hs⟩
  case next =>
    intro suite t j' next
    have hnext : next = r.insert suite t := value_add r suite t j'
    rw [hnext]
    exact ⟨filter_extend, fun name hname => target?_insert_of_ne r suite hname⟩

end Registry
end CallCheck
