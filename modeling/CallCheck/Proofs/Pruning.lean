import CallCheck.Proofs.Braces
import CallCheck.Proofs.Resolution

/-!
# Walking everything and filtering

A walk turns back at each excluded name and takes the rule files among the rest. It finds what one
finds who walks everything (`Discovery.visitedIn`) and then drops what is no rule file or excluded: an
excluded name leads to excluded paths only (`Discovery.filter_visitedAt_of_isExcluded`), so that
nothing is lost where the walk turns back. Different names lead to paths of different components, so
sorting leaves them in strictly increasing order (`Discovery.pairwise_ruleFiles`).
`Discovery.ruleFiles_pruned` puts it together.
-/

namespace CallCheck
namespace Discovery

open File (Disk Tree)

variable {d : Disk} {c : Config} {p q : Path} {t : Tree} {es : List (String × Tree)}

/-! ### Selected paths -/

/-- Whether a path is that of a rule file, excluded by no name: its last name matches one of the texts
that the pattern stands for, and none of its components is an excluded name. -/
structure IsSelected (c : Config) (q : Path) : Prop where
  named : ∃ name, q.fileName? = some name ∧
    ∃ ts, Glob.Braces.Expands c.testPattern.toList ts ∧ ∃ t ∈ ts, ∃ pattern : Glob.Pattern,
      Glob.Pattern.ofText (String.ofList t) = .ok pattern ∧ pattern.accepts name = true
  clear : ∀ n ∈ c.exclude, Path.Component.name n ∉ q.components

theorem isExcluded_iff :
    isExcluded c q = true ↔ ∃ n ∈ c.exclude, Path.Component.name n ∈ q.components := by
  have hname : ∀ (a : Path.Component) (n : String), a.name? = some n ↔ a = .name n := by
    intro a n
    cases a <;> simp [Path.Component.name?]
  simp only [isExcluded, List.any_eq_true, List.mem_filterMap, List.contains_iff_mem, hname]
  constructor
  · rintro ⟨n, ⟨_, hcomponent, rfl⟩, hn⟩
    exact ⟨n, hn, hcomponent⟩
  · rintro ⟨n, hn, hcomponent⟩
    exact ⟨n, ⟨_, hcomponent, rfl⟩, hn⟩

/-- The name of a rule file matches one of the texts that the pattern stands for. -/
theorem isRuleFile_iff_expands : isRuleFile c q = true ↔ ∃ name, q.fileName? = some name ∧
    ∃ ts, Glob.Braces.Expands c.testPattern.toList ts ∧ ∃ t ∈ ts, ∃ pattern : Glob.Pattern,
      Glob.Pattern.ofText (String.ofList t) = .ok pattern ∧ pattern.accepts name = true := by
  rw [isRuleFile_iff]
  simp only [mem_namePatterns, Glob.Braces.expands_iff, exists_eq_left]
  refine exists_congr fun name => and_congr_right fun _ => ?_
  constructor
  · rintro ⟨pattern, ⟨t, ht, htext⟩, haccepts⟩
    exact ⟨t, ht, pattern, htext, haccepts⟩
  · rintro ⟨t, ht, pattern, htext, haccepts⟩
    exact ⟨pattern, ⟨t, ht, htext⟩, haccepts⟩

theorem isSelected_iff : IsSelected c q ↔ isRuleFile c q = true ∧ isExcluded c q = false := by
  have hclear : (∀ n ∈ c.exclude, Path.Component.name n ∉ q.components) ↔
      isExcluded c q = false := by
    rw [← Bool.not_eq_true, isExcluded_iff]
    simp only [not_exists, not_and]
  rw [← hclear, isRuleFile_iff_expands]
  exact ⟨fun h => ⟨h.named, h.clear⟩, fun ⟨hnamed, hclear⟩ => ⟨hnamed, hclear⟩⟩

/-- Whether a path that was visited is kept: that of a file which is selected. -/
def isKept (d : Disk) (c : Config) (q : Path) : Bool :=
  d.isFile q && isRuleFile c q && !isExcluded c q

theorem isKept_of_isExcluded (h : isExcluded c q = true) : isKept d c q = false := by
  rw [isKept, h, Bool.not_true, Bool.and_false]

/-! ### Visiting everything -/

mutual

/-- All paths of an entry of a directory, excluded or not: its own, and with recursion those in it. -/
def visitedAt (c : Config) (q : Path) : Tree → List Path
  | .file _ => [q]
  | .directory es => q :: if c.recursive then visitedIn c q es else []

/-- All paths below a directory, a directory before what it holds. -/
def visitedIn (c : Config) (q : Path) : List (String × Tree) → List Path
  | [] => []
  | (name, t) :: rest => visitedAt c (q.join ⟨name⟩) t ++ visitedIn c q rest

end

theorem visitedIn_eq_flatMap (es : List (String × Tree)) :
    visitedIn c q es = es.flatMap fun e => visitedAt c (q.join ⟨e.1⟩) e.2 := by
  induction es with
  | nil => rw [visitedIn]; rfl
  | cons e es ih => rw [visitedIn, ih, List.flatMap_cons]

/-- Below an excluded directory nothing is kept, if this is so for each entry that is excluded. -/
theorem filter_visitedIn_of_entries (hnames : ∀ e ∈ es, Path.IsName e.1) (hq : q.text ≠ "")
    (h : isExcluded c q = true)
    (hentries : ∀ e ∈ es, isExcluded c (q.join ⟨e.1⟩) = true →
      (visitedAt c (q.join ⟨e.1⟩) e.2).filter (isKept d c) = []) :
    (visitedIn c q es).filter (isKept d c) = [] := by
  rw [visitedIn_eq_flatMap, List.filter_flatMap, List.flatMap_eq_nil_iff]
  intro e he
  refine hentries e he ?_
  rw [isExcluded_join (hnames e he) hq, h, Bool.true_or]

/-- What lies below an excluded path is excluded, so nothing of it is kept. -/
theorem filter_visitedAt_of_isExcluded (ht : t.WellNamed) (hq : q.text ≠ "")
    (h : isExcluded c q = true) : (visitedAt c q t).filter (isKept d c) = [] := by
  -- a path below contains the excluded name as well, so the claim is again about excluded paths
  induction ht generalizing q with
  | file bytes => rw [visitedAt, List.filter_singleton, isKept_of_isExcluded h]; rfl
  | @directory es _ hnames _ ih =>
      have hbelow : (visitedIn c q es).filter (isKept d c) = [] :=
        filter_visitedIn_of_entries hnames hq h fun e he =>
          ih e he (Path.text_join_ne_empty (hnames e he) hq)
      rw [visitedAt, List.filter_cons_of_neg (by rw [isKept_of_isExcluded h]; decide)]
      split
      · exact hbelow
      · rfl

/-- Below a directory a walk finds what is kept of all paths, if this is so for each entry that is not
excluded. -/
theorem ruleFilesIn_eq_filter_of_entries (hes : (Tree.directory es).WellNamed) (hq : q.text ≠ "")
    (hentries : ∀ e ∈ es, isExcluded c (q.join ⟨e.1⟩) = false →
      ruleFilesAt c (q.join ⟨e.1⟩) e.2 = (visitedAt c (q.join ⟨e.1⟩) e.2).filter (isKept d c)) :
    ruleFilesIn c q es = (visitedIn c q es).filter (isKept d c) := by
  rw [ruleFilesIn_eq_flatMap, visitedIn_eq_flatMap, List.filter_flatMap]
  refine List.flatMap_congr fun e he => ?_
  have htext := Path.text_join_ne_empty (hes.isName e he) hq
  split
  · next hin => exact (filter_visitedAt_of_isExcluded (hes.entry e he) htext hin).symm
  · next hout => exact hentries e he (Bool.eq_false_iff.mpr hout)

/-- At an entry that is not excluded a walk finds what is kept of all paths. -/
theorem ruleFilesAt_eq_filter (ht : t.WellNamed) (hq : d.at? q = some t)
    (hout : isExcluded c q = false) :
    ruleFilesAt c q t = (visitedAt c q t).filter (isKept d c) := by
  induction ht generalizing q with
  | file bytes =>
      have hkept : isKept d c q = isRuleFile c q := by
        rw [isKept, Disk.isFile, hq, hout]
        exact Bool.and_true _
      rw [ruleFilesAt, visitedAt, List.filter_singleton, hkept]
      cases isRuleFile c q <;> rfl
  | @directory es hnodup hnames htrees ih =>
      have hes : (Tree.directory es).WellNamed := .directory hnodup hnames htrees
      have hself : isKept d c q = false := by
        rw [isKept, Disk.isFile, hq]
        rfl
      have hbelow := ruleFilesIn_eq_filter_of_entries hes (Disk.text_ne_empty_of_at? hq)
        fun e he => ih e he (Disk.at?_join hes hq he)
      rw [ruleFilesAt, visitedAt, List.filter_cons_of_neg (by rw [hself]; decide)]
      split
      · exact hbelow
      · rfl

/-- A walk finds what is kept of all paths below the directory. -/
theorem ruleFiles_eq_sort_filter (hes : (Tree.directory es).WellNamed)
    (hp : d.at? p = some (.directory es)) :
    ruleFiles d c p = sort ((visitedIn c p es).filter (isKept d c)) := by
  have htext : p.text ≠ "" := Disk.text_ne_empty_of_at? hp
  rw [ruleFiles, hp]
  split
  · next hin =>
      have hnone : (visitedIn c p es).filter (isKept d c) = [] :=
        filter_visitedIn_of_entries hes.isName htext hin fun e he =>
          filter_visitedAt_of_isExcluded (hes.entry e he)
            (Path.text_join_ne_empty (hes.isName e he) htext)
      rw [hnone, sort, List.mergeSort_nil]
  · -- nothing above the entries is excluded here, so each entry is judged by its own name
    refine congrArg sort (ruleFilesIn_eq_filter_of_entries hes htext fun e he hout => ?_)
    exact ruleFilesAt_eq_filter (hes.entry e he) (Disk.at?_join hes hp he) hout

/-! ### What is found -/

theorem isExcluded_descend {names : List String} (hnames : ∀ n ∈ names, Path.IsName n)
    (hp : p.text ≠ "") :
    isExcluded c (p.descend names) = (isExcluded c p || names.any c.exclude.contains) := by
  have hfound : (names.map Path.Component.name).filterMap Path.Component.name? = names := by
    rw [List.filterMap_map]
    exact List.filterMap_some
  rw [isExcluded, isExcluded, Path.components_descend hp hnames, List.filterMap_append, hfound,
    List.any_append]

theorem isRuleFile_descend {names : List String} (hnames : ∀ n ∈ names, Path.IsName n)
    (hp : p.text ≠ "") (hne : names ≠ []) :
    isRuleFile c (p.descend names) = names.getLast?.any (isRuleName c) := by
  obtain ⟨front, last, rfl⟩ := (List.eq_nil_or_concat' names).resolve_left hne
  rw [isRuleFile, Path.fileName?, Path.components_descend hp hnames, List.map_append,
    List.map_singleton, ← List.append_assoc, List.getLast?_concat, List.getLast?_concat]
  rfl

/-- A walk finds the files that names lead to, and that are selected; without recursion only those
that a single name leads to. -/
theorem mem_ruleFiles_iff (hes : (Tree.directory es).WellNamed)
    (hp : d.at? p = some (.directory es)) :
    q ∈ ruleFiles d c p ↔ ∃ names bytes, q = p.descend names ∧
      (Tree.directory es).find? names = some (.file bytes) ∧
      (c.recursive = true ∨ names.length = 1) ∧ IsSelected c q := by
  have htext : p.text ≠ "" := Disk.text_ne_empty_of_at? hp
  have hne : ∀ {names bytes}, (Tree.directory es).find? names = some (.file bytes) → names ≠ [] := by
    rintro names bytes hfile rfl
    cases hfile
  constructor
  · intro hq
    obtain ⟨names, ⟨⟨bytes, hfile⟩, hnamed, hclear, hreached⟩, rfl⟩ :=
      exists_place_of_mem_ruleFiles hes hp hq
    have hnames := (hes.find? hfile).1
    have hout : isExcluded c p = false := by
      by_contra hin
      rw [ruleFiles, if_pos (Bool.not_eq_false _ ▸ hin)] at hq
      cases hq
    refine ⟨names, bytes, rfl, hfile, hreached, isSelected_iff.mpr ⟨?_, ?_⟩⟩
    · rwa [isRuleFile_descend hnames htext (hne hfile)]
    · rw [isExcluded_descend hnames htext, hout, Bool.false_or, List.any_eq_false]
      exact fun n hn => by simpa using hclear n hn
  · rintro ⟨names, bytes, rfl, hfile, hreached, hselected⟩
    have hnames := (hes.find? hfile).1
    obtain ⟨hnamed, hclear⟩ := isSelected_iff.mp hselected
    rw [isRuleFile_descend hnames htext (hne hfile)] at hnamed
    rw [isExcluded_descend hnames htext, Bool.or_eq_false_iff, List.any_eq_false] at hclear
    refine descend_mem_ruleFiles hes hp hclear.1 ⟨⟨bytes, hfile⟩, hnamed, ?_, hreached⟩
    exact fun n hn => by simpa using hclear.2 n hn

/-! ### Each once -/

theorem head?_of_mem_placesAt {n : String} {names : List String} (h : names ∈ placesAt c n t) :
    names.head? = some n := by
  rcases mem_placesAt.mp h with ⟨_, _, rfl, _⟩ | ⟨_, _, _, rfl, _⟩ <;> rfl

/-- A directory has different places if each entry has. -/
theorem nodup_placesIn_of_entries (hnodup : (es.map Prod.fst).Nodup)
    (hentries : ∀ e ∈ es, (placesAt c e.1 e.2).Nodup) : (placesIn c es).Nodup := by
  have hhead : ∀ (e : String × Tree) (names : List String),
      names ∈ (if c.exclude.contains e.1 then [] else placesAt c e.1 e.2) →
      names.head? = some e.1 := by
    intro e names h
    split at h
    · cases h
    · exact head?_of_mem_placesAt h
  rw [placesIn_eq_flatMap, List.nodup_flatMap]
  constructor
  · intro e he
    split
    · exact .nil
    · exact hentries e he
  · -- places in different entries start with different names
    refine (List.pairwise_map.mp hnodup).imp fun {e e'} hne names hnames hnames' => hne ?_
    exact Option.some.inj ((hhead e names hnames).symm.trans (hhead e' names hnames'))

theorem nodup_placesAt (ht : t.WellNamed) (n : String) : (placesAt c n t).Nodup := by
  induction ht generalizing n with
  | file bytes => rw [placesAt]; split <;> simp
  | @directory es hnodup _ _ ih =>
      rw [placesAt]
      split
      · exact (nodup_placesIn_of_entries hnodup fun e he => ih e he e.1).map
          (List.cons_injective)
      · exact .nil

theorem isName_of_mem_placesIn {names : List String} (hes : (Tree.directory es).WellNamed)
    (h : names ∈ placesIn c es) : ∀ n ∈ names, Path.IsName n := by
  obtain ⟨bytes, hfile⟩ := ((mem_placesIn_iff_isRulePlace hes names).mp h).file
  exact (hes.find? hfile).1

/-- Different names lead to paths of different components. -/
theorem same_descend_iff {names names' : List String} (hp : p.text ≠ "")
    (hnames : ∀ n ∈ names, Path.IsName n) (hnames' : ∀ n ∈ names', Path.IsName n) :
    (p.descend names).same (p.descend names') = true ↔ names = names' := by
  rw [Path.same_iff, Path.components_descend hp hnames, Path.components_descend hp hnames',
    List.append_cancel_left_eq]
  exact (List.map_injective_iff.mpr fun _ _ => Path.Component.name.inj).eq_iff

/-- A walk finds no path twice, however it is spelled. -/
theorem pairwise_not_same_ruleFiles (hes : (Tree.directory es).WellNamed)
    (hp : d.at? p = some (.directory es)) (hout : isExcluded c p = false) :
    (ruleFiles d c p).Pairwise fun q r => q.same r = false := by
  have hnodup : (sortPlaces (placesIn c es)).Nodup := (List.mergeSort_perm _ _).nodup_iff.mpr
    (nodup_placesIn_of_entries hes.nodup fun e he => nodup_placesAt (hes.entry e he) e.1)
  have hnames : ∀ names ∈ sortPlaces (placesIn c es), ∀ n ∈ names, Path.IsName n :=
    fun names h => isName_of_mem_placesIn hes (List.mem_mergeSort.mp h)
  rw [ruleFiles_eq hes hp hout, List.pairwise_map]
  refine List.Pairwise.imp_of_mem (fun {names names'} hmem hmem' hne => ?_) hnodup
  rw [← Bool.not_eq_true,
    same_descend_iff (Disk.text_ne_empty_of_at? hp) (hnames _ hmem) (hnames _ hmem')]
  exact hne

/-- A walk finds paths in strictly increasing order. -/
theorem pairwise_ruleFiles (hes : (Tree.directory es).WellNamed)
    (hp : d.at? p = some (.directory es)) :
    (ruleFiles d c p).Pairwise fun q r => q.compare r = .lt := by
  cases hout : isExcluded c p with
  | true => rw [ruleFiles, if_pos hout]; exact .nil
  | false =>
      have hsorted : (ruleFiles d c p).Pairwise fun q r => q.le r = true := by
        rw [ruleFiles, hout]
        exact pairwise_sort _
      exact hsorted.imp₂ (fun _ _ hle hne => Path.compare_eq_lt_of_le hle hne)
        (pairwise_not_same_ruleFiles hes hp hout)

/-- **A walk that turns back at excluded names finds what a walk over everything finds.** Its paths
are in strictly increasing order, and are those of the selected files below the directory, without
recursion of the files directly in it: a file is selected if its name matches one of the texts that
the pattern stands for and no component of its path is an excluded name. So to leave out what is
excluded on the way gives the same list as to visit all and filter. -/
theorem ruleFiles_pruned (d : Disk) (hroot : d.root.WellNamed) (c : Config) (p : Path)
    (es : List (String × Tree)) (hp : d.at? p = some (.directory es)) :
    (ruleFiles d c p).Pairwise (fun q r => q.compare r = .lt) ∧
    (∀ q, q ∈ ruleFiles d c p ↔ ∃ names bytes, q = p.descend names ∧
      (Tree.directory es).find? names = some (.file bytes) ∧
      (c.recursive = true ∨ names.length = 1) ∧ IsSelected c q) ∧
    ruleFiles d c p = sort ((visitedIn c p es).filter (isKept d c)) := by
  have hes : (Tree.directory es).WellNamed := Disk.wellNamed_of_at? hroot hp
  exact ⟨pairwise_ruleFiles hes hp, fun q => mem_ruleFiles_iff hes hp,
    ruleFiles_eq_sort_filter hes hp⟩

/-- A file, a directory that comes before it although a slash comes after a dot, and a directory of an
excluded name. -/
def shadeEntries : List (String × Tree) :=
  [("lamp.eval.yaml", .file .empty), ("lamp", .directory [("shade.eval.yml", .file .empty)]),
    ("dist", .directory [("old.eval.yaml", .file .empty)])]

/-- A disk with these in a directory. -/
def shades : Disk := ⟨.directory [("lamps", .directory shadeEntries)], []⟩

theorem wellNamed_shades : shades.root.WellNamed := by
  have hnames : Path.IsName "lamps" ∧ Path.IsName "lamp.eval.yaml" ∧ Path.IsName "lamp" ∧
      Path.IsName "shade.eval.yml" ∧ Path.IsName "dist" ∧ Path.IsName "old.eval.yaml" := by
    decide +kernel
  simp [shades, shadeEntries, Tree.wellNamed_directory_iff, Tree.WellNamed.file, hnames]

/-- The file in the directory comes first, and the one in the excluded directory is not found. -/
theorem ruleFiles_pruned_shades :
    shades.root.WellNamed ∧ shades.at? ⟨"lamps"⟩ = some (.directory shadeEntries) ∧
    ruleFiles shades .standard ⟨"lamps"⟩ =
      [⟨"lamps/lamp/shade.eval.yml"⟩, ⟨"lamps/lamp.eval.yaml"⟩] ∧
    ∀ q ∈ ruleFiles shades .standard ⟨"lamps"⟩, IsSelected .standard q := by
  have hfound : shades.at? ⟨"lamps"⟩ = some (.directory shadeEntries) := rfl
  obtain ⟨-, hmem, hfilter⟩ :=
    ruleFiles_pruned shades wellNamed_shades .standard ⟨"lamps"⟩ shadeEntries hfound
  refine ⟨wellNamed_shades, hfound, ?_, fun q hq => ?_⟩
  · have hle : Path.le ⟨"lamps/lamp.eval.yaml"⟩ ⟨"lamps/lamp/shade.eval.yml"⟩ = false := by
      decide +kernel
    have hkept : (visitedIn .standard ⟨"lamps"⟩ shadeEntries).filter (isKept shades .standard) =
        [⟨"lamps/lamp.eval.yaml"⟩, ⟨"lamps/lamp/shade.eval.yml"⟩] := by decide +kernel
    rw [hfilter, hkept]
    simp [sort, List.mergeSort, hle]
  · obtain ⟨_, _, _, _, _, hselected⟩ := (hmem q).mp hq
    exact hselected

end Discovery
end CallCheck
