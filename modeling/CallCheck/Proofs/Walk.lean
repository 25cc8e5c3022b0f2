import CallCheck.Discovery
import CallCheck.Proofs.Disk

/-!
# Walks

A walk lists the rule files below a directory. Told from the directory on, as the names that lead
there, they are the files of the tree whose name is that of a rule file and that no excluded name
leads to (`Discovery.IsRulePlace`): the tree and the settings decide, wherever the tree stands. Only
the directory itself has to be reached without an excluded name: an excluded name on the way to it
hides the whole tree. `Discovery.ruleFiles_relocate` states both.
-/

namespace CallCheck

namespace Discovery

open File (Disk Tree)

variable {c : Config} {p : Path} {n : String} {es : List (String × Tree)}

/-! ### Places -/

def isRuleName (c : Config) (name : String) : Bool :=
  (namePatterns c.testPattern).any (·.accepts name)

mutual

/-- The places of rule files in an entry of a directory, which is not excluded: the names that lead
there, that of the entry first. -/
def placesAt (c : Config) (name : String) : Tree → List (List String)
  | .file _ => if isRuleName c name then [[name]] else []
  | .directory es => if c.recursive then (placesIn c es).map (name :: ·) else []

/-- The places of rule files in the entries of a directory. -/
def placesIn (c : Config) : List (String × Tree) → List (List String)
  | [] => []
  | (name, t) :: rest =>
    (if c.exclude.contains name then [] else placesAt c name t) ++ placesIn c rest

end

/-- Whether names lead to a rule file in a tree: to a file of the right name, and by no excluded
name. Without recursion only the entries of the directory count. -/
structure IsRulePlace (c : Config) (t : Tree) (names : List String) : Prop where
  file : ∃ bytes, t.find? names = some (.file bytes)
  named : names.getLast?.any (isRuleName c) = true
  clear : ∀ n ∈ names, n ∉ c.exclude
  reached : c.recursive = true ∨ names.length = 1

theorem placesIn_eq_flatMap (es : List (String × Tree)) : placesIn c es =
    es.flatMap fun e => if c.exclude.contains e.1 then [] else placesAt c e.1 e.2 := by
  induction es with
  | nil => rw [placesIn]; rfl
  | cons e es ih => rw [placesIn, ih, List.flatMap_cons]

theorem ruleFilesIn_eq_flatMap (es : List (String × Tree)) : ruleFilesIn c p es =
    es.flatMap fun e =>
      if isExcluded c (p.join ⟨e.1⟩) then [] else ruleFilesAt c (p.join ⟨e.1⟩) e.2 := by
  induction es with
  | nil => rw [ruleFilesIn]; rfl
  | cons e es ih => rw [ruleFilesIn, ih, List.flatMap_cons]

/-- A place lies in an entry that is not excluded. -/
theorem mem_placesIn {names : List String} : names ∈ placesIn c es ↔
    ∃ n t, (n, t) ∈ es ∧ n ∉ c.exclude ∧ names ∈ placesAt c n t := by
  rw [placesIn_eq_flatMap, List.mem_flatMap]
  constructor
  · rintro ⟨⟨n, t⟩, ht, hnames⟩
    split at hnames
    · cases hnames
    · next hout => exact ⟨n, t, ht, fun h => hout (List.contains_iff_mem.mpr h), hnames⟩
  · rintro ⟨n, t, ht, hout, hnames⟩
    refine ⟨(n, t), ht, ?_⟩
    rw [if_neg fun h => hout (List.contains_iff_mem.mp h)]
    exact hnames

/-- The places in an entry start with its name: a file is one itself, and a directory has those of
its entries if the walk is recursive. -/
theorem mem_placesAt {names : List String} {t : Tree} : names ∈ placesAt c n t ↔
    (∃ bytes, t = .file bytes ∧ names = [n] ∧ isRuleName c n = true) ∨
    (∃ es rest, t = .directory es ∧ names = n :: rest ∧ rest ∈ placesIn c es ∧
      c.recursive = true) := by
  cases t with
  | file bytes => rw [placesAt]; split <;> simp_all
  | directory es =>
      rw [placesAt]
      split
      · next hrecursive =>
          rw [List.mem_map]
          constructor
          · rintro ⟨rest, hrest, rfl⟩
            exact .inr ⟨es, rest, rfl, rfl, hrest, hrecursive⟩
          · rintro (⟨bytes, ht, -⟩ | ⟨es', rest, ht, rfl, hrest, -⟩)
            · cases ht
            · cases ht
              exact ⟨rest, hrest, rfl⟩
      · next hrecursive => simp [hrecursive]

/-- A rule place in a directory starts with the name of an entry that is not excluded: it ends there
if the entry is a file, and goes on to a rule place in it if it is a directory. -/
theorem isRulePlace_iff (hes : (Tree.directory es).WellNamed) {names : List String} :
    IsRulePlace c (.directory es) names ↔ ∃ n t, (n, t) ∈ es ∧ n ∉ c.exclude ∧
      ((∃ bytes, t = .file bytes ∧ names = [n] ∧ isRuleName c n = true) ∨
      (∃ es' rest, t = .directory es' ∧ names = n :: rest ∧ IsRulePlace c t rest ∧
        c.recursive = true)) := by
  constructor
  · rintro ⟨⟨bytes, hfile⟩, hnamed, hclear, hreached⟩
    cases names with
    | nil => cases hnamed
    | cons n rest =>
        obtain ⟨t, hchild, hbelow⟩ := Option.bind_eq_some_iff.mp hfile
        obtain ⟨hn, hrest⟩ := List.forall_mem_cons.mp hclear
        refine ⟨n, t, Tree.mem_of_child? hchild, hn, ?_⟩
        cases rest with
        | nil => exact .inl ⟨bytes, Option.some.inj hbelow, rfl, hnamed⟩
        | cons m rest =>
            have hrecursive : c.recursive = true := hreached.resolve_right (by simp)
            cases t with
            | file bytes' => cases hbelow
            | directory es' =>
                exact .inr ⟨es', m :: rest, rfl, rfl,
                  ⟨⟨bytes, hbelow⟩, by simpa using hnamed, hrest, .inl hrecursive⟩, hrecursive⟩
  · rintro ⟨n, t, ht, hn, ⟨bytes, rfl, rfl, hnamed⟩ | ⟨es', rest, rfl, rfl, hrest, hrecursive⟩⟩
    · have hchild := Tree.child?_of_mem hes.nodup ht
      exact ⟨⟨bytes, by rw [Tree.find?, hchild]; rfl⟩, hnamed, by simpa using hn, .inr rfl⟩
    · have hchild := Tree.child?_of_mem hes.nodup ht
      obtain ⟨⟨bytes, hfile⟩, hnamed, hclear, -⟩ := hrest
      refine ⟨⟨bytes, ?_⟩, ?_, List.forall_mem_cons.mpr ⟨hn, hclear⟩, .inl hrecursive⟩
      · rw [Tree.find?, hchild]
        exact hfile
      · cases rest with
        | nil => cases hnamed
        | cons m rest => simpa using hnamed

/-- The places of a directory are those of its rule files. -/
theorem mem_placesIn_iff_isRulePlace (hes : (Tree.directory es).WellNamed) (names : List String) :
    names ∈ placesIn c es ↔ IsRulePlace c (.directory es) names := by
  -- by the tree, a file having no entries
  have hall : ∀ t : Tree, t.WellNamed → ∀ es, t = .directory es → ∀ names,
      names ∈ placesIn c es ↔ IsRulePlace c (.directory es) names := by
    intro t ht
    induction ht with
    | file bytes => exact fun es h => nomatch h
    | @directory es hnodup hnames htrees ih =>
        rintro _ ⟨⟩ names
        rw [mem_placesIn, isRulePlace_iff (.directory hnodup hnames htrees)]
        refine exists_congr fun n => exists_congr fun t => and_congr_right fun hmem =>
          and_congr_right fun _ => ?_
        rw [mem_placesAt]
        refine or_congr_right (exists_congr fun es' => exists_congr fun rest =>
          and_congr_right fun ht => and_congr_right fun _ => and_congr_left fun _ => ?_)
        subst ht
        exact ih _ hmem es' rfl rest
  exact hall _ hes es rfl names

/-! ### Walks follow places -/

/-- A path leads through an excluded name if the way to the directory does, or the last name is
one. -/
theorem isExcluded_join (hn : Path.IsName n) (hp : p.text ≠ "") :
    isExcluded c (p.join ⟨n⟩) = (isExcluded c p || c.exclude.contains n) := by
  rw [isExcluded, isExcluded, Path.components_join hn hp, List.filterMap_append, List.any_append]
  exact congrArg _ (Bool.or_false _)

theorem isRuleFile_join (hn : Path.IsName n) (hp : p.text ≠ "") :
    isRuleFile c (p.join ⟨n⟩) = isRuleName c n := by
  rw [isRuleFile, Path.fileName?_join hn hp]
  rfl

/-- What a walk finds below a directory are the places in it, if this is so of each entry. -/
theorem ruleFilesIn_eq_of_entries (hp : p.text ≠ "") (hout : isExcluded c p = false)
    (hnames : ∀ e ∈ es, Path.IsName e.1)
    (hentries : ∀ e ∈ es, isExcluded c (p.join ⟨e.1⟩) = false →
      ruleFilesAt c (p.join ⟨e.1⟩) e.2 = (placesAt c e.1 e.2).map p.descend) :
    ruleFilesIn c p es = (placesIn c es).map p.descend := by
  rw [ruleFilesIn_eq_flatMap, placesIn_eq_flatMap, List.map_flatMap]
  refine List.flatMap_congr fun e he => ?_
  have hexcluded : isExcluded c (p.join ⟨e.1⟩) = c.exclude.contains e.1 := by
    rw [isExcluded_join (hnames e he) hp, hout, Bool.false_or]
  rw [hexcluded]
  split
  · rfl
  · next hcontains => exact hentries e he (hexcluded.trans (Bool.eq_false_iff.mpr hcontains))

/-- What a walk finds in an entry of a directory are the places in it. -/
theorem ruleFilesAt_eq {t : Tree} (ht : t.WellNamed) (hn : Path.IsName n) (hp : p.text ≠ "")
    (hout : isExcluded c (p.join ⟨n⟩) = false) :
    ruleFilesAt c (p.join ⟨n⟩) t = (placesAt c n t).map p.descend := by
  induction ht generalizing p n with
  | file bytes =>
      rw [ruleFilesAt, placesAt, isRuleFile_join hn hp]
      split
      · rfl
      · rfl
  | @directory es _ hnames _ ih =>
      have hjoin := Path.text_join_ne_empty hn hp
      have hbelow : ruleFilesIn c (p.join ⟨n⟩) es = (placesIn c es).map (p.join ⟨n⟩).descend :=
        ruleFilesIn_eq_of_entries hjoin hout hnames fun e he => ih e he (hnames e he) hjoin
      rw [ruleFilesAt, placesAt, hbelow]
      split
      · rw [List.map_map]
        rfl
      · rfl

/-- What a walk finds below a directory are the places in it. -/
theorem ruleFilesIn_eq (hes : (Tree.directory es).WellNamed) (hp : p.text ≠ "")
    (hout : isExcluded c p = false) :
    ruleFilesIn c p es = (placesIn c es).map p.descend :=
  ruleFilesIn_eq_of_entries hp hout hes.isName fun e he =>
    ruleFilesAt_eq (hes.entry e he) (hes.isName e he) hp

/-! ### Wherever the tree stands -/

/-- Places in the order of the paths that they lead to. -/
def sortPlaces (places : List (List String)) : List (List String) :=
  places.mergeSort fun names names' =>
    (Path.compareComponents (names.map .name) (names'.map .name)).isLE

/-- Paths below one directory are sorted by the names that lead to them. -/
theorem sort_map_descend (hp : p.text ≠ "") {places : List (List String)}
    (hplaces : ∀ names ∈ places, ∀ n ∈ names, Path.IsName n) :
    sort (places.map p.descend) = (sortPlaces places).map p.descend := by
  refine (List.map_mergeSort fun names hnames names' hnames' => ?_).symm
  rw [Path.le, Path.compare_descend hp (hplaces names hnames) (hplaces names' hnames')]

/-- What a walk finds is decided by the tree and the settings, if no excluded name leads to the
directory. -/
theorem ruleFiles_eq {d : Disk} (hes : (Tree.directory es).WellNamed)
    (hp : d.at? p = some (.directory es)) (hout : isExcluded c p = false) :
    ruleFiles d c p = (sortPlaces (placesIn c es)).map p.descend := by
  have htext : p.text ≠ "" := Disk.text_ne_empty_of_at? hp
  have hplaces : ∀ names ∈ placesIn c es, ∀ n ∈ names, Path.IsName n := by
    intro names hnames
    obtain ⟨bytes, hfile⟩ := ((mem_placesIn_iff_isRulePlace hes names).mp hnames).file
    exact (hes.find? hfile).1
  rw [ruleFiles, hout, hp, if_neg Bool.false_ne_true]
  show sort (ruleFilesIn c p es) = _
  rw [ruleFilesIn_eq hes htext hout, sort_map_descend htext hplaces]

/-- A walk finds what lies in a rule place of the tree. -/
theorem descend_mem_ruleFiles {d : Disk} (hes : (Tree.directory es).WellNamed)
    (hp : d.at? p = some (.directory es)) (hout : isExcluded c p = false) {names : List String}
    (h : IsRulePlace c (.directory es) names) : p.descend names ∈ ruleFiles d c p := by
  rw [ruleFiles_eq hes hp hout]
  refine List.mem_map_of_mem (List.mem_mergeSort.mpr ?_)
  exact (mem_placesIn_iff_isRulePlace hes names).mpr h

/-- What a walk finds lies in a rule place of the tree. -/
theorem exists_place_of_mem_ruleFiles {d : Disk} {q : Path} (hes : (Tree.directory es).WellNamed)
    (hp : d.at? p = some (.directory es)) (h : q ∈ ruleFiles d c p) :
    ∃ names, IsRulePlace c (.directory es) names ∧ q = p.descend names := by
  cases hout : isExcluded c p with
  | true => rw [ruleFiles, if_pos hout] at h; cases h
  | false =>
      rw [ruleFiles_eq hes hp hout] at h
      obtain ⟨names, hnames, rfl⟩ := List.mem_map.mp h
      exact ⟨names, (mem_placesIn_iff_isRulePlace hes names).mp (List.mem_mergeSort.mp hnames), rfl⟩

/-- A walk finds the same rule files in the same tree wherever it stands, told from the directory
on: all those whose name is that of a rule file and that no excluded name of the tree leads to. This
is so if no excluded name leads to the directory; if one does, the walk finds none of them. -/
theorem ruleFiles_relocate (c : Config) (es : List (String × Tree))
    (hes : (Tree.directory es).WellNamed) (d d' : Disk) (p q : Path)
    (hp : d.at? p = some (.directory es)) (hq : d'.at? q = some (.directory es)) :
    (isExcluded c p = false → isExcluded c q = false → ∃ places : List (List String),
      ruleFiles d c p = places.map p.descend ∧ ruleFiles d' c q = places.map q.descend ∧
      ∀ names, names ∈ places ↔ IsRulePlace c (.directory es) names) ∧
    (isExcluded c p = true → ruleFiles d c p = []) := by
  refine ⟨fun hout hout' => ⟨sortPlaces (placesIn c es), ruleFiles_eq hes hp hout,
    ruleFiles_eq hes hq hout', fun names => ?_⟩, fun hin => ?_⟩
  · rw [sortPlaces, List.mem_mergeSort, mem_placesIn_iff_isRulePlace hes]
  · rw [ruleFiles, if_pos hin]

/-- A rule file beside a directory of an excluded name. -/
def lampEntries : List (String × Tree) :=
  [("lamp.eval.yaml", .file .empty), ("target", .directory [("old.eval.yaml", .file .empty)])]

/-- The same tree in three places, at one of them in a directory of an excluded name. -/
def lampsThrice : Disk :=
  ⟨.directory [("p", .directory lampEntries), ("q", .directory [("r", .directory lampEntries)]),
    ("target", .directory [("p", .directory lampEntries)])], []⟩

theorem wellNamed_lampsThrice : lampsThrice.root.WellNamed := by
  have hnames : Path.IsName "lamp.eval.yaml" ∧ Path.IsName "target" ∧
      Path.IsName "old.eval.yaml" ∧ Path.IsName "p" ∧ Path.IsName "q" ∧ Path.IsName "r" := by
    decide +kernel
  simp [lampsThrice, lampEntries, Tree.wellNamed_directory_iff, Tree.WellNamed.file, hnames]

/-- In two places the walk finds the same file of a tree. -/
theorem ruleFiles_relocate_lamps :
    isExcluded .standard ⟨"p"⟩ = false ∧ isExcluded .standard ⟨"q/r"⟩ = false ∧
    ∃ places : List (List String),
      ruleFiles lampsThrice .standard ⟨"p"⟩ = places.map (Path.descend ⟨"p"⟩) ∧
      ruleFiles lampsThrice .standard ⟨"q/r"⟩ = places.map (Path.descend ⟨"q/r"⟩) ∧
      ["lamp.eval.yaml"] ∈ places ∧ ["target", "old.eval.yaml"] ∉ places := by
  have hfound : lampsThrice.at? ⟨"p"⟩ = some (.directory lampEntries) := rfl
  have hout : isExcluded .standard ⟨"p"⟩ = false := by decide +kernel
  have hout' : isExcluded .standard ⟨"q/r"⟩ = false := by decide +kernel
  obtain ⟨places, hp, hq, hplaces⟩ := (ruleFiles_relocate .standard lampEntries
    (Disk.wellNamed_of_at? wellNamed_lampsThrice hfound) lampsThrice lampsThrice ⟨"p"⟩ ⟨"q/r"⟩ hfound rfl).1 hout hout'
  refine ⟨hout, hout', places, hp, hq, (hplaces _).mpr ?_, fun h => ?_⟩
  · exact ⟨⟨_, rfl⟩, by decide +kernel, by decide +kernel, .inl rfl⟩
  · exact ((hplaces _).mp h).clear "target" List.mem_cons_self (by decide +kernel)

/-- A directory of an excluded name around the tree hides it from the walk, although no name in the
tree is excluded on the way to the file. -/
theorem ruleFiles_hidden_by_ancestor :
    lampsThrice.at? ⟨"p"⟩ = some (.directory lampEntries) ∧
    lampsThrice.at? ⟨"target/p"⟩ = some (.directory lampEntries) ∧
    ruleFiles lampsThrice .standard ⟨"p"⟩ = [⟨"p/lamp.eval.yaml"⟩] ∧
    ruleFiles lampsThrice .standard ⟨"target/p"⟩ = [] := by
  exact ⟨rfl, rfl, by decide +kernel, by decide +kernel⟩

end Discovery
end CallCheck
