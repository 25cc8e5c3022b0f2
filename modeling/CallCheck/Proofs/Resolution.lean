import CallCheck.Proofs.Walk

/-!
# The files that arguments name

An argument names a file as it is written, the rule files below a directory or the files that a glob
names: in each case paths of files (`Discovery.isFile_of_mem_filesOf`). Together they are sorted and
a path that has the components of the one before is dropped, so that each list of components is left
once, in strictly increasing order (`Discovery.pairwise_dropRepeated`). One file may be left under
several paths, but only if these are not spelled alike. `Discovery.suites_once` states what this
means for suites.
-/

namespace CallCheck
namespace Discovery

open File (Disk Tree)

variable {d : Disk} {c : Config} {p : Path}

/-! ### Computations that give a result -/

section Results

variable {α β ε : Type}

/-- What follows a computation gives a result if the computation does and it does with its value. -/
theorem bind_eq_ok_iff {act : Except ε α} {f : α → Except ε β} {b : β} :
    (act >>= f) = .ok b ↔ ∃ a, act = .ok a ∧ f a = .ok b := by
  cases act with
  | error fault => exact ⟨fun h => (nomatch h), fun ⟨_, h, _⟩ => (nomatch h)⟩
  | ok a =>
      constructor
      · exact fun h => ⟨a, rfl, h⟩
      · rintro ⟨_, ⟨⟩, h⟩
        exact h

variable {f : α → Except ε β}

theorem mapM_cons_eq_ok_iff {a : α} {as : List α} {bs : List β} : (a :: as).mapM f = .ok bs ↔
    ∃ b, f a = .ok b ∧ ∃ rest, as.mapM f = .ok rest ∧ b :: rest = bs := by
  rw [List.mapM_cons, bind_eq_ok_iff]
  refine exists_congr fun b => and_congr_right fun _ => ?_
  rw [bind_eq_ok_iff]
  exact exists_congr fun rest => and_congr_right fun _ => Iff.of_eq (Except.ok.injEq _ _)

/-- A list is mapped if each of its elements is. -/
theorem exists_mapM_eq_ok_iff {as : List α} :
    (∃ bs, as.mapM f = .ok bs) ↔ ∀ a ∈ as, ∃ b, f a = .ok b := by
  induction as with
  | nil => exact iff_of_true ⟨[], rfl⟩ (List.forall_mem_nil _)
  | cons a as ih =>
      rw [List.forall_mem_cons, ← ih]
      simp only [mapM_cons_eq_ok_iff]
      constructor
      · rintro ⟨_, b, hb, rest, hrest, -⟩
        exact ⟨⟨b, hb⟩, rest, hrest⟩
      · rintro ⟨⟨b, hb⟩, rest, hrest⟩
        exact ⟨_, b, hb, rest, hrest, rfl⟩

/-- What a list is mapped to comes from its elements. -/
theorem mem_iff_of_mapM_eq_ok {as : List α} {bs : List β} (h : as.mapM f = .ok bs) (b : β) :
    b ∈ bs ↔ ∃ a ∈ as, f a = .ok b := by
  induction as generalizing bs with
  | nil =>
      obtain rfl := Except.ok.inj h
      simp
  | cons a as ih =>
      obtain ⟨first, hfirst, rest, hrest, rfl⟩ := mapM_cons_eq_ok_iff.mp h
      rw [List.mem_cons, ih hrest, List.exists_mem_cons_iff, hfirst, Except.ok.injEq, eq_comm]

end Results

/-! ### Sorting and dropping -/

theorem mem_sort {ps : List Path} : p ∈ sort ps ↔ p ∈ ps := List.mem_mergeSort

theorem pairwise_sort (ps : List Path) : (sort ps).Pairwise fun p q => p.le q = true :=
  List.pairwise_mergeSort Path.le_trans Path.le_total ps

theorem mem_of_mem_dropRepeated {ps : List Path} (h : p ∈ dropRepeated ps) : p ∈ ps := by
  fun_induction dropRepeated ps with
  | case1 q r rest hsame ih =>
      rcases List.mem_cons.mp (ih h) with rfl | hrest
      · exact List.mem_cons_self
      · exact List.mem_cons_of_mem _ (List.mem_cons_of_mem _ hrest)
  | case2 q r rest hsame ih =>
      rcases List.mem_cons.mp h with rfl | hrest
      · exact List.mem_cons_self
      · exact List.mem_cons_of_mem _ (ih hrest)
  | case3 => exact h

/-- A path is dropped only if one of the same components is left. -/
theorem exists_same_mem_dropRepeated {ps : List Path} (h : p ∈ ps) :
    ∃ q ∈ dropRepeated ps, q.same p = true := by
  fun_induction dropRepeated ps generalizing p with
  | case1 q r rest hsame ih =>
      rcases List.mem_cons.mp h with rfl | h
      · exact ih List.mem_cons_self
      · rcases List.mem_cons.mp h with rfl | hrest
        · -- what is left for `q` stands for `p`, too
          obtain ⟨left, hleft, hq⟩ := ih List.mem_cons_self
          rw [Path.same_iff] at hq hsame
          exact ⟨left, hleft, Path.same_iff.mpr (hq.trans hsame)⟩
        · exact ih (List.mem_cons_of_mem _ hrest)
  | case2 q r rest hsame ih =>
      rcases List.mem_cons.mp h with rfl | hrest
      · exact ⟨p, List.mem_cons_self, Path.same_iff.mpr rfl⟩
      · obtain ⟨left, hleft, hp⟩ := ih hrest
        exact ⟨left, List.mem_cons_of_mem _ hleft, hp⟩
  | case3 => exact ⟨p, h, Path.same_iff.mpr rfl⟩

/-- What is left of sorted paths is in strictly increasing order. -/
theorem pairwise_dropRepeated {ps : List Path} (h : ps.Pairwise fun p q => p.le q = true) :
    (dropRepeated ps).Pairwise fun p q => p.compare q = .lt := by
  fun_induction dropRepeated ps with
  | case1 q r rest hsame ih =>
      obtain ⟨hq, hrest⟩ := List.pairwise_cons.mp h
      exact ih (.cons (fun s hs => hq s (List.mem_cons_of_mem _ hs)) hrest.of_cons)
  | case2 q r rest hsame ih =>
      obtain ⟨hq, hrest⟩ := List.pairwise_cons.mp h
      have hlt : q.compare r = .lt :=
        Path.compare_eq_lt_of_le (hq r List.mem_cons_self) (Bool.eq_false_iff.mpr hsame)
      refine .cons (fun s hs => ?_) (ih hrest)
      rcases List.mem_cons.mp (mem_of_mem_dropRepeated hs) with rfl | hs
      · exact hlt
      · exact Path.compare_lt_of_lt_of_le hlt ((List.pairwise_cons.mp hrest).1 s hs)
  | case3 ps hshort =>
      match ps, hshort with
      | [], _ => exact .nil
      | [q], _ => exact List.pairwise_singleton _ q
      | q :: r :: rest, hshort => exact absurd rfl (hshort q r rest)

/-! ### Arguments name files -/

theorem exists_directory_of_isDirectory (h : d.isDirectory p = true) :
    ∃ es, d.at? p = some (.directory es) := by
  rw [Disk.isDirectory] at h
  cases hp : d.at? p with
  | none => rw [hp] at h; cases h
  | some t =>
      cases t with
      | file bytes => rw [hp] at h; cases h
      | directory es => exact ⟨es, rfl⟩

/-- A walk finds files. -/
theorem isFile_of_mem_ruleFiles (hroot : d.root.WellNamed) {directory : Path}
    (hdirectory : d.isDirectory directory = true) (h : p ∈ ruleFiles d c directory) :
    d.isFile p = true := by
  obtain ⟨es, hes⟩ := exists_directory_of_isDirectory hdirectory
  have hwell := Disk.wellNamed_of_at? hroot hes
  obtain ⟨names, hnames, rfl⟩ := exists_place_of_mem_ruleFiles hwell hes h
  obtain ⟨bytes, hfile⟩ := hnames.file
  rw [Disk.isFile, Disk.at?_descend hwell hes hfile]
  rfl

theorem filesOf_of_isFile {argument : String} (h : d.isFile ⟨argument⟩ = true) :
    filesOf d c argument = .ok [⟨argument⟩] := if_pos h

theorem filesOf_of_isDirectory {argument : String} (h : d.isDirectory ⟨argument⟩ = true) :
    filesOf d c argument = .ok (ruleFiles d c ⟨argument⟩) := by
  obtain ⟨es, hes⟩ := exists_directory_of_isDirectory h
  rw [filesOf, Disk.isFile, Disk.isDirectory, hes]
  rfl

/-- What an argument names are files. -/
theorem isFile_of_mem_filesOf (hroot : d.root.WellNamed) {argument : String} {found : List Path}
    (hfound : filesOf d c argument = .ok found) (h : p ∈ found) : d.isFile p = true := by
  rw [filesOf] at hfound
  split at hfound
  · next hfile =>
      obtain rfl := Except.ok.inj hfound
      obtain rfl := List.mem_singleton.mp h
      exact hfile
  · split at hfound
    · next hdirectory =>
        obtain rfl := Except.ok.inj hfound
        exact isFile_of_mem_ruleFiles hroot hdirectory h
    · obtain ⟨paths, -, hfound⟩ := bind_eq_ok_iff.mp hfound
      obtain rfl := Except.ok.inj hfound
      exact (Bool.and_eq_true_iff.mp (List.mem_filter.mp h).2).1

/-- What an argument for a file or a directory names lies there or below. -/
theorem exists_descend_of_mem_filesOf (hroot : d.root.WellNamed) {argument : String}
    (hargument : d.contains ⟨argument⟩ = true) {found : List Path}
    (hfound : filesOf d c argument = .ok found) (h : p ∈ found) :
    ∃ names, (∀ n ∈ names, Path.IsName n) ∧ p = Path.descend ⟨argument⟩ names := by
  obtain ⟨t, ht⟩ := Option.isSome_iff_exists.mp hargument
  rw [filesOf, Disk.isFile, Disk.isDirectory, ht] at hfound
  cases t with
  | file bytes =>
      obtain rfl := Except.ok.inj hfound
      obtain rfl := List.mem_singleton.mp h
      exact ⟨[], List.forall_mem_nil _, rfl⟩
  | directory es =>
      obtain rfl := Except.ok.inj hfound
      have hwell := Disk.wellNamed_of_at? hroot ht
      obtain ⟨names, hnames, rfl⟩ := exists_place_of_mem_ruleFiles hwell ht h
      obtain ⟨bytes, hfile⟩ := hnames.file
      exact ⟨names, (hwell.find? hfile).1, rfl⟩

/-- Arguments are resolved if each is, to what is left of all that they name. -/
theorem resolve_eq_ok_iff {arguments : List String} {files : List Path} :
    resolve d c arguments = .ok files ↔ ∃ found, arguments.mapM (filesOf d c) = .ok found ∧
      dropRepeated (sort found.flatten) = files := by
  rw [resolve, bind_eq_ok_iff]
  exact exists_congr fun found => and_congr_right fun _ => Iff.of_eq (Except.ok.injEq _ _)

/-! ### Suites -/

/-- The rule files of a run: those that arguments name, or those below the root if there are none. -/
def suiteFiles (d : Disk) (c : Config) (arguments : List String) (root : Path) :
    Except Glob.Fault (List Path) :=
  if !arguments.isEmpty then resolve d c arguments
  else .ok (if d.isDirectory root then ruleFiles d c root else [])

/-- The suites of a run are the registered ones and one for each rule file, those that the filter
accepts. -/
theorem suites?_eq_ok_iff {r : Registry} {arguments : List String} {root : Path}
    {filter : Option String} {found : List Suite} :
    suites? d r arguments root c filter = .ok found ↔ ∃ pattern,
      filter.mapM Glob.Pattern.ofText = .ok pattern ∧ ∃ files,
      suiteFiles d c arguments root = .ok files ∧
      ((registeredSuites r ++ files.map fileSuite).filter fun s =>
        pattern.all (·.accepts s.name)) = found := by
  rw [suites?, bind_eq_ok_iff]
  refine exists_congr fun pattern => and_congr_right fun _ => ?_
  have hbind : ∀ f : List Path → Except Glob.Fault (List Suite),
      (if !arguments.isEmpty then do f (← resolve d c arguments)
        else do f (← pure (if d.isDirectory root then ruleFiles d c root else []))) =
      suiteFiles d c arguments root >>= f := by
    intro f
    rw [suiteFiles]
    split
    · rfl
    · rfl
  rw [hbind, bind_eq_ok_iff]
  exact exists_congr fun files => and_congr_right fun _ => Iff.of_eq (Except.ok.injEq _ _)

/-- Without a filter all suites are selected. -/
theorem suites?_none_eq_ok_iff {r : Registry} {arguments : List String} {root : Path}
    {all : List Suite} : suites? d r arguments root c none = .ok all ↔
    ∃ files, suiteFiles d c arguments root = .ok files ∧
      registeredSuites r ++ files.map fileSuite = all := by
  have hkeep : ∀ suites : List Suite,
      suites.filter (fun s => (none : Option Glob.Pattern).all (·.accepts s.name)) = suites :=
    fun suites => List.filter_eq_self.mpr fun _ _ => rfl
  rw [suites?_eq_ok_iff]
  constructor
  · rintro ⟨_, ⟨⟩, files, hfiles, hall⟩
    exact ⟨files, hfiles, (hkeep _).symm.trans hall⟩
  · rintro ⟨files, hfiles, hall⟩
    exact ⟨none, rfl, files, hfiles, (hkeep _).trans hall⟩

/-- Rule files are in the order of their paths. -/
theorem pairwise_suiteFiles {arguments : List String} {root : Path} {files : List Path}
    (h : suiteFiles d c arguments root = .ok files) : files.Pairwise fun p q => p.le q = true := by
  rw [suiteFiles] at h
  split at h
  · obtain ⟨found, -, rfl⟩ := resolve_eq_ok_iff.mp h
    refine (pairwise_dropRepeated (pairwise_sort found.flatten)).imp fun hlt => ?_
    rw [Path.le, hlt]
    rfl
  · obtain rfl := Except.ok.inj h
    split
    · rw [ruleFiles]
      split
      · exact .nil
      · exact pairwise_sort _
    · exact .nil

/-- The paths of the files that arguments name, each file once unless it is spelled differently: the
paths are in strictly increasing order, and no two that are spelled alike refer to the same file; so
no two at all do if the arguments are for files and directories and spelled alike. They are among
those that arguments name, and every file that an argument names is the file of a path: a file that
is given itself, and the rule files of a directory that no excluded name leads to. -/
structure IsResolution (d : Disk) (c : Config) (arguments : List String) (files : List Path) :
    Prop where
  ascending : files.Pairwise fun p q => p.compare q = .lt
  once : files.Pairwise fun p q => p.SpelledAlike q → ¬ d.SameFile p q
  once_of_alike : (∀ a ∈ arguments, d.contains ⟨a⟩ = true) →
    (∀ a ∈ arguments, ∀ b ∈ arguments, Path.SpelledAlike ⟨a⟩ ⟨b⟩) →
    files.Pairwise fun p q => ¬ d.SameFile p q
  isFile : ∀ p ∈ files, d.isFile p = true
  named : ∀ p ∈ files, ∃ a ∈ arguments, ∃ found, filesOf d c a = .ok found ∧ p ∈ found
  complete : ∀ a ∈ arguments, ∀ found, filesOf d c a = .ok found →
    ∀ p ∈ found, ∃ q ∈ files, q.same p = true ∧ d.SameFile q p
  verbatim : ∀ a ∈ arguments, d.isFile ⟨a⟩ = true → ∃ q ∈ files, q.same ⟨a⟩ = true ∧ d.SameFile q ⟨a⟩
  below : ∀ a ∈ arguments, ∀ es, d.at? ⟨a⟩ = some (.directory es) → isExcluded c ⟨a⟩ = false →
    ∀ names, IsRulePlace c (.directory es) names →
    ∃ q ∈ files, d.SameFile q (Path.descend ⟨a⟩ names)

section Left

variable {arguments : List String} {found : List (List Path)}

/-- What is left is named by an argument. -/
theorem exists_named_of_mem_left (hfound : arguments.mapM (filesOf d c) = .ok found)
    (hp : p ∈ dropRepeated (sort found.flatten)) :
    ∃ a ∈ arguments, ∃ fs, filesOf d c a = .ok fs ∧ p ∈ fs := by
  obtain ⟨fs, hfs, hp⟩ := List.mem_flatten.mp (mem_sort.mp (mem_of_mem_dropRepeated hp))
  obtain ⟨a, ha, hfilesOf⟩ := (mem_iff_of_mapM_eq_ok hfound fs).mp hfs
  exact ⟨a, ha, fs, hfilesOf, hp⟩

theorem isFile_of_mem_left (hroot : d.root.WellNamed)
    (hfound : arguments.mapM (filesOf d c) = .ok found)
    (hp : p ∈ dropRepeated (sort found.flatten)) : d.isFile p = true := by
  obtain ⟨a, -, fs, hfs, hmem⟩ := exists_named_of_mem_left hfound hp
  exact isFile_of_mem_filesOf hroot hfs hmem

/-- Of what an argument names there is a path left that refers to the same file. -/
theorem exists_left_of_mem_filesOf (hroot : d.root.WellNamed)
    (hfound : arguments.mapM (filesOf d c) = .ok found) {a : String} (ha : a ∈ arguments)
    {fs : List Path} (hfs : filesOf d c a = .ok fs) (hp : p ∈ fs) :
    ∃ q ∈ dropRepeated (sort found.flatten), q.same p = true ∧ d.SameFile q p := by
  have hmem : p ∈ sort found.flatten := mem_sort.mpr
    (List.mem_flatten.mpr ⟨fs, (mem_iff_of_mapM_eq_ok hfound fs).mpr ⟨a, ha, hfs⟩, hp⟩)
  obtain ⟨q, hq, hsame⟩ := exists_same_mem_dropRepeated hmem
  exact ⟨q, hq, hsame, Disk.sameFile_of_same hsame
    (Disk.leads_of_isFile (isFile_of_mem_left hroot hfound hq))
    (Disk.leads_of_isFile (isFile_of_mem_filesOf hroot hfs hp))⟩

/-- Paths in strictly increasing order do not refer to the same file if they are spelled alike. -/
theorem not_sameFile_of_lt {q : Path} (hlt : p.compare q = .lt) (halike : p.SpelledAlike q) :
    ¬ d.SameFile p q := by
  intro hsame
  have heq := Path.compare_eq_eq_iff.mpr (Path.same_iff.mp (Disk.same_of_sameFile halike hsame))
  rw [hlt] at heq
  cases heq

/-- What arguments for files and directories name is spelled alike if they are. -/
theorem spelledAlike_of_mem_filesOf (hroot : d.root.WellNamed) {a b : String}
    (ha : d.contains ⟨a⟩ = true) (hb : d.contains ⟨b⟩ = true)
    (halike : Path.SpelledAlike ⟨a⟩ ⟨b⟩) {fs fs' : List Path} (hfs : filesOf d c a = .ok fs)
    (hfs' : filesOf d c b = .ok fs') {q : Path} (hp : p ∈ fs) (hq : q ∈ fs') :
    p.SpelledAlike q := by
  obtain ⟨names, hnames, rfl⟩ := exists_descend_of_mem_filesOf hroot ha hfs hp
  obtain ⟨names', hnames', rfl⟩ := exists_descend_of_mem_filesOf hroot hb hfs' hq
  exact halike.descend (Disk.text_ne_empty_of_contains ha) (Disk.text_ne_empty_of_contains hb)
    hnames hnames'

/-- What is left of all that arguments name, in order. -/
theorem isResolution_dropRepeated_sort (hroot : d.root.WellNamed)
    (hfound : arguments.mapM (filesOf d c) = .ok found) :
    IsResolution d c arguments (dropRepeated (sort found.flatten)) := by
  have hascending := pairwise_dropRepeated (pairwise_sort found.flatten)
  refine ⟨hascending, hascending.imp not_sameFile_of_lt, fun hcontains halike => ?alike,
    fun p => isFile_of_mem_left hroot hfound, fun p => exists_named_of_mem_left hfound,
    fun a ha fs hfs p => exists_left_of_mem_filesOf hroot hfound ha hfs,
    fun a ha hfile => ?verbatim, fun a ha es hes hout names hnames => ?below⟩
  case alike =>
    refine hascending.imp_of_mem fun hp hq hlt => not_sameFile_of_lt hlt ?_
    obtain ⟨a, ha, fs, hfs, hp⟩ := exists_named_of_mem_left hfound hp
    obtain ⟨b, hb, fs', hfs', hq⟩ := exists_named_of_mem_left hfound hq
    exact spelledAlike_of_mem_filesOf hroot (hcontains a ha) (hcontains b hb) (halike a ha b hb)
      hfs hfs' hp hq
  case verbatim =>
    exact exists_left_of_mem_filesOf hroot hfound ha (filesOf_of_isFile hfile) List.mem_cons_self
  case below =>
    have hdirectory : d.isDirectory ⟨a⟩ = true := by
      rw [Disk.isDirectory, hes]
      rfl
    have hmem := descend_mem_ruleFiles (Disk.wellNamed_of_at? hroot hes) hes hout hnames
    obtain ⟨q, hq, -, hsame⟩ := exists_left_of_mem_filesOf hroot hfound ha
      (filesOf_of_isDirectory hdirectory) hmem
    exact ⟨q, hq, hsame⟩

end Left

/-- **No file has two suites, unless under paths that are spelled differently.** There are suites if
every argument can be resolved. They are the registered ones and one for each of the files that the
arguments name. -/
theorem suites_once (d : Disk) (hroot : d.root.WellNamed) (c : Config) (r : Registry) (root : Path)
    (arguments : List String) (harguments : arguments ≠ []) :
    ((∃ all, suites? d r arguments root c none = .ok all) ↔
      ∀ a ∈ arguments, ∃ found, filesOf d c a = .ok found) ∧
    ∀ all, suites? d r arguments root c none = .ok all → ∃ files : List Path,
      all = registeredSuites r ++ files.map fileSuite ∧ IsResolution d c arguments files := by
  have hsuites : ∀ all, suites? d r arguments root c none = .ok all ↔ ∃ found,
      arguments.mapM (filesOf d c) = .ok found ∧
      registeredSuites r ++ (dropRepeated (sort found.flatten)).map fileSuite = all := by
    intro all
    have hfiles : suiteFiles d c arguments root = resolve d c arguments :=
      if_pos (by simp [harguments])
    rw [suites?_none_eq_ok_iff, hfiles]
    constructor
    · rintro ⟨files, hresolve, rfl⟩
      obtain ⟨found, hfound, rfl⟩ := resolve_eq_ok_iff.mp hresolve
      exact ⟨found, hfound, rfl⟩
    · rintro ⟨found, hfound, rfl⟩
      exact ⟨_, resolve_eq_ok_iff.mpr ⟨found, hfound, rfl⟩, rfl⟩
  constructor
  · rw [← exists_mapM_eq_ok_iff]
    constructor
    · rintro ⟨all, hall⟩
      obtain ⟨found, hfound, -⟩ := (hsuites all).mp hall
      exact ⟨found, hfound⟩
    · rintro ⟨found, hfound⟩
      exact ⟨_, (hsuites _).mpr ⟨found, hfound, rfl⟩⟩
  · intro all hall
    obtain ⟨found, hfound, rfl⟩ := (hsuites all).mp hall
    exact ⟨_, rfl, isResolution_dropRepeated_sort hroot hfound⟩

/-- A directory and a file in it, which has one suite. -/
theorem suites_once_lamps :
    let arguments := ["p/lamp.eval.yaml", "p"]
    arguments ≠ [] ∧ lampsThrice.root.WellNamed ∧ ∃ files : List Path,
      suites? lampsThrice .empty arguments ⟨"."⟩ .standard none = .ok (files.map fileSuite) ∧
      IsResolution lampsThrice .standard arguments files ∧
      (files.Pairwise fun p q => ¬ lampsThrice.SameFile p q) ∧
      ∃ p ∈ files, lampsThrice.SameFile p ⟨"p/lamp.eval.yaml"⟩ := by
  intro arguments
  have hne : arguments ≠ [] := List.cons_ne_nil _ _
  have hfile : lampsThrice.isFile ⟨"p/lamp.eval.yaml"⟩ = true := by decide +kernel
  have hdirectory : lampsThrice.isDirectory ⟨"p"⟩ = true := by decide +kernel
  have hcontains : ∀ a ∈ arguments, lampsThrice.contains ⟨a⟩ = true := by decide +kernel
  have hnames : ∀ a ∈ arguments, ∃ names : List String,
      (⟨a⟩ : Path).components = names.map .name := by
    simp only [arguments, List.forall_mem_cons]
    exact ⟨⟨["p", "lamp.eval.yaml"], by decide +kernel⟩, ⟨["p"], by decide +kernel⟩,
      fun a ha => (nomatch ha)⟩
  obtain ⟨hresolved, hsuites⟩ := suites_once lampsThrice wellNamed_lampsThrice .standard .empty
    ⟨"."⟩ arguments hne
  obtain ⟨all, hall⟩ := hresolved.mpr (by
    simp only [arguments, List.forall_mem_cons]
    exact ⟨⟨_, filesOf_of_isFile hfile⟩, ⟨_, filesOf_of_isDirectory hdirectory⟩,
      fun a ha => (nomatch ha)⟩)
  obtain ⟨files, rfl, hfiles⟩ := hsuites all hall
  refine ⟨hne, wellNamed_lampsThrice, files, hall, hfiles, ?once, ?complete⟩
  case once =>
    refine hfiles.once_of_alike hcontains fun a ha b hb => ?_
    obtain ⟨names, ha⟩ := hnames a ha
    obtain ⟨names', hb⟩ := hnames b hb
    exact ⟨[], names, names', ha, hb⟩
  case complete =>
    obtain ⟨p, hp, -, hsame⟩ := hfiles.verbatim _ List.mem_cons_self hfile
    exact ⟨p, hp, hsame⟩

/-- A file has two suites if it is spelled in two ways, once with a dot before its name. -/
theorem suites_twice_by_spelling :
    suites? lampsThrice .empty ["p/lamp.eval.yaml", "./p/lamp.eval.yaml"] ⟨"."⟩ .standard none =
      .ok [fileSuite ⟨"./p/lamp.eval.yaml"⟩, fileSuite ⟨"p/lamp.eval.yaml"⟩] ∧
    lampsThrice.SameFile ⟨"./p/lamp.eval.yaml"⟩ ⟨"p/lamp.eval.yaml"⟩ := by
  constructor
  · have hle : Path.le ⟨"p/lamp.eval.yaml"⟩ ⟨"./p/lamp.eval.yaml"⟩ = false := by decide +kernel
    have hother : Path.same ⟨"./p/lamp.eval.yaml"⟩ ⟨"p/lamp.eval.yaml"⟩ = false := by
      decide +kernel
    have hleft : dropRepeated (sort [⟨"p/lamp.eval.yaml"⟩, ⟨"./p/lamp.eval.yaml"⟩]) =
        [⟨"./p/lamp.eval.yaml"⟩, ⟨"p/lamp.eval.yaml"⟩] := by
      simp [sort, List.mergeSort, hle, dropRepeated, hother]
    exact suites?_none_eq_ok_iff.mpr ⟨_, resolve_eq_ok_iff.mpr ⟨_, rfl, hleft⟩, rfl⟩
  · exact ⟨["p", "lamp.eval.yaml"], rfl, rfl⟩

end Discovery
end CallCheck
