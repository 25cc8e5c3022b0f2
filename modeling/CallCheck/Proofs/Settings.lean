import CallCheck.Proofs.Disk
import CallCheck.Proofs.Execution
import CallCheck.Proofs.Layers

/-!
# Where settings come from

What is in force in an execution comes in layers: what the command line says, below it what a
configuration file says, and below that the standard. The file is the one that is asked for by name,
or else the nearest at or above the directory where the base leads (`Config.IsNearest`); a nearest
file that gives no layer is as good as none (`Config.InUse`). Each setting is taken from the highest
layer that has it (`Config.Layered`), and each setting of a file from its own key
(`Config.saidIn_of_layerOfText`).

The directory to search is another matter (`CommandLine.settings_layered`). Once the layers are laid
over each other, nothing tells where the root is from, and if a file is in use, it is looked for
below the directory of the file, even when it is from the command line
(`CommandLine.root_searched_below_file`).
-/

namespace CallCheck

namespace Config

open File (Disk)

variable {d : Disk} {base : Path}

/-! ### The nearest configuration file -/

def fileIn (names : List String) : Path := (Path.ofNames names).join ⟨fileName⟩

/-- Whether names lead to the nearest directory with a configuration file, at the directory that
`start` leads to or above it. -/
structure IsNearest (d : Disk) (start names : List String) : Prop where
  above : names <+: start
  contains : d.contains (fileIn names) = true
  nearest : ∀ other, other <+: start → d.contains (fileIn other) = true → other <+: names

theorem isNearest_iff_eq {start names : List String} (h : d.contains (fileIn start) = true) :
    IsNearest d start names ↔ names = start := by
  constructor
  · intro hnearest
    have hbelow := hnearest.nearest start (List.prefix_refl start) h
    exact hnearest.above.eq_of_length_le hbelow.length_le
  · rintro rfl
    exact ⟨List.prefix_refl _, h, fun other hother _ => hother⟩

/-- A directory without a configuration file is passed by. -/
theorem isNearest_concat_iff {start names : List String} {name : String}
    (h : ¬ d.contains (fileIn (start ++ [name])) = true) :
    IsNearest d (start ++ [name]) names ↔ IsNearest d start names := by
  have habove : ∀ {other}, other <+: start ++ [name] → d.contains (fileIn other) = true →
      other <+: start := by
    intro other hother hcontains
    rcases List.prefix_concat_iff.mp hother with rfl | hother
    · exact absurd hcontains h
    · exact hother
  constructor
  · intro hnearest
    refine ⟨habove hnearest.above hnearest.contains, hnearest.contains, ?_⟩
    exact fun other hother => hnearest.nearest other (hother.trans (List.prefix_append _ _))
  · intro hnearest
    refine ⟨hnearest.above.trans (List.prefix_append _ _), hnearest.contains, ?_⟩
    exact fun other hother hcontains =>
      hnearest.nearest other (habove hother hcontains) hcontains

theorem IsNearest.unique {start names names' : List String} (h : IsNearest d start names)
    (h' : IsNearest d start names') : names = names' :=
  (h'.nearest names h.above h.contains).eq_of_length_le
    (h.nearest names' h'.above h'.contains).length_le

/-- The way up from a directory ends at the first configuration file. -/
theorem nearest?_eq_some_iff {up : List String} {path : Path} :
    nearest? d up = some path ↔ ∃ names, IsNearest d up.reverse names ∧ path = fileIn names := by
  have hhere : ∀ names, nearest?.here d names =
      if d.contains (fileIn names.reverse) then some (fileIn names.reverse) else none :=
    fun _ => rfl
  induction up with
  | nil =>
      rw [nearest?, hhere]
      by_cases hcontains : d.contains (fileIn [].reverse) = true
      · rw [if_pos hcontains]
        simp only [isNearest_iff_eq hcontains, exists_eq_left, Option.some.injEq, eq_comm]
      · rw [if_neg hcontains]
        refine iff_of_false nofun ?_
        rintro ⟨names, hnearest, -⟩
        rw [List.prefix_nil.mp hnearest.above] at hnearest
        exact hcontains hnearest.contains
  | cons name above ih =>
      rw [nearest?, hhere, List.reverse_cons]
      by_cases hcontains : d.contains (fileIn (above.reverse ++ [name])) = true
      · rw [if_pos hcontains, Option.some_or]
        simp only [isNearest_iff_eq hcontains, exists_eq_left, Option.some.injEq, eq_comm]
      · rw [if_neg hcontains, Option.none_or]
        refine ih.trans ?_
        exact exists_congr fun names => and_congr_left' (isNearest_concat_iff hcontains).symm

theorem find?_eq_some_iff {path : Path} : find? d base = some path ↔
    ∃ start names, d.locate base = .ok start ∧ IsNearest d start names ∧ path = fileIn names := by
  rw [find?]
  cases d.locate base with
  | error fault => exact iff_of_false nofun fun ⟨_, _, h, _⟩ => nomatch h
  | ok start =>
      show nearest? d start.reverse = some path ↔ _
      rw [nearest?_eq_some_iff, List.reverse_reverse]
      constructor
      · rintro ⟨names, hnearest, hpath⟩
        exact ⟨start, names, rfl, hnearest, hpath⟩
      · rintro ⟨_, names, ⟨⟩, hnearest, hpath⟩
        exact ⟨names, hnearest, hpath⟩

theorem isName_fileName : Path.IsName fileName := by decide +kernel

/-- The directory of a configuration file that is found is where it was found. -/
theorem parent?_fileIn (hroot : d.root.WellNamed) {start names : List String}
    (hstart : d.locate base = .ok start) (h : IsNearest d start names) :
    (fileIn names).parent? = some (.ofNames names) := by
  have hnames : ∀ n ∈ names, Path.IsName n :=
    fun n hn => Disk.isName_of_locate hroot hstart n (h.above.subset hn)
  rw [fileIn, Path.join_ofNames hnames isName_fileName, Path.parent?_ofNames hnames isName_fileName]

/-! ### The file in use -/

def layerAt (d : Disk) (path : Path) : Except Fault Layer := do
  let text ← (d.readText path).mapError (.unreadable path)
  (layerOfText text).mapError (.malformed path)

theorem ofFile_eq_map (d : Disk) (path : Path) :
    ofFile d path = (layerAt d path).map fun l => l.over standard := by
  have hmap : ∀ parsed : Except Fault Layer,
      (do return (← parsed).over standard) = parsed.map fun l => l.over standard := by
    intro parsed
    cases parsed with
    | error fault => rfl
    | ok l => rfl
  rw [ofFile, layerAt]
  cases d.readText path with
  | error fault => rfl
  | ok text => exact hmap _

/-- A layer is that of a text in which every setting is said under its own key. -/
theorem exists_text_of_layerAt {path : Path} {l : Layer} (h : layerAt d path = .ok l) :
    ∃ text, d.readText path = .ok text ∧
      l.SaidIn (Yaml.Document.ofText text) (Yaml.Document.ofText text).entries := by
  rw [layerAt] at h
  cases htext : d.readText path with
  | error fault =>
      rw [htext] at h
      cases h
  | ok text =>
      rw [htext] at h
      change (layerOfText text).mapError (Fault.malformed path) = .ok l at h
      refine ⟨text, rfl, saidIn_of_layerOfText ?_⟩
      cases hl : layerOfText text with
      | error fault =>
          rw [hl] at h
          cases h
      | ok l' =>
          rw [hl] at h
          cases h
          rfl

/-- What is in use of configuration files, if a path is asked for or if none is: the layer of a file
with the directory of the file, or nothing. -/
inductive InUse (d : Disk) (base : Path) : Option Path → Option (Layer × Path) → Prop where
  | given {path : Path} {l : Layer} (hl : layerAt d path = .ok l) :
    InUse d base (some path) (some (l, path.parent?.getD ⟨"."⟩))
  | nearest {start names : List String} {l : Layer} (hstart : d.locate base = .ok start)
    (hnearest : IsNearest d start names) (hl : layerAt d (fileIn names) = .ok l) :
    InUse d base none (some (l, .ofNames names))
  | unusable {start names : List String} {fault : Fault} (hstart : d.locate base = .ok start)
    (hnearest : IsNearest d start names) (hl : layerAt d (fileIn names) = .error fault) :
    InUse d base none none
  | absent (h : ∀ start names, d.locate base = .ok start → ¬ IsNearest d start names) :
    InUse d base none none

theorem InUse.unique {asked : Option Path} {source source' : Option (Layer × Path)}
    (h : InUse d base asked source) (h' : InUse d base asked source') : source = source' := by
  have hsame : ∀ {start start' names names'}, d.locate base = .ok start →
      d.locate base = .ok start' → IsNearest d start names → IsNearest d start' names' →
      names = names' := by
    intro start start' names names' hstart hstart' hnearest hnearest'
    cases hstart.symm.trans hstart'
    exact hnearest.unique hnearest'
  cases h with
  | given hl =>
      cases h' with
      | given hl' =>
          cases hl.symm.trans hl'
          rfl
  | nearest hstart hnearest hl =>
      cases h' with
      | nearest hstart' hnearest' hl' =>
          cases hsame hstart hstart' hnearest hnearest'
          cases hl.symm.trans hl'
          rfl
      | unusable hstart' hnearest' hl' =>
          cases hsame hstart hstart' hnearest hnearest'
          cases hl.symm.trans hl'
      | absent h => exact (h _ _ hstart hnearest).elim
  | unusable hstart hnearest hl =>
      cases h' with
      | nearest hstart' hnearest' hl' =>
          cases hsame hstart hstart' hnearest hnearest'
          cases hl.symm.trans hl'
      | unusable | absent => rfl
  | absent h =>
      cases h' with
      | nearest hstart hnearest hl => exact (h _ _ hstart hnearest).elim
      | unusable | absent => rfl

/-- The layer that is in use, which is empty if no file is. -/
def layerOf (source : Option (Layer × Path)) : Layer := (source.map Prod.fst).getD .empty

/-- What is taken from the highest layer that has it: the command line, then a file, then the
standard. -/
structure Layered (a : Arguments) (l : Layer) (c : Config) : Prop where
  testPattern : c.testPattern = l.testPattern.getD standard.testPattern
  root : c.root = (a.root.or l.root).or standard.root
  recursive : c.recursive = if a.noRecursive then false else l.recursive.getD standard.recursive
  exclude : c.exclude = l.exclude.getD standard.exclude
  timeoutMillis :
    c.timeoutMillis = a.timeoutMillis.getD (l.timeoutMillis.getD standard.timeoutMillis)
  defaultInput : c.defaultInput = l.defaultInput.getD standard.defaultInput
  quietProbes : c.quietProbes = l.quietProbes.getD standard.quietProbes
  probeSubstringRules :
    c.probeSubstringRules = l.probeSubstringRules.getD standard.probeSubstringRules

theorem Layered.unique {a : Arguments} {l : Layer} {c c' : Config} (h : Layered a l c)
    (h' : Layered a l c') : c = c' := by
  cases c
  cases c'
  rw [Config.mk.injEq]
  exact ⟨h.testPattern.trans h'.testPattern.symm, h.root.trans h'.root.symm,
    h.recursive.trans h'.recursive.symm, h.exclude.trans h'.exclude.symm,
    h.timeoutMillis.trans h'.timeoutMillis.symm, h.defaultInput.trans h'.defaultInput.symm,
    h.quietProbes.trans h'.quietProbes.symm,
    h.probeSubstringRules.trans h'.probeSubstringRules.symm⟩

/-- Laying the layers over each other takes every setting from the highest that has it. -/
theorem layered_withOverrides (a : Arguments) (l : Layer) :
    Layered a l ((l.over standard).withOverrides a.root a.noRecursive a.timeoutMillis) := by
  refine ⟨rfl, ?_, ?_, rfl, rfl, rfl, rfl, rfl⟩
  · exact (Option.or_assoc ..).symm
  · show (l.recursive.getD standard.recursive && !a.noRecursive) = _
    cases a.noRecursive with
    | true => exact Bool.and_false _
    | false => exact Bool.and_true _

end Config

namespace CommandLine

open Config (InUse IsNearest Layered layerAt layerOf fileIn)

variable {d : File.Disk} {base : Path} {a : Arguments}

/-! ### Settings in layers -/

/-- The configuration of what is in use comes with the directory of its file. -/
theorem value_configured_of_inUse (hroot : d.root.WellNamed) {asked : Option Path}
    {source : Option (Config.Layer × Path)} (h : InUse d base asked source) :
    (configured d base asked).value =
      .ok ((layerOf source).over .standard, source.map Prod.snd) := by
  cases h with
  | given hl =>
      rw [configured, Config.load, Config.ofFile_eq_map, hl]
      rfl
  | nearest hstart hnearest hl =>
      have hfound := Config.find?_eq_some_iff.mpr ⟨_, _, hstart, hnearest, rfl⟩
      rw [configured, Told.value_bind, Config.discovered, hfound]
      dsimp only
      rw [Config.ofFile_eq_map, hl]
      dsimp only [Except.map]
      rw [Config.parent?_fileIn hroot hstart hnearest]
      rfl
  | unusable hstart hnearest hl =>
      have hfound := Config.find?_eq_some_iff.mpr ⟨_, _, hstart, hnearest, rfl⟩
      rw [configured, Told.value_bind, Config.discovered, hfound]
      dsimp only
      rw [Config.ofFile_eq_map, hl]
      rfl
  | absent h =>
      have hnone : Config.find? d base = none := by
        rw [Option.eq_none_iff_forall_ne_some]
        intro path hpath
        obtain ⟨start, names, hstart, hnearest, -⟩ := Config.find?_eq_some_iff.mp hpath
        exact h start names hstart hnearest
      rw [configured, Told.value_bind, Config.discovered, hnone]
      rfl

/-- Something is in use, or nothing, unless a file that is asked for gives no layer. -/
theorem exists_inUse (d : File.Disk) (base : Path) (asked : Option Path) :
    (∃ source, InUse d base asked source) ∨
      ∃ path fault, asked = some path ∧ layerAt d path = .error fault := by
  cases asked with
  | some path =>
      cases hl : layerAt d path with
      | ok l => exact .inl ⟨_, .given hl⟩
      | error fault => exact .inr ⟨path, fault, rfl, hl⟩
  | none =>
      left
      by_cases h : ∃ start names, d.locate base = .ok start ∧ IsNearest d start names
      · obtain ⟨start, names, hstart, hnearest⟩ := h
        cases hl : layerAt d (fileIn names) with
        | ok l => exact ⟨_, .nearest hstart hnearest hl⟩
        | error fault => exact ⟨_, .unusable hstart hnearest hl⟩
      · exact ⟨none, .absent fun start names hstart hnearest => h ⟨start, names, hstart, hnearest⟩⟩

theorem load_eq_error_iff {path : Path} :
    (∃ fault, Config.load d path = .error fault) ↔ ∃ fault, layerAt d path = .error fault := by
  rw [Config.load, Config.ofFile_eq_map]
  cases layerAt d path with
  | error fault => exact iff_of_true ⟨fault, rfl⟩ ⟨fault, rfl⟩
  | ok l => exact iff_of_false (fun ⟨_, h⟩ => nomatch h) fun ⟨_, h⟩ => nomatch h

/-- The directory to search, by the layer that the root is from: a root on the command line is below
the base, and one in a file below the directory of the file. Without a root it is the base. -/
def layerRoot (base : Path) (a : Arguments) (source : Option (Config.Layer × Path)) : Path :=
  match a.root with
  | some root => base.join root
  | none =>
    match source with
    | some (l, directory) => (l.root.map directory.join).getD base
    | none => base

/-- Whether a directory is the one that is searched. It is the one by the layer of the root, if the
command line has no root, if no file is in use, or if the root is absolute. A root on the command
line is below the directory of a file that is in use. -/
structure Searches (base : Path) (a : Arguments) (source : Option (Config.Layer × Path))
    (directory : Path) : Prop where
  byLayer : a.root = none ∨ source = none ∨
    (∃ root, a.root = some root ∧ root.isAbsolute = true) → directory = layerRoot base a source
  belowFile : ∀ root l below, a.root = some root → source = some (l, below) →
    directory = below.join root

theorem Searches.unique {source : Option (Config.Layer × Path)} {directory directory' : Path}
    (h : Searches base a source directory) (h' : Searches base a source directory') :
    directory = directory' := by
  cases hroot : a.root with
  | none => exact (h.byLayer (.inl hroot)).trans (h'.byLayer (.inl hroot)).symm
  | some root =>
      cases source with
      | none => exact (h.byLayer (.inr (.inl rfl))).trans (h'.byLayer (.inr (.inl rfl))).symm
      | some file =>
          exact (h.belowFile root file.1 file.2 hroot rfl).trans
            (h'.belowFile root file.1 file.2 hroot rfl).symm

/-- The settings of layers that are laid over each other search the directory that is searched. -/
theorem searches_of (base : Path) (a : Arguments) (source : Option (Config.Layer × Path)) :
    Searches base a source
      (Settings.of base a ((layerOf source).over .standard) (source.map Prod.snd)).root := by
  have hjoin : ∀ {p q root : Path}, root.isAbsolute = true → p.join root = q.join root := by
    intro p q root habsolute
    rw [Path.join, Path.join, habsolute, Bool.true_or, Bool.true_or, if_pos rfl, if_pos rfl]
  rw [Settings.of, Config.searchDirectory, Config.withOverrides, Config.Layer.over]
  cases hroot : a.root with
  | none =>
      constructor
      · intro _
        rw [layerRoot.eq_def, hroot]
        cases source with
        | none => rfl
        | some file =>
            obtain ⟨l, directory⟩ := file
            cases hl : l.root with
            | none => simp [layerOf, Config.standard, hl]
            | some root => simp [layerOf, hl]
      · intro root l below hroot'
        cases hroot.symm.trans hroot'
  | some root =>
      rw [Option.some_or]
      constructor
      · intro h
        rw [layerRoot.eq_def, hroot]
        rcases h with h | rfl | ⟨root', hroot', habsolute⟩
        · cases hroot.symm.trans h
        · rfl
        · cases hroot.symm.trans hroot'
          exact hjoin habsolute
      · rintro root' l below hroot' rfl
        cases hroot.symm.trans hroot'
        rfl

theorem value_settings_of_inUse (hroot : d.root.WellNamed) {source : Option (Config.Layer × Path)}
    (h : InUse d base a.config source) :
    (settings d base a).value =
      .ok (.of base a ((layerOf source).over .standard) (source.map Prod.snd)) := by
  rw [value_settings, value_configured_of_inUse hroot h]
  rfl

/-- **Settings come in layers.** For every file system, base and arguments: an execution settles
what is in force and goes on under that. It has settings unless the configuration file that is asked
for by name gives no layer. Each setting is what the command line says; else what the file in use
says under the key of the setting, if that is there and not null; else the standard. The file in use
is the one that is asked for, or the nearest one at or above the base; one of these that gives no
layer counts as none, and none farther is tried. The directory to search is the one by the layer of
the root, unless the root is a relative one on the command line and a file is in use: that is below
the directory of the file. -/
theorem settings_layered (d : File.Disk) (hroot : d.root.WellNamed) (base : Path) (a : Arguments) :
    (∀ registry terminal, execute d registry base a terminal =
      Run.tell (settings d base a) >>= executeUnder d registry a terminal) ∧
    (∀ s, (settings d base a).value = .ok s ↔ ∃ source, InUse d base a.config source ∧
      Layered a (layerOf source) s.config ∧ Searches base a source s.root) ∧
    (∀ source source', InUse d base a.config source → InUse d base a.config source' →
      source = source') ∧
    (∀ path l, layerAt d path = .ok l → ∃ text, d.readText path = .ok text ∧
      l.SaidIn (Yaml.Document.ofText text) (Yaml.Document.ofText text).entries) ∧
    ((∃ fault, (settings d base a).value = .error fault) ↔
      ∃ path fault, a.config = some path ∧ layerAt d path = .error fault) := by
  have herror : (∃ fault, (settings d base a).value = .error fault) ↔
      ∃ path fault, a.config = some path ∧ layerAt d path = .error fault := by
    simp only [value_settings_eq_error]
    constructor
    · rintro ⟨fault, path, hasked, hload⟩
      obtain ⟨cause, hl⟩ := load_eq_error_iff.mp ⟨fault, hload⟩
      exact ⟨path, cause, hasked, hl⟩
    · rintro ⟨path, cause, hasked, hl⟩
      obtain ⟨fault, hload⟩ := load_eq_error_iff.mpr ⟨cause, hl⟩
      exact ⟨fault, path, hasked, hload⟩
  refine ⟨fun registry terminal => execute_eq_bind, fun s => ?_, fun _ _ h h' => h.unique h',
    fun _ _ => Config.exists_text_of_layerAt, herror⟩
  constructor
  · intro hs
    rcases exists_inUse d base a.config with ⟨source, hsource⟩ | hfault
    · rw [value_settings_of_inUse hroot hsource] at hs
      cases hs
      exact ⟨source, hsource, Config.layered_withOverrides a _, searches_of base a source⟩
    · obtain ⟨fault, hfault⟩ := herror.mpr hfault
      rw [hs] at hfault
      cases hfault
  · rintro ⟨source, hsource, hlayered, hsearches⟩
    rw [value_settings_of_inUse hroot hsource, Except.ok.injEq]
    -- both have the same configuration and the same directory
    have hconfig := (Config.layered_withOverrides a (layerOf source)).unique hlayered
    have hsearched := (searches_of base a source).unique hsearches
    cases s
    rw [Settings.of, Settings.mk.injEq]
    exact ⟨hconfig, hsearched⟩

/-- A disk with a configuration file that has a root and a limit, above an empty directory. -/
def layeredDisk : File.Disk :=
  let text := "root: evals\ntimeout_ms: 10\nquiet_probes: null\n"
  ⟨.directory [(".evalengine.yaml", .file text.toUTF8), ("sub", .directory [])], []⟩

theorem wellNamed_layeredDisk : layeredDisk.root.WellNamed := by
  have hnames : Path.IsName ".evalengine.yaml" ∧ Path.IsName "sub" := by decide +kernel
  simp [layeredDisk, File.Tree.wellNamed_directory_iff, File.Tree.WellNamed.file, hnames]

/-- Below the file, with a limit on the command line: the limit is the one given, and the root is
the one of the file. -/
theorem settings_layered_below :
    let a : Arguments := { Arguments.none with timeoutMillis := some 5 }
    layeredDisk.root.WellNamed ∧ ∃ s source, (settings layeredDisk ⟨"sub"⟩ a).value = .ok s ∧
      InUse layeredDisk ⟨"sub"⟩ none source ∧ s.config.timeoutMillis = 5 ∧
      s.root = layerRoot ⟨"sub"⟩ a source ∧ s.root = ⟨"/evals"⟩ := by
  intro a
  obtain ⟨-, hlayers, -, -, -⟩ := settings_layered layeredDisk wellNamed_layeredDisk ⟨"sub"⟩ a
  have hsearched : (settings layeredDisk ⟨"sub"⟩ a).value.toOption.map Settings.root =
      some ⟨"/evals"⟩ := by decide +kernel
  cases hs : (settings layeredDisk ⟨"sub"⟩ a).value with
  | error fault =>
      rw [hs] at hsearched
      cases hsearched
  | ok s =>
      rw [hs] at hsearched
      obtain ⟨source, hsource, hlayered, hsearches⟩ := (hlayers s).mp hs
      exact ⟨wellNamed_layeredDisk, s, source, rfl, hsource, hlayered.timeoutMillis,
        hsearches.byLayer (.inl rfl), Option.some.inj hsearched⟩

/-- A disk with a configuration file in one directory and a rule file in another. -/
def splitDisk : File.Disk :=
  ⟨.directory [("conf", .directory [("e.yaml", .file "timeout_ms: 10\n".toUTF8)]),
    ("evals", .directory [("a.eval.yaml", .file "target: t\n".toUTF8)])], []⟩

/-- The directory of rule files is given on the command line, beside a configuration file elsewhere:
it is looked for below the directory of the file, and no suite is found. -/
theorem root_searched_below_file :
    let a : Arguments :=
      { Arguments.none with config := some ⟨"conf/e.yaml"⟩, root := some ⟨"evals"⟩ }
    ∃ s source, (settings splitDisk ⟨"."⟩ a).value = .ok s ∧
      InUse splitDisk ⟨"."⟩ a.config source ∧ s.root ≠ layerRoot ⟨"."⟩ a source ∧
      splitDisk.isFile ((layerRoot ⟨"."⟩ a source).join ⟨"a.eval.yaml"⟩) = true ∧
      ((execute splitDisk .empty ⟨"."⟩ a).value []).verdict = .noSuites := by
  intro a
  have hlayer : (layerAt splitDisk ⟨"conf/e.yaml"⟩).toOption.isSome = true := by decide +kernel
  cases hl : layerAt splitDisk ⟨"conf/e.yaml"⟩ with
  | error fault =>
      rw [hl] at hlayer
      cases hlayer
  | ok l =>
      have hvalue : (settings splitDisk ⟨"."⟩ a).value =
          .ok (.of ⟨"."⟩ a (l.over .standard) (some ⟨"conf"⟩)) := by
        have hparent : (⟨"conf/e.yaml"⟩ : Path).parent?.getD ⟨"."⟩ = ⟨"conf"⟩ := by decide +kernel
        rw [value_settings, configured, Config.load, Config.ofFile_eq_map, hl, hparent]
        rfl
      refine ⟨_, _, hvalue, .given hl, ?_, ?_, by decide +kernel⟩
      · show (⟨"conf"⟩ : Path).join ⟨"evals"⟩ ≠ (⟨"."⟩ : Path).join ⟨"evals"⟩
        decide +kernel
      · show splitDisk.isFile (((⟨"."⟩ : Path).join ⟨"evals"⟩).join ⟨"a.eval.yaml"⟩) = true
        decide +kernel

end CommandLine
end CallCheck
