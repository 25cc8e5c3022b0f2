import CallCheck.Proofs.RuleFile

/-!
# What compiling a rule file checks

The entries of a rule file and the inputs of its cases form one list of items that may be refused
(`RuleFile.items`). Compiling the file looks at the items one after another, up to the first that is
refused: each part of a compilation checks its own items and gives a result that is known beforehand
(`RuleFile.Checks`), and so does the whole (`RuleFile.checks_compileEntries`). Hence a compilation
either gives the rules and cases of all entries or the fault of the first item that is refused
(`RuleFile.compile_all_or_nothing`).
-/

namespace CallCheck
namespace RuleFile

variable {α β : Type}

/-! ### Entries -/

/-- The name and the argument that an entry consists of: a bare name has no argument, and a map is
one only if it has exactly one key. -/
inductive Descriptor.Says : Descriptor → String → Json → Prop where
  | bare (name : String) : Says (.bare name) name .null
  | call (name : String) (arg : Json) : Says (.call [(name, arg)]) name arg

/-- Whether an entry means a predicate. -/
def Descriptor.Means (e : Descriptor) (p : Predicate) : Prop :=
  ∃ name arg, e.Says name arg ∧ Predicate.ofDescriptor name arg = .ok p

theorem Descriptor.resolve_eq_of_said {e : Descriptor} {name : String} {arg : Json}
    (h : e.Says name arg) : e.resolve = Predicate.ofDescriptor name arg := by
  cases h with
  | bare => rw [resolve]
  | call => rw [resolve]

theorem Descriptor.resolve_eq_ok_iff {e : Descriptor} {p : Predicate} :
    e.resolve = .ok p ↔ e.Means p := by
  constructor
  · intro h
    rw [resolve.eq_def] at h
    split at h
    · next name => exact ⟨name, .null, .bare name, h⟩
    · next name arg => exact ⟨name, arg, .call name arg, h⟩
    · cases h
  · rintro ⟨name, arg, hsays, hp⟩
    rw [resolve_eq_of_said hsays, hp]

/-! ### Items -/

/-- Something in a rule file that may be refused. -/
inductive Item where
  | entry (e : Descriptor)
  | input (v : Json)

/-- What is wrong with an item, if anything: with an entry, that it means no predicate; with an
input, that the target does not accept it. -/
def Item.fault? (t : Target) : Item → Run (Option Fault)
  | .entry e =>
    match e.resolve with
    | .ok _ => return none
    | .error fault => return some fault
  | .input v => do
    match ← t.validate v with
    | .ok () => return none
    | .error fault => return some (.schema fault)

/-- The items of a rule file: the entries for every input, those for each text in the input, and
then for each case its input before its entries. -/
def items (f : RuleFile) : List Item :=
  f.forAll.map .entry ++ f.containing.flatMap (fun e => e.expect.map .entry) ++
    f.cases.flatMap fun e => .input e.input :: e.expect.map .entry

/-- The fault of the first item that is refused. The items after it are not looked at. -/
def firstFault? (t : Target) : List Item → Run (Option Fault)
  | [] => return none
  | item :: rest => do
    match ← item.fault? t with
    | some fault => return some fault
    | none => firstFault? t rest

theorem firstFault?_append (t : Target) (before after : List Item) :
    firstFault? t (before ++ after) = (do
      match ← firstFault? t before with
      | some fault => return some fault
      | none => firstFault? t after) := by
  induction before with
  | nil => rfl
  | cons item before ih =>
      rw [List.cons_append, firstFault?, firstFault?, bind_assoc]
      refine bind_congr fun found => ?_
      cases found with
      | some fault => rfl
      | none => exact ih

/-- The first fault among items, each looked at in its turn. -/
theorem value_firstFault? (t : Target) (items : List Item) (j : Journal) :
    (firstFault? t items).value j =
      (Run.visits (Item.fault? t) items j).findSome? fun v => (v.1.fault? t).value v.2 := by
  induction items generalizing j with
  | nil => rfl
  | cons item rest ih =>
      rw [firstFault?, Run.value_bind, Run.visits, List.findSome?_cons]
      cases (item.fault? t).value j with
      | some fault => rfl
      | none => exact ih _

/-! ### Parts of a compilation -/

/-- A result that is only given if there is no fault. -/
def unlessFault (a : α) : Option Fault → Except Fault α
  | some fault => .error fault
  | none => .ok a

/-- A compilation that looks at some items, up to the first that is refused, and gives `a` if none
is. -/
def Checks (t : Target) (items : List Item) (act : Compilation α) (a : α) : Prop :=
  act.run = unlessFault a <$> firstFault? t items

theorem checks_pure (t : Target) (a : α) : Checks t [] (pure a) a := rfl

/-- One compilation after another looks at the items of both. -/
theorem Checks.bind {t : Target} {before after : List Item} {act : Compilation α}
    {f : α → Compilation β} {a : α} {b : β} (h : Checks t before act a)
    (hf : Checks t after (f a) b) : Checks t (before ++ after) (act >>= f) b := by
  rw [Checks, ExceptT.run_bind, h, firstFault?_append, map_bind, bind_map_left]
  refine bind_congr fun found => ?_
  cases found with
  | some fault => rfl
  | none => exact hf

/-- A compilation that goes on with a mere result. -/
theorem Checks.map {t : Target} {items : List Item} {act : Compilation α} {f : α → β} {a : α}
    (h : Checks t items act a) : Checks t items (do return f (← act)) (f a) := by
  have hpure := h.bind (checks_pure t (f a)) (f := fun a => pure (f a))
  rwa [List.append_nil] at hpure

theorem checks_mapM {t : Target} {act : α → Compilation β} {its : α → List Item} {g : α → β}
    (h : ∀ a, Checks t (its a) (act a) (g a)) (as : List α) :
    Checks t (as.flatMap its) (as.mapM act) (as.map g) := by
  induction as with
  | nil => exact checks_pure t []
  | cons a as ih =>
      rw [List.mapM_cons, List.flatMap_cons]
      exact (h a).bind ih.map

/-- Resolving entries looks at each of them. -/
theorem checks_resolveAll (t : Target) (ds : List Descriptor) :
    Checks t (ds.map .entry) (resolveAll ds) (resolved ds) := by
  induction ds with
  | nil => rfl
  | cons e ds ih =>
      rw [Checks, List.map_cons, firstFault?, Item.fault?]
      cases he : e.resolve with
      | error fault =>
          have hmap : (e :: ds).mapM Descriptor.resolve = .error fault := by
            rw [List.mapM_cons, he]
            rfl
          rw [resolveAll, hmap]
          rfl
      | ok p =>
          have hmap : (e :: ds).mapM Descriptor.resolve =
              (p :: ·) <$> ds.mapM Descriptor.resolve := by
            rw [List.mapM_cons, he]
            rfl
          have hresolved : resolved (e :: ds) = p :: resolved ds := by
            rw [resolved, List.filterMap_cons, he]
            rfl
          rw [resolveAll, hmap, hresolved]
          -- the rest is checked as before, and the first predicate is put in front
          refine Eq.trans ?_ (ih.map (f := (p :: ·)))
          rw [resolveAll]
          cases ds.mapM Descriptor.resolve with
          | error fault => rfl
          | ok ps => rfl

/-- A case is checked by its input and then by its entries. -/
theorem checks_caseOf (t : Target) (e : CaseEntry) :
    Checks t (.input e.input :: e.expect.map .entry) (caseOf t e) ⟨e.input, resolved e.expect⟩ := by
  have hvalidate : (liftM (t.validate e.input) : Compilation (Except SchemaFault Unit)).run =
      Except.ok <$> t.validate e.input := rfl
  rw [Checks, firstFault?, Item.fault?, caseOf, ExceptT.run_bind, hvalidate, bind_map_left,
    map_bind, bind_assoc]
  refine bind_congr fun verdict => ?_
  cases verdict with
  | error fault => rfl
  | ok _ => exact (checks_resolveAll t e.expect).map

/-- The entries of a file are checked one by one. -/
theorem checks_compileEntries (f : RuleFile) (t : Target) :
    Checks t f.items (f.compileEntries t) f.compiled := by
  have halways : Checks t (f.forAll.map .entry) (alwaysRules f)
      (if f.forAll.isEmpty then [] else [⟨.always, resolved f.forAll⟩]) := by
    rw [alwaysRules]
    split
    · next hempty =>
        rw [List.isEmpty_iff.mp hempty]
        exact checks_pure t []
    · exact (checks_resolveAll t f.forAll).map
  have hcontaining : Checks t (f.containing.flatMap fun e => e.expect.map .entry)
      (f.containing.mapM substringRule)
      (f.containing.map fun e => ⟨.containing e.substring, resolved e.expect⟩) :=
    checks_mapM (fun e => (checks_resolveAll t e.expect).map) f.containing
  have hcases := checks_mapM (checks_caseOf t) f.cases
  rw [items, List.append_assoc]
  exact halways.bind (hcontaining.bind hcases.map)

/-- A compilation warns and then looks for the first item that is refused. -/
theorem compile_eq_tell (f : RuleFile) (t : Target) :
    (f.compile t).run =
      Run.tell ⟨(), f.warnings⟩ >>= fun _ => unlessFault f.compiled <$> firstFault? t f.items := by
  have hentries : (f.compileEntries t).run = _ := checks_compileEntries f t
  rw [← hentries]
  exact funext fun j => f.run_compile t j

/-- A compilation gives the rules and cases of all entries, unless an item is refused. -/
theorem value_compile (f : RuleFile) (t : Target) (j : Journal) :
    (f.compile t).run.value j =
      unlessFault f.compiled
        ((firstFault? t f.items).value (j ++ Journal.ofEvents f.warnings)) := by
  rw [compile_eq_tell]
  rfl

/-! ### Files whose items are all accepted -/

/-- What a rule file has to be compiled to: a rule for every input if there are entries for it, then
one for each text in the input, then one for each case, with the predicates that the entries mean.
The cases are those of the rules for one input. -/
structure Denotes (f : RuleFile) (compiled : Compiled) : Prop where
  rules : ∃ always containing,
    compiled.rules = always ++ containing ++ compiled.cases.map ruleOfCase ∧
    (f.forAll = [] → always = []) ∧
    (f.forAll ≠ [] → ∃ ps, always = [⟨.always, ps⟩] ∧ List.Forall₂ Descriptor.Means f.forAll ps) ∧
    List.Forall₂ (fun (e : SubstringEntry) (r : Rule) => ∃ ps,
      r = ⟨.containing e.substring, ps⟩ ∧ List.Forall₂ Descriptor.Means e.expect ps)
      f.containing containing
  cases : List.Forall₂ (fun (e : CaseEntry) (k : Case) =>
    k.input = e.input ∧ List.Forall₂ Descriptor.Means e.expect k.predicates) f.cases compiled.cases
  exact : compiled.rules.filterMap Rule.case? = compiled.cases

/-- Entries that all mean predicates resolve to these, in order. -/
theorem forall₂_means_resolved {ds : List Descriptor} (h : ∀ e ∈ ds, ∃ p, e.Means p) :
    List.Forall₂ Descriptor.Means ds (resolved ds) := by
  induction ds with
  | nil => exact .nil
  | cons e ds ih =>
      obtain ⟨⟨p, hp⟩, hds⟩ := List.forall_mem_cons.mp h
      have hresolved : resolved (e :: ds) = p :: resolved ds := by
        rw [resolved, List.filterMap_cons, Descriptor.resolve_eq_ok_iff.mpr hp]
        rfl
      rw [hresolved]
      exact .cons hp (ih hds)

theorem denotes_compiled {f : RuleFile} (h : ∀ ds ∈ f.expectations, ∀ e ∈ ds, ∃ p, e.Means p) :
    f.Denotes f.compiled := by
  have hforAll := forall₂_means_resolved (h f.forAll List.mem_cons_self)
  have hcontaining : ∀ e ∈ f.containing, List.Forall₂ Descriptor.Means e.expect (resolved e.expect) :=
    fun e he => forall₂_means_resolved (h e.expect (List.mem_cons_of_mem _
      (List.mem_append_left _ (List.mem_map_of_mem he))))
  have hcases : ∀ e ∈ f.cases, List.Forall₂ Descriptor.Means e.expect (resolved e.expect) :=
    fun e he => forall₂_means_resolved (h e.expect (List.mem_cons_of_mem _
      (List.mem_append_right _ (List.mem_map_of_mem he))))
  refine ⟨⟨_, _, rfl, ?_, ?_, ?_⟩, ?_, filterMap_case?_compiled⟩
  · intro hnil
    rw [hnil]
    rfl
  · intro hne
    rw [if_neg (mt List.isEmpty_iff.mp hne)]
    exact ⟨_, rfl, hforAll⟩
  · rw [List.forall₂_map_right_iff, List.forall₂_same]
    exact fun e he => ⟨_, rfl, hcontaining e he⟩
  · rw [compiled, List.forall₂_map_right_iff, List.forall₂_same]
    exact fun e he => ⟨rfl, hcases e he⟩

/-- The entries among the items are all entries of the file. -/
theorem entry_mem_items {f : RuleFile} {e : Descriptor} :
    Item.entry e ∈ f.items ↔ ∃ ds ∈ f.expectations, e ∈ ds := by
  simp [items, expectations, or_and_right, exists_or]

theorem value_fault?_entry (t : Target) (e : Descriptor) (j : Journal) :
    ((Item.entry e).fault? t).value j = none ↔ ∃ p, e.Means p := by
  simp only [← Descriptor.resolve_eq_ok_iff]
  rw [Item.fault?]
  cases e.resolve with
  | ok p => exact ⟨fun _ => ⟨p, rfl⟩, fun _ => rfl⟩
  | error fault => exact ⟨fun h => (nomatch h), fun ⟨p, h⟩ => (nomatch h)⟩

theorem value_fault?_input (t : Target) (v : Json) (j : Journal) :
    ((Item.input v).fault? t).value j = none ↔ (t.validate v).value j = .ok () := by
  rw [Item.fault?, Run.value_bind]
  cases (t.validate v).value j with
  | ok _ => exact ⟨fun _ => rfl, fun _ => rfl⟩
  | error fault => exact ⟨fun h => (nomatch h), fun h => (nomatch h)⟩

/-- No item is refused exactly when every entry means a predicate and every input is accepted in its
turn. -/
theorem forall_fault?_eq_none_iff (f : RuleFile) (t : Target) (j : Journal) :
    (∀ v ∈ Run.visits (Item.fault? t) f.items j, (v.1.fault? t).value v.2 = none) ↔
      (∀ ds ∈ f.expectations, ∀ e ∈ ds, ∃ p, e.Means p) ∧
      ∀ v ∈ Run.visits (Item.fault? t) f.items j, ∀ input, v.1 = .input input →
        (t.validate input).value v.2 = .ok () := by
  constructor
  · intro h
    refine ⟨?_, ?_⟩
    · intro ds hds e he
      have hmem := entry_mem_items.mpr ⟨ds, hds, he⟩
      rw [← Run.map_fst_visits (Item.fault? t) f.items j] at hmem
      obtain ⟨⟨item, turn⟩, hvisit, hitem⟩ := List.mem_map.mp hmem
      have hnone := h _ hvisit
      rw [show item = .entry e from hitem] at hnone
      exact (value_fault?_entry t e turn).mp hnone
    · rintro ⟨item, turn⟩ hvisit input hitem
      have hnone := h _ hvisit
      rw [show item = .input input from hitem] at hnone
      exact (value_fault?_input t input turn).mp hnone
  · rintro ⟨hentries, hinputs⟩ ⟨item, turn⟩ hvisit
    cases item with
    | entry e =>
        obtain ⟨ds, hds, he⟩ := entry_mem_items.mp (Run.fst_mem_of_mem_visits hvisit)
        exact (value_fault?_entry t e turn).mpr (hentries ds hds e he)
    | input v => exact (value_fault?_input t v turn).mpr (hinputs _ hvisit v rfl)

/-! ### Whole files -/

theorem unlessFault_eq_ok_iff {a b : α} {found : Option Fault} :
    unlessFault a found = .ok b ↔ found = none ∧ a = b := by
  cases found with
  | none => simp [unlessFault]
  | some fault => simp [unlessFault]

theorem unlessFault_eq_error_iff {a : α} {found : Option Fault} {fault : Fault} :
    unlessFault a found = .error fault ↔ found = some fault := by
  cases found with
  | none => simp [unlessFault]
  | some fault => simp [unlessFault]

/-- **Compilation is all or nothing, with a determined first fault.** The items of a file are looked
at one after another, each at its turn. The file is compiled exactly when every entry means a
predicate and the target accepts every input, and then to what it denotes. Otherwise the fault is
that of the first item that is refused. The keys that mean nothing are warned of beforehand and make
no other difference; so they do not change the result for a target whose validation is blind to
events. -/
theorem compile_all_or_nothing (f : RuleFile) (t : Target) (j : Journal) :
    let result := (f.compile t).run.value j
    let turns := Run.visits (Item.fault? t) f.items (j ++ Journal.ofEvents f.warnings)
    turns.map Prod.fst = f.items ∧
    ((∃ compiled, result = .ok compiled) ↔
      (∀ ds ∈ f.expectations, ∀ e ∈ ds, ∃ p, e.Means p) ∧
      ∀ turn ∈ turns, ∀ v, turn.1 = .input v → (t.validate v).value turn.2 = .ok ()) ∧
    (∀ compiled, result = .ok compiled → f.Denotes compiled) ∧
    (∀ fault, result = .error fault ↔ ∃ before turn after, turns = before ++ turn :: after ∧
      (turn.1.fault? t).value turn.2 = some fault ∧
      ∀ earlier ∈ before, (earlier.1.fault? t).value earlier.2 = none) ∧
    (∀ unknown, ({ f with unknown }.compile t).run j =
      ({ f with unknown := [] }.compile t).run
        (j ++ Journal.ofEvents ({ f with unknown } : RuleFile).warnings)) ∧
    ((∀ v, (t.validate v).Blind) →
      ∀ unknown, ({ f with unknown }.compile t).run.value j = result) := by
  intro result turns
  have hresult : result = unlessFault f.compiled
      (turns.findSome? fun turn => (turn.1.fault? t).value turn.2) := by
    rw [← value_firstFault?]
    exact value_compile f t j
  have hok : ∀ compiled, result = .ok compiled ↔
      (∀ turn ∈ turns, (turn.1.fault? t).value turn.2 = none) ∧ f.compiled = compiled := by
    intro compiled
    rw [hresult, unlessFault_eq_ok_iff, List.findSome?_eq_none_iff]
  refine ⟨Run.map_fst_visits _ f.items _, ?compiles, ?denotes, ?fault, ?unknown, ?blind⟩
  case compiles =>
    rw [← forall_fault?_eq_none_iff]
    constructor
    · rintro ⟨compiled, h⟩
      exact ((hok compiled).mp h).1
    · exact fun h => ⟨f.compiled, (hok _).mpr ⟨h, rfl⟩⟩
  case denotes =>
    intro compiled h
    obtain ⟨hnone, rfl⟩ := (hok compiled).mp h
    exact denotes_compiled ((forall_fault?_eq_none_iff f t _).mp hnone).1
  case fault =>
    intro fault
    rw [hresult, unlessFault_eq_error_iff, List.findSome?_eq_some_iff]
  case unknown =>
    intro unknown
    rw [run_compile, run_compile]
    show _ = (f.compileEntries t).run (_ ++ [])
    rw [List.append_nil]
    rfl
  case blind =>
    intro hvalidate unknown
    have hblind : (f.compileEntries t).run.Blind :=
      compileEntries_of_compositional (P := fun _ act => act.Blind)
        ⟨Run.blind_pure, Run.Blind.bind⟩ f hvalidate
    show (({ f with unknown } : RuleFile).compile t).run.value j = (f.compile t).run.value j
    rw [Run.value, Run.value, run_compile, run_compile]
    -- the warnings are events
    exact hblind.value_eq (by simp)

/-- A file with entries of each kind and a key that means nothing, for an echo of texts: it is
compiled as it is without the key. With an entry that means nothing and an input that is refused,
the entry comes first. -/
theorem compile_all_or_nothing_echo :
    let t := (Handle.register "echo" 0 (fun _ s => ⟨.value s, [], 0⟩) .text .text
      (.custom fun v => ⟨if v.text? = some "" then ["empty"] else [], []⟩)).target
    let contains (s : String) : Descriptor := .call [("contains", .text s)]
    let f : RuleFile :=
      { name := none, target := "echo", forAll := [.bare "no_tools_called"]
        containing := [⟨"lamp", [contains "a"]⟩], cases := [⟨.text "lamp", [contains "l"]⟩]
        unknown := [("d", .null)] }
    let refused : RuleFile :=
      { f with cases := [⟨.text "lamp", [.bare "shines"]⟩, ⟨.text "", []⟩] }
    (∀ v, (t.validate v).Blind) ∧
    (∃ compiled, (f.compile t).run.value [] = .ok compiled ∧ f.Denotes compiled ∧
      ({ f with unknown := [] }.compile t).run.value [] = .ok compiled) ∧
    (refused.compile t).run.value [] = .error (.unknownPredicate "shines") := by
  intro t contains f refused
  obtain ⟨-, -, hdenotes, -, -, hunknown⟩ := compile_all_or_nothing f t []
  have hblind : ∀ v, (t.validate v).Blind := fun v => InputSchema.blind_consult _ v
  have hcompiled : (f.compile t).run.value [] = .ok f.compiled := rfl
  exact ⟨hblind, ⟨_, hcompiled, hdenotes _ hcompiled, (hunknown hblind []).trans hcompiled⟩, rfl⟩

end RuleFile
end CallCheck
