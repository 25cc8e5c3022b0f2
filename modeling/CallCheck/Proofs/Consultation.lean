import CallCheck.Proofs.Compilation
import CallCheck.Proofs.Registry

/-!
# When a schema is consulted

A check given as code tells what it finds wrong and logs events. Each consultation of one is in the
journal with both, and its events stand right behind it (`Journal.Tells`). A run asks
(`Run.Asks`) when consultations are all that it adds, and it consults (`Run.Consults`) when these are
the consultations among what it adds. Sequencing two runs puts them one after another, so every
operation is known by its parts: a schema asks its check once (`InputSchema.asks_consult`), calls and
probes consult nothing (`Handle.adds_checkedCall`, `Handle.adds_probe`), and a rule file is compiled
by asking about one case after another up to the first that stops it (`RuleFile.journal_compile`).
-/

namespace CallCheck

/-! ### Consultations in a journal -/

/-- An input that a check was asked about, with what the check told. -/
structure Consultation where
  input : Json
  told : Told (List String)

/-- What a consultation leaves in a journal: itself, and then the events that the check told. -/
def Consultation.entries (c : Consultation) : Journal :=
  .consulted c.input c.told :: Journal.ofEvents c.told.events

def Entry.consultation? : Entry → Option Consultation
  | .consulted v told => some ⟨v, told⟩
  | _ => none

def Entry.Unconsulted (e : Entry) : Prop := e.consultation? = none

theorem Entry.unconsulted_logged (inProbe : Bool) (event : LogEvent) :
    (Entry.logged inProbe event).Unconsulted := rfl

namespace Journal

variable {j k : Journal} {cs ds : List Consultation}

/-- Whether a journal has these consultations and no others, in order. Each is followed at once by
the events that the check told. -/
inductive Tells : Journal → List Consultation → Prop where
  | nil : Tells [] []
  | other {e : Entry} {j : Journal} {cs : List Consultation} (he : e.Unconsulted)
      (h : Tells j cs) : Tells (e :: j) cs
  | consulted {j : Journal} {cs : List Consultation} (c : Consultation) (h : Tells j cs) :
      Tells (c.entries ++ j) (c :: cs)

theorem tells_nil (h : ∀ e ∈ j, e.Unconsulted) : j.Tells [] := by
  induction j with
  | nil => exact .nil
  | cons e j ih =>
      obtain ⟨he, hj⟩ := List.forall_mem_cons.mp h
      exact .other he (ih hj)

theorem tells_ofEvents (es : List LogEvent) : (ofEvents es).Tells [] :=
  tells_nil (forall_mem_ofEvents (Entry.unconsulted_logged false) es)

theorem Tells.append (h : j.Tells cs) (hk : k.Tells ds) : Tells (j ++ k) (cs ++ ds) := by
  induction h with
  | nil => exact hk
  | other he _ ih => exact .other he ih
  | consulted c _ ih =>
      rw [List.append_assoc]
      exact .consulted c ih

theorem tells_entries (cs : List Consultation) : Tells (cs.flatMap Consultation.entries) cs := by
  induction cs with
  | nil => exact .nil
  | cons c cs ih => exact .consulted c ih

def consultations (j : Journal) : List Consultation := j.filterMap Entry.consultation?

/-- There is only one list of consultations that a journal has. -/
theorem Tells.consultations_eq (h : j.Tells cs) : j.consultations = cs := by
  induction h with
  | nil => rfl
  | other he _ ih => exact (List.filterMap_cons_none he).trans ih
  | @consulted j cs c _ ih =>
      have hevents : (ofEvents c.told.events).consultations = [] :=
        List.filterMap_eq_nil_iff.mpr
          (forall_mem_ofEvents (Entry.unconsulted_logged false) c.told.events)
      show c :: List.filterMap Entry.consultation? (ofEvents c.told.events ++ j) = c :: cs
      rw [List.filterMap_append]
      exact congrArg (c :: ·) ((congrArg (· ++ _) hevents).trans ih)

end Journal

namespace Run

variable {α β : Type} {cs ds : List Consultation}

/-- A run that adds these consultations with their events to its journal, and nothing else. -/
def Asks (act : Run α) (cs : List Consultation) : Prop :=
  ∀ j, act.journal j = j ++ cs.flatMap Consultation.entries

theorem asks_pure (a : α) : (pure a : Run α).Asks [] := fun j => (List.append_nil j).symm

/-- One run after another: only what the first can give has to be looked at. -/
theorem Asks.bind {act : Run α} {f : α → Run β} (h : act.Asks cs)
    (hf : ∀ j, (f (act.value j)).Asks ds) : (act >>= f).Asks (cs ++ ds) := by
  intro j
  rw [journal_bind, hf, h, List.flatMap_append, List.append_assoc]

theorem Asks.map {act : Run α} (h : act.Asks cs) (f : α → β) : (f <$> act).Asks cs := h

theorem asks_ask (check : Json → Told (List String)) (v : Json) :
    (ask check v).Asks [⟨v, check v⟩] := by
  intro j
  show j ++ [.consulted v (check v)] ++ Journal.ofEvents (check v).events = _
  rw [List.append_assoc, List.flatMap_singleton]
  rfl

/-- A run that adds these consultations, in order, and whatever else. -/
def Consults (act : Run α) (cs : List Consultation) : Prop :=
  ∀ j, ∃ added, act.journal j = j ++ added ∧ added.Tells cs

theorem Asks.consults {act : Run α} (h : act.Asks cs) : act.Consults cs :=
  fun j => ⟨_, h j, Journal.tells_entries cs⟩

/-- A run that adds no consultation consults about nothing. -/
theorem Adds.consults_nil {act : Run α} (h : act.Adds Entry.Unconsulted) : act.Consults [] := by
  intro j
  obtain ⟨added, hadded, hall⟩ := h j
  exact ⟨added, hadded, Journal.tells_nil hall⟩

theorem consults_pure (a : α) : (pure a : Run α).Consults [] := (adds_pure a).consults_nil

theorem Consults.bind {act : Run α} {f : α → Run β} (h : act.Consults cs)
    (hf : ∀ j, (f (act.value j)).Consults ds) : (act >>= f).Consults (cs ++ ds) := by
  intro j
  obtain ⟨first, hfirst, htold⟩ := h j
  obtain ⟨second, hsecond, htold'⟩ := hf j (act.journal j)
  refine ⟨first ++ second, ?_, htold.append htold'⟩
  rw [journal_bind, hsecond, hfirst, List.append_assoc]

theorem Consults.bind_of_value {act : Run α} {f : α → Run β} {a : α} (h : act.Consults cs)
    (ha : ∀ j, act.value j = a) (hf : (f a).Consults ds) : (act >>= f).Consults (cs ++ ds) := by
  refine h.bind fun j => ?_
  rw [ha]
  exact hf

theorem Consults.map {act : Run α} (h : act.Consults cs) (f : α → β) : (f <$> act).Consults cs := h

theorem consults_mapM {act : α → Run β} {g : α → List Consultation} {as : List α}
    (h : ∀ a ∈ as, (act a).Consults (g a)) : (as.mapM act).Consults (as.flatMap g) := by
  induction as with
  | nil => exact consults_pure []
  | cons a as ih =>
      obtain ⟨ha, has⟩ := List.forall_mem_cons.mp h
      rw [List.mapM_cons, List.flatMap_cons]
      refine ha.bind fun j => ?_
      exact (ih has).map _

/-- Marking events or leaving them out adds no consultation. -/
theorem Adds.probing {act : Run α} (h : act.Adds Entry.Unconsulted) (quiet : Bool) :
    (probing quiet act).Adds Entry.Unconsulted := by
  intro j
  obtain ⟨added, hadded, hall⟩ := h j
  refine ⟨added.filterMap (inProbe quiet), journal_probing hadded, ?_⟩
  intro e he
  obtain ⟨entry, hentry, hmarked⟩ := List.mem_filterMap.mp he
  cases entry with
  | logged marked event =>
      cases quiet with
      | true => cases hmarked
      | false => cases hmarked; rfl
  | called function elapsed => cases hmarked; rfl
  | consulted v told => cases hall _ hentry

end Run

/-! ### Handles -/

/-- The consultation that consulting a schema about a value is: a check given as code is asked once,
and other schemas ask no code. -/
def InputSchema.asked : InputSchema → Json → List Consultation
  | .custom check, v => [⟨v, check v⟩]
  | _, _ => []

theorem InputSchema.asks_consult (s : InputSchema) (v : Json) : (s.consult v).Asks (s.asked v) := by
  have herrors : (s.errors v).Asks (s.asked v) := by
    cases s with
    | any => exact Run.asks_pure []
    | json document => exact Run.asks_pure _
    | custom check => exact Run.asks_ask check v
  rw [← List.append_nil (s.asked v)]
  exact herrors.bind fun _ => Run.asks_pure _

namespace Handle

variable {ι ο : Type} (h : Handle ι ο)

theorem unconsulted_callEntries (reply : Reply ο) :
    ∀ e ∈ h.callEntries reply, e.Unconsulted :=
  List.forall_mem_cons.mpr
    ⟨rfl, Journal.forall_mem_ofEvents (Entry.unconsulted_logged false) reply.events⟩

theorem adds_call (input : ι) : (h.call input).Adds Entry.Unconsulted :=
  fun j => ⟨_, h.journal_call input j, h.unconsulted_callEntries _⟩

/-- Checked calls consult no schema. -/
theorem adds_checkedCall (input : ι) : (h.checkedCall input).Adds Entry.Unconsulted := by
  intro j
  have hevents : ∀ es, ∀ e ∈ Journal.ofEvents es, e.Unconsulted :=
    Journal.forall_mem_ofEvents (Entry.unconsulted_logged false)
  have hcalled : ∀ e ∈ h.calledEntries input (h.replyAfter j input), e.Unconsulted :=
    List.forall_mem_append.mpr ⟨hevents _, h.unconsulted_callEntries _⟩
  cases hreply : returned (h.replyAfter j input) with
  | error fault => exact ⟨_, (h.checkedCall_of_fault hreply).2, hcalled⟩
  | ok output =>
      have hjournal := (h.checkedCall_of_returned hreply).2
      rw [List.append_assoc] at hjournal
      exact ⟨_, hjournal, List.forall_mem_append.mpr ⟨hcalled, hevents _⟩⟩

/-- Probes consult no schema. -/
theorem adds_probe (input : Json) : (h.probe input).Adds Entry.Unconsulted := by
  rw [probe]
  cases h.input.decode input with
  | error reason => exact Run.adds_pure _
  | ok typed =>
      refine (h.adds_call typed).bind fun answer => ?_
      cases answer with
      | error fault => exact Run.adds_pure _
      | ok output =>
          dsimp only
          cases h.output.encode output with
          | ok v => exact Run.adds_pure _
          | error reason => exact Run.adds_pure _

end Handle

namespace Target

variable {t : Target}

/-- Whether a target accepts an input, asked first of all. -/
def accepts (t : Target) (v : Json) : Bool := ((t.validate v).value []).toOption.isSome

theorem accepts_target {ι ο : Type} (h : Handle ι ο) (v : Json) :
    h.target.accepts v = h.schema.accepts v := by
  show ((h.schema.consult v).value []).toOption.isSome = _
  rw [InputSchema.value_consult]
  cases h.schema.accepts v with
  | true => rfl
  | false => rfl

/-- The consultations that come of handing an input to a target for validation, first of all. -/
def asked (t : Target) (v : Json) : List Consultation := ((t.validate v).journal []).consultations

theorem asked_target {ι ο : Type} (h : Handle ι ο) (v : Json) :
    h.target.asked v = h.schema.asked v := by
  obtain ⟨added, hadded, htold⟩ := (h.schema.asks_consult v).consults []
  rw [List.nil_append] at hadded
  show ((h.schema.consult v).journal []).consultations = _
  rw [hadded, htold.consultations_eq]

theorem OfHandle.asks_validate (ht : t.OfHandle) (v : Json) : (t.validate v).Asks (t.asked v) := by
  obtain ⟨ι, ο, h, rfl⟩ := ht
  rw [asked_target]
  exact h.schema.asks_consult v

/-- What a schema says of an input does not depend on what was done before. -/
theorem OfHandle.value_validate (ht : t.OfHandle) (v : Json) (j : Journal) :
    (t.validate v).value j = (t.validate v).value [] := by
  obtain ⟨ι, ο, h, rfl⟩ := ht
  show (h.schema.consult v).value j = (h.schema.consult v).value []
  rw [InputSchema.value_consult, InputSchema.value_consult]

theorem OfHandle.adds_probing (ht : t.OfHandle) (quiet : Bool) (v : Json) :
    (Run.probing quiet (t.probe v)).Adds Entry.Unconsulted := by
  obtain ⟨ι, ο, h, rfl⟩ := ht
  exact (h.adds_probe v).probing quiet

end Target

/-! ### Rule files -/

namespace RuleFile

def resolves (ds : List Descriptor) : Bool := ds.all (·.resolve.toOption.isSome)

/-- Whether a case can be compiled: the target accepts its input and its entries mean predicates. -/
def CaseEntry.compiles (t : Target) (e : CaseEntry) : Bool :=
  t.accepts e.input && resolves e.expect

/-- The entries for every input and for texts in the input, which are compiled first. -/
def leading (f : RuleFile) : List Descriptor := f.forAll ++ f.containing.flatMap (·.expect)

/-- The consultations of a target when a file is compiled: about the inputs of the cases, up to the
first that cannot be compiled. If an entry before the cases means nothing, there are none. -/
def consulted (f : RuleFile) (t : Target) : List Consultation :=
  if resolves f.leading then
    (f.cases.takeWhile (·.compiles t) ++ (f.cases.dropWhile (·.compiles t)).take 1).flatMap
      fun e => t.asked e.input
  else []

variable {t : Target}

/-- Looking at entries does nothing, and finds a fault unless they all mean predicates. -/
theorem firstFault?_entries (t : Target) (ds : List Descriptor) :
    ∃ found, firstFault? t (ds.map .entry) = pure found ∧ (found = none ↔ resolves ds = true) := by
  induction ds with
  | nil => exact ⟨none, rfl, by simp [resolves]⟩
  | cons e ds ih =>
      rw [List.map_cons, firstFault?, Item.fault?]
      cases he : e.resolve with
      | error fault => exact ⟨some fault, rfl, by simp [resolves, he, Except.toOption]⟩
      | ok p =>
          obtain ⟨found, hfound, hnone⟩ := ih
          refine ⟨found, hfound, ?_⟩
          rw [hnone]
          simp [resolves, he, Except.toOption]

/-- What comes after entries that mean predicates is looked at. -/
theorem asks_firstFault?_entries {ds : List Descriptor} {rest : List Item} {cs : List Consultation}
    (hresolves : resolves ds = true) (h : (firstFault? t rest).Asks cs) :
    (firstFault? t (ds.map .entry ++ rest)).Asks cs := by
  obtain ⟨found, hfound, hnone⟩ := firstFault?_entries t ds
  rw [firstFault?_append, hfound, pure_bind, hnone.mpr hresolves]
  exact h

/-- An entry that means nothing stops a file before what comes after the entries. -/
theorem asks_firstFault?_of_not_resolves {ds : List Descriptor} (hresolves : resolves ds = false)
    (rest : List Item) : (firstFault? t (ds.map .entry ++ rest)).Asks [] := by
  obtain ⟨found, hfound, hnone⟩ := firstFault?_entries t ds
  obtain ⟨fault, rfl⟩ := Option.ne_none_iff_exists'.mp (mt hnone.mp (by simp [hresolves]))
  rw [firstFault?_append, hfound, pure_bind]
  exact Run.asks_pure _

/-- The target is consulted once about an input that it accepts, before what comes after. -/
theorem asks_firstFault?_input (ht : t.OfHandle) {v : Json} {rest : List Item}
    {cs : List Consultation} (haccepts : t.accepts v = true) (h : (firstFault? t rest).Asks cs) :
    (firstFault? t (.input v :: rest)).Asks (t.asked v ++ cs) := by
  rw [firstFault?, Item.fault?, bind_assoc]
  rw [Target.accepts] at haccepts
  refine (ht.asks_validate v).bind fun j => ?_
  rw [ht.value_validate v j]
  cases hverdict : (t.validate v).value [] with
  | error fault =>
      rw [hverdict] at haccepts
      cases haccepts
  | ok _ => exact h

/-- An input that the target refuses stops a file once the target was consulted about it. -/
theorem asks_firstFault?_of_not_accepts (ht : t.OfHandle) {v : Json}
    (haccepts : t.accepts v = false) (rest : List Item) :
    (firstFault? t (.input v :: rest)).Asks (t.asked v) := by
  rw [firstFault?, Item.fault?, bind_assoc, ← List.append_nil (t.asked v)]
  rw [Target.accepts] at haccepts
  refine (ht.asks_validate v).bind fun j => ?_
  rw [ht.value_validate v j]
  cases hverdict : (t.validate v).value [] with
  | error fault => exact Run.asks_pure _
  | ok _ =>
      rw [hverdict] at haccepts
      cases haccepts

/-- The target is consulted about the input of one case after another, up to the first that cannot
be compiled. -/
theorem asks_firstFault?_cases (ht : t.OfHandle) (es : List CaseEntry) :
    (firstFault? t (es.flatMap fun e => .input e.input :: e.expect.map .entry)).Asks
      ((es.takeWhile (·.compiles t) ++ (es.dropWhile (·.compiles t)).take 1).flatMap
        fun e => t.asked e.input) := by
  induction es with
  | nil => exact Run.asks_pure none
  | cons e es ih =>
      have hcompiles : e.compiles t = (t.accepts e.input && resolves e.expect) := rfl
      have hself : t.asked e.input = [e].flatMap fun e => t.asked e.input :=
        (List.flatMap_singleton ..).symm
      rw [List.flatMap_cons, List.cons_append, List.takeWhile_cons, List.dropWhile_cons]
      cases haccepts : t.accepts e.input with
      | false =>
          rw [haccepts, Bool.false_and] at hcompiles
          simp only [hcompiles]
          exact hself ▸ asks_firstFault?_of_not_accepts ht haccepts _
      | true =>
          rw [haccepts, Bool.true_and] at hcompiles
          cases hresolves : resolves e.expect with
          | false =>
              simp only [hcompiles, hresolves]
              refine hself ▸ List.append_nil (t.asked e.input) ▸
                asks_firstFault?_input ht haccepts ?_
              exact asks_firstFault?_of_not_resolves hresolves _
          | true =>
              simp only [hcompiles, hresolves, if_true]
              rw [List.cons_append, List.flatMap_cons]
              refine asks_firstFault?_input ht haccepts ?_
              exact asks_firstFault?_entries hresolves ih

/-- The items of a file are its leading entries, and then for each case its input and its entries. -/
theorem items_eq_leading (f : RuleFile) :
    f.items = f.leading.map .entry ++
      f.cases.flatMap fun e => .input e.input :: e.expect.map .entry := by
  simp [items, leading, List.map_flatMap]

/-- A file is compiled by logging its warnings and consulting the target about one case after
another, up to the one that stops it. -/
theorem journal_compile (ht : t.OfHandle) (f : RuleFile) (j : Journal) :
    (f.compile t).run.journal j =
      j ++ Journal.ofEvents f.warnings ++ (f.consulted t).flatMap Consultation.entries := by
  have hfirst : (firstFault? t f.items).Asks (f.consulted t) := by
    rw [items_eq_leading, consulted]
    cases hresolves : resolves f.leading with
    | true => exact asks_firstFault?_entries hresolves (asks_firstFault?_cases ht f.cases)
    | false => exact asks_firstFault?_of_not_resolves hresolves _
  rw [compile_eq_tell, Run.journal_bind, Run.journal_map, hfirst, Run.journal_tell]

theorem consults_compile (ht : t.OfHandle) (f : RuleFile) :
    (f.compile t).run.Consults (f.consulted t) := by
  intro j
  refine ⟨_, (journal_compile ht f j).trans (List.append_assoc ..), ?_⟩
  exact (Journal.tells_ofEvents f.warnings).append (Journal.tells_entries _)

def Item.passes (t : Target) : Item → Bool
  | .entry e => e.resolve.toOption.isSome
  | .input v => t.accepts v

theorem value_fault?_eq_none_iff (ht : t.OfHandle) (item : Item) (j : Journal) :
    (item.fault? t).value j = none ↔ item.passes t = true := by
  cases item with
  | entry e =>
      rw [Item.fault?, Item.passes]
      cases e.resolve with
      | ok p => exact iff_of_true rfl rfl
      | error fault => exact iff_of_false (Option.some_ne_none _) Bool.false_ne_true
  | input v =>
      rw [Item.passes, Target.accepts, ← ht.value_validate v j, value_fault?_input]
      cases (t.validate v).value j with
      | ok _ => exact iff_of_true rfl rfl
      | error fault =>
          refine iff_of_false ?_ Bool.false_ne_true
          rintro ⟨⟩

/-- A file is compiled exactly if none of its entries and cases stops it. -/
theorem compiles_iff (ht : t.OfHandle) (f : RuleFile) (j : Journal) :
    (∃ compiled, (f.compile t).run.value j = .ok compiled) ↔
      resolves f.leading = true ∧ ∀ e ∈ f.cases, e.compiles t = true := by
  have hnone : (∃ compiled, (f.compile t).run.value j = .ok compiled) ↔
      ∀ item ∈ f.items, item.passes t = true := by
    simp only [value_compile, unlessFault_eq_ok_iff, exists_and_left, exists_eq', and_true]
    rw [value_firstFault?, List.findSome?_eq_none_iff]
    simp only [value_fault?_eq_none_iff ht]
    rw [← List.forall_mem_map (f := Prod.fst) (P := fun item : Item => item.passes t = true),
      Run.map_fst_visits]
  rw [hnone, items_eq_leading]
  simp only [List.forall_mem_append, List.forall_mem_map, List.forall_mem_flatMap,
    List.forall_mem_cons, Item.passes, resolves, CaseEntry.compiles, List.all_eq_true,
    Bool.and_eq_true]

end RuleFile

end CallCheck
