import CallCheck.Proofs.Accounts
import CallCheck.Proofs.Compilation
import Mathlib.Data.List.Forall2

/-!
# Runs that differ in what probes log and in times

Two journals are compared by what is left when the events of probes are taken out
(`Journal.silenced`), and up to times: how long a call or a suite took, and the limit that is
reported for a probe (`Entry.Alike`). Two runs are related (`Run.Related`) when, after the same
deeds, they give related values and add the same in that sense. A run that is related to itself
depends neither on what was logged before it nor on how long anything took.

The primitives of a run are related to themselves, sequencing keeps relations
(`Run.Related.bind`), and a probe may be silenced on one side and not on the other
(`Run.Related.probing`). So related targets have related compilations of rule files
(`Runner.related_compileFile`), and the targets of one function are related to themselves, however
long it takes (`Handle.alike_target`).
-/

namespace CallCheck

/-! ### Entries -/

/-- The event at the start of a probe with a limit in milliseconds. -/
def LogEvent.probing (label : String) (limit : Nat) : LogEvent :=
  ⟨.debug, "Probing", [("probe", label), ("timeout_ms", toString limit)]⟩

/-- The event at the end of a suite that took so many milliseconds. -/
def LogEvent.finished (name passed failed : String) (millis : Nat) : LogEvent :=
  ⟨.info, "Suite finished", [("suite", name), ("passed", passed), ("failed", failed),
    ("duration_ms", toString millis)]⟩

/-- Events that are the same but for the limit of a probe or the time of a suite. -/
inductive LogEvent.Alike : LogEvent → LogEvent → Prop where
  | refl (e : LogEvent) : Alike e e
  | probing (label : String) (limit limit' : Nat) :
    Alike (.probing label limit) (.probing label limit')
  | finished (name passed failed : String) (millis millis' : Nat) :
    Alike (.finished name passed failed millis) (.finished name passed failed millis')

namespace Entry

/-- Whether an entry is an event that was logged in a probe. -/
def isProbed : Entry → Bool
  | .logged inProbe _ => inProbe
  | _ => false

/-- Entries that are the same but for times. -/
inductive Alike : Entry → Entry → Prop where
  | logged (inProbe : Bool) {e e' : LogEvent} (h : e.Alike e') :
    Alike (.logged inProbe e) (.logged inProbe e')
  | called (function elapsed elapsed' : Nat) :
    Alike (.called function elapsed) (.called function elapsed')
  | consulted (input : Json) (told : Told (List String)) :
    Alike (.consulted input told) (.consulted input told)

variable {e e' : Entry}

theorem alike_refl (e : Entry) : e.Alike e := by
  cases e with
  | logged inProbe event => exact .logged inProbe (.refl event)
  | called function elapsed => exact .called function elapsed elapsed
  | consulted input told => exact .consulted input told

theorem Alike.isDeed_eq (h : e.Alike e') : e.isDeed = e'.isDeed := by
  cases h <;> rfl

theorem Alike.isProbed_eq (h : e.Alike e') : e.isProbed = e'.isProbed := by
  cases h <;> rfl

theorem Alike.isCallOf_eq (h : e.Alike e') (fn : Nat) : e.isCallOf fn = e'.isCallOf fn := by
  cases h <;> rfl

end Entry

namespace Journal

/-- The journal without the events of probes. -/
def silenced (j : Journal) : Journal := j.filter (!·.isProbed)

@[simp] theorem silenced_nil : silenced [] = [] := rfl

@[simp] theorem silenced_append (j j' : Journal) :
    (j ++ j').silenced = j.silenced ++ j'.silenced := List.filter_append j j'

@[simp] theorem silenced_ofEvents (es : List LogEvent) : (ofEvents es).silenced = ofEvents es :=
  List.filter_eq_self.mpr (forall_mem_ofEvents (fun _ => rfl) es)

@[simp] theorem events_append (j j' : Journal) : (j ++ j').events = j.events ++ j'.events :=
  List.filterMap_append

@[simp] theorem events_ofEvents (es : List LogEvent) : (ofEvents es).events = es := by
  rw [events, ofEvents, List.filterMap_map]
  exact List.filterMap_some

/-- Journals of entries that are the same but for times. -/
abbrev Alike (j j' : Journal) : Prop := List.Forall₂ Entry.Alike j j'

variable {j j' : Journal}

theorem alike_refl (j : Journal) : j.Alike j := List.forall₂_same.mpr fun e _ => e.alike_refl

theorem Alike.append {i i' : Journal} (h : i.Alike i') (h' : j.Alike j') :
    Alike (i ++ j) (i' ++ j') := List.rel_append h h'

theorem Alike.events (h : j.Alike j') : List.Forall₂ LogEvent.Alike j.events j'.events := by
  induction h with
  | nil => exact .nil
  | cons hentry _ ih =>
      cases hentry with
      | logged inProbe hevent => exact .cons hevent ih
      | called => exact ih
      | consulted => exact ih

theorem Alike.deeds (h : j.Alike j') : j.deeds.Alike j'.deeds :=
  List.rel_filter (fun _ _ hentry => Bool.eq_iff_iff.mp hentry.isDeed_eq) h

theorem Alike.silenced (h : j.Alike j') : j.silenced.Alike j'.silenced :=
  List.rel_filter (fun _ _ hentry => Bool.eq_iff_iff.mp (congrArg (!·) hentry.isProbed_eq)) h

theorem Alike.callsOf_eq (h : j.Alike j') (fn : Nat) : j.callsOf fn = j'.callsOf fn := by
  induction h with
  | nil => rfl
  | cons hentry _ ih =>
      rw [callsOf, callsOf, List.countP_cons, List.countP_cons, hentry.isCallOf_eq]
      exact congrArg (· + _) ih

/-- Silencing keeps the deeds. -/
theorem deeds_silenced (j : Journal) : j.silenced.deeds = j.deeds := by
  rw [deeds, deeds, silenced, List.filter_filter]
  refine List.filter_congr fun e _ => ?_
  cases e with
  | logged inProbe event => rfl
  | called => rfl
  | consulted => rfl

/-- Of what a probe adds, only the deeds are not silenced. -/
theorem silenced_filterMap_inProbe (quiet : Bool) (j : Journal) :
    silenced (j.filterMap (Run.inProbe quiet)) = j.deeds := by
  induction j with
  | nil => rfl
  | cons e j ih =>
      cases e with
      | logged inProbe event => cases quiet <;> exact ih
      | called function elapsed => exact congrArg (Entry.called function elapsed :: ·) ih
      | consulted input told => exact congrArg (Entry.consulted input told :: ·) ih

@[simp] theorem events_deeds (j : Journal) : j.deeds.events = [] := by
  rw [events, List.filterMap_eq_nil_iff]
  intro e he
  exact Option.isNone_iff_eq_none.mp (List.mem_filter.mp he).2

/-- Journals with the same deeds, however long they took. -/
def SameDeeds (j j' : Journal) : Prop := j.deeds.Alike j'.deeds

theorem sameDeeds_refl (j : Journal) : j.SameDeeds j := alike_refl j.deeds

theorem SameDeeds.append {i i' : Journal} (h : i.SameDeeds i')
    (h' : j.silenced.Alike j'.silenced) : SameDeeds (i ++ j) (i' ++ j') := by
  have hdeeds := h'.deeds
  rw [deeds_silenced, deeds_silenced] at hdeeds
  rw [SameDeeds, deeds_append, deeds_append]
  exact Alike.append h hdeeds

theorem SameDeeds.callsOf_eq (h : j.SameDeeds j') (fn : Nat) : j.callsOf fn = j'.callsOf fn := by
  rw [← callsOf_deeds, Alike.callsOf_eq h, callsOf_deeds]

end Journal

/-! ### Runs -/

namespace Run

variable {α β α' β' : Type} {R : α → α' → Prop} {S : β → β' → Prop}

/-- Two runs that, after the same deeds, give values in a relation and add the same but for the
events of probes and for times. -/
def Related (R : α → α' → Prop) (act : Run α) (act' : Run α') : Prop :=
  ∀ j j', j.SameDeeds j' → R (act.value j) (act'.value j') ∧
    ∃ added added', act.journal j = j ++ added ∧ act'.journal j' = j' ++ added' ∧
      added.silenced.Alike added'.silenced

/-- Two runs that give the same values, and add the same but for the events of probes and for
times. -/
abbrev Alike (act act' : Run α) : Prop := Related Eq act act'

theorem related_pure {a : α} {a' : α'} (h : R a a') : Related R (pure a) (pure a') := by
  intro j j' _
  exact ⟨h, [], [], by simp, by simp, .nil⟩

theorem Related.bind {act : Run α} {act' : Run α'} {f : α → Run β} {f' : α' → Run β'}
    (h : Related R act act') (hf : ∀ a a', R a a' → Related S (f a) (f' a')) :
    Related S (act >>= f) (act' >>= f') := by
  intro j j' hj
  obtain ⟨hvalue, first, first', hfirst, hfirst', halike⟩ := h j j' hj
  have hrest := hf _ _ hvalue (j ++ first) (j' ++ first') (hj.append halike)
  obtain ⟨hvalue', second, second', hsecond, hsecond', halike'⟩ := hrest
  rw [value_bind, value_bind, journal_bind, journal_bind, hfirst, hfirst']
  refine ⟨hvalue', first ++ second, first' ++ second', ?_, ?_, ?_⟩
  · rw [hsecond, List.append_assoc]
  · rw [hsecond', List.append_assoc]
  · rw [Journal.silenced_append, Journal.silenced_append]
    exact halike.append halike'

/-- Runs that are alike go on alike if they go on with the same value. -/
theorem Alike.bind {act act' : Run α} {f : α → Run β} {f' : α → Run β'} (h : Alike act act')
    (hf : ∀ a, Related S (f a) (f' a)) : Related S (act >>= f) (act' >>= f') :=
  Related.bind h fun a _ heq => heq ▸ hf a

theorem Related.map {act : Run α} {act' : Run α'} {f : α → β} {f' : α' → β'}
    (h : Related R act act') (hf : ∀ a a', R a a' → S (f a) (f' a')) :
    Related S (f <$> act) (f' <$> act') := by
  rw [map_eq_pure_bind, map_eq_pure_bind]
  exact h.bind fun a a' ha => related_pure (hf a a' ha)

theorem alike_record {e e' : Entry} (h : e.Alike e') : Alike (record e) (record e') := by
  intro j j' _
  exact ⟨rfl, [e], [e'], rfl, rfl, Journal.Alike.silenced (.cons h .nil)⟩

theorem alike_log {level : Level} {message : String} {fields fields' : List (String × String)}
    (h : LogEvent.Alike ⟨level, message, fields⟩ ⟨level, message, fields'⟩) :
    Alike (log level message fields) (log level message fields') :=
  alike_record (.logged false h)

theorem alike_tell (t : Told α) : Alike (tell t) (tell t) := by
  intro j j' _
  exact ⟨rfl, Journal.ofEvents t.events, Journal.ofEvents t.events, rfl, rfl,
    Journal.alike_refl _⟩

theorem alike_ask (check : Json → Told (List String)) (v : Json) :
    Alike (ask check v) (ask check v) :=
  (alike_record (.consulted v (check v))).bind fun _ => alike_tell (check v)

/-- The time does not count. -/
theorem related_clock : Related (fun _ _ => True) clock clock := by
  intro j j' _
  exact ⟨trivial, [], [], by simp, by simp, .nil⟩

/-- Probes may be silenced or not. -/
theorem Related.probing {act : Run α} {act' : Run α'} (h : Related R act act')
    (quiet quiet' : Bool) : Related R (probing quiet act) (probing quiet' act') := by
  intro j j' hj
  obtain ⟨hvalue, added, added', hadded, hadded', halike⟩ := h j j' hj
  refine ⟨hvalue, _, _, journal_probing hadded, journal_probing hadded', ?_⟩
  have hdeeds := halike.deeds
  rw [Journal.deeds_silenced, Journal.deeds_silenced] at hdeeds
  rw [Journal.silenced_filterMap_inProbe, Journal.silenced_filterMap_inProbe]
  exact hdeeds

/-- The same for each of several elements. -/
theorem related_mapM {Q : α → α' → Prop} {act : α → Run β} {act' : α' → Run β'}
    (h : ∀ a a', Q a a' → Related S (act a) (act' a')) {as : List α} {as' : List α'}
    (has : List.Forall₂ Q as as') :
    Related (List.Forall₂ S) (as.mapM act) (as'.mapM act') := by
  induction has with
  | nil => exact related_pure .nil
  | cons ha _ ih =>
      rw [List.mapM_cons, List.mapM_cons]
      refine (h _ _ ha).bind fun b b' hb => ih.bind fun bs bs' hbs => ?_
      exact related_pure (.cons hb hbs)

end Run

/-! ### Targets -/

/-- Two targets that are told apart only by what they log in probes and by times. -/
structure Target.Alike (t t' : Target) : Prop where
  name : t.name = t'.name
  rules : t.rules = t'.rules
  cases : t.cases = t'.cases
  validate : ∀ v, (t.validate v).Alike (t'.validate v)
  probe : ∀ v, (t.probe v).Alike (t'.probe v)

theorem InputSchema.alike_consult (s : InputSchema) (v : Json) :
    (s.consult v).Alike (s.consult v) := by
  have herrors : (s.errors v).Alike (s.errors v) := by
    cases s with
    | any => exact Run.related_pure rfl
    | json document => exact Run.related_pure rfl
    | custom check => exact Run.alike_ask check v
  exact herrors.bind fun _ => Run.related_pure rfl

/-- Two functions that answer and log the same, however long they take. -/
def Subject.Alike {ι ο : Type} (subject subject' : Subject ι ο) : Prop :=
  ∀ n input, (subject n input).outcome = (subject' n input).outcome ∧
    (subject n input).events = (subject' n input).events

namespace Handle

variable {ι ο : Type} (h : Handle ι ο) {subject : Subject ι ο}

theorem alike_call (hsubject : h.subject.Alike subject) (input : ι) :
    (h.call input).Alike ({ h with subject }.call input) := by
  intro j j' hj
  obtain ⟨houtcome, hevents⟩ := hsubject (j.callsOf h.number) input
  have hcalls : j'.callsOf h.number = j.callsOf h.number := (hj.callsOf_eq h.number).symm
  have hreply : { h with subject }.replyAfter j' input = subject (j.callsOf h.number) input :=
    congrArg (subject · input) hcalls
  refine ⟨?_, h.callEntries (h.replyAfter j input), _, h.journal_call input j,
    { h with subject }.journal_call input j', ?_⟩
  · rw [value_call, value_call, hreply, returned, returned, replyAfter, houtcome]
  · rw [hreply, callEntries, callEntries, replyAfter, hevents]
    exact .cons (.called ..) (Journal.alike_refl _)

/-- The targets of functions that answer and log the same are alike. -/
theorem alike_target (hsubject : h.subject.Alike subject) :
    h.target.Alike { h with subject }.target := by
  refine ⟨rfl, rfl, rfl, h.schema.alike_consult, fun v => ?_⟩
  show (h.probe v).Alike ({ h with subject }.probe v)
  rw [probe, probe]
  cases h.input.decode v with
  | error reason => exact Run.related_pure rfl
  | ok typed =>
      refine (h.alike_call hsubject typed).bind fun answer => ?_
      cases answer with
      | error fault => exact Run.related_pure rfl
      | ok output =>
          dsimp only
          cases h.output.encode output with
          | ok raw => exact Run.related_pure rfl
          | error reason => exact Run.related_pure rfl

end Handle

/-! ### Rule files -/

namespace RuleFile

variable {t t' : Target}

theorem Item.alike_fault? (h : t.Alike t') (item : Item) :
    (item.fault? t).Alike (item.fault? t') := by
  cases item with
  | entry e =>
      rw [fault?, fault?]
      cases e.resolve with
      | ok p => exact Run.related_pure rfl
      | error fault => exact Run.related_pure rfl
  | input v =>
      refine (h.validate v).bind fun verdict => ?_
      cases verdict with
      | ok _ => exact Run.related_pure rfl
      | error fault => exact Run.related_pure rfl

theorem alike_firstFault? (h : t.Alike t') (items : List Item) :
    (firstFault? t items).Alike (firstFault? t' items) := by
  induction items with
  | nil => exact Run.related_pure rfl
  | cons item rest ih =>
      refine (item.alike_fault? h).bind fun found => ?_
      cases found with
      | some fault => exact Run.related_pure rfl
      | none => exact ih

theorem alike_compile (h : t.Alike t') (f : RuleFile) :
    Run.Alike (f.compile t).run (f.compile t').run := by
  rw [compile_eq_tell, compile_eq_tell]
  exact (Run.alike_tell _).bind fun _ =>
    (alike_firstFault? h f.items).map fun found _ hfound => hfound ▸ rfl

end RuleFile

namespace Registry

/-- Registries find targets that are alike, if any. -/
theorem rel_target? {r r' : Registry} (h : List.Forall₂ Target.Alike r.latest r'.latest)
    (name : String) : Option.Rel Target.Alike (r.target? name) (r'.target? name) := by
  rw [target?, target?]
  generalize r.latest = ts at h ⊢
  generalize r'.latest = ts' at h ⊢
  induction h with
  | nil => exact .none
  | @cons t t' _ _ ht _ ih =>
      rw [List.find?_cons, List.find?_cons, ← ht.name]
      cases t.name == name with
      | true => exact .some ht
      | false => exact ih

end Registry

namespace Runner

/-- Results of a compilation that are the same but for targets that are alike. -/
def SameCompiled :
    Except Fault (Target × RuleFile.Compiled) → Except Fault (Target × RuleFile.Compiled) → Prop
  | .ok (t, compiled), .ok (t', compiled') => t.Alike t' ∧ compiled = compiled'
  | .error fault, .error fault' => fault = fault'
  | _, _ => False

theorem related_compileFile {registry registry' : Registry}
    (h : List.Forall₂ Target.Alike registry.latest registry'.latest) (f : RuleFile) :
    Run.Related SameCompiled (compileFile registry f) (compileFile registry' f) := by
  rw [compileFile, compileFile]
  have htargets := Registry.rel_target? h f.target
  generalize registry.target? f.target = found at htargets ⊢
  generalize registry'.target? f.target = found' at htargets ⊢
  cases htargets with
  | none => exact Run.related_pure rfl
  | some ht =>
      refine (RuleFile.alike_compile ht f).bind fun result => ?_
      cases result with
      | error fault => exact Run.related_pure rfl
      | ok compiled => exact Run.related_pure ⟨ht, rfl⟩

end Runner
end CallCheck
