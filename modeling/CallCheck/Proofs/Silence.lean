import CallCheck.Proofs.Alike

/-!
# Silenced probes

Whether probes are silenced, and which limit they are told, shows in nothing but the log. Two runs
under configurations that differ in these settings alone go through the same deeds, so every suite
counts the same (`Runner.related_run`). Of the events, those that the functions emit in their probes
are all that is missing when probes are silenced: a probe ends its silence however its function
ends, and the events before it and of the judgement after it are emitted
(`Runner.unprobedEvents_probeInputs`). `Runner.silence_shows_in_the_log_alone` has both.
-/

namespace CallCheck

/-- The configuration with other settings of probes: whether they are silenced, and their limit. -/
def Config.probing (c : Config) (quiet : Bool) (limit : Nat) : Config :=
  { c with quietProbes := quiet, timeoutMillis := limit }

/-- Sources of targets that are alike, or of the same file. -/
inductive Source.Alike : Source → Source → Prop where
  | registered {ts ts' : List Target} (h : List.Forall₂ Target.Alike ts ts') :
    Alike (.registered ts) (.registered ts')
  | file (path : Path) : Alike (.file path) (.file path)

/-- Suites of one name whose sources are alike. -/
structure Suite.Alike (s s' : Suite) : Prop where
  name : s.name = s'.name
  source : s.source.Alike s'.source

/-- Results that are the same but for the time that the suite took. -/
structure SuiteResult.Alike (r r' : SuiteResult) : Prop extends r.SameCounts r' where
  name : r.name = r'.name

/-- A target that validates inputs outside of its probes. -/
def Target.ValidatesOpenly (t : Target) : Prop :=
  ∀ v, (t.validate v).Adds fun e => e.isProbed = false

/-- Handles are told apart from themselves by nothing, and their schemas are no probes. -/
theorem Target.OfHandle.alike_validatesOpenly {t : Target} (ht : t.OfHandle) :
    t.Alike t ∧ t.ValidatesOpenly := by
  have hopen : t.ValidatesOpenly := fun v => ht.adds_validate (fun _ => rfl) fun _ => rfl
  obtain ⟨ι, ο, h, rfl⟩ := ht
  have hsubject : h.subject.Alike h.subject := fun _ _ => ⟨rfl, rfl⟩
  exact ⟨h.alike_target hsubject, hopen⟩

namespace Journal

def unprobedEvents (j : Journal) : List LogEvent := j.silenced.events

@[simp] theorem unprobedEvents_append (j j' : Journal) :
    (j ++ j').unprobedEvents = j.unprobedEvents ++ j'.unprobedEvents := by
  rw [unprobedEvents, silenced_append, events_append]
  rfl

@[simp] theorem unprobedEvents_ofEvents (es : List LogEvent) :
    (ofEvents es).unprobedEvents = es := by
  rw [unprobedEvents, silenced_ofEvents, events_ofEvents]

/-- A probe logs nothing outside of it. -/
@[simp] theorem unprobedEvents_probing {α : Type} (quiet : Bool) (act : Run α) (j : Journal) :
    ((Run.probing quiet act).journal j).unprobedEvents = j.unprobedEvents := by
  show (j ++ ((act.journal j).drop j.length).filterMap (Run.inProbe quiet)).unprobedEvents = _
  rw [unprobedEvents_append, unprobedEvents, unprobedEvents, silenced_filterMap_inProbe,
    events_deeds, List.append_nil]

end Journal

namespace Runner

variable {c : Config} {t t' : Target} {d : File.Disk} {registry registry' : Registry}

/-! ### Probes -/

/-- Probes of targets that are alike come to the same, silenced or not. -/
theorem alike_probeInput (ht : t.Alike t') (quiet quiet' : Bool) (limit limit' : Nat)
    (rules : List Rule) (cases : List Case) (input : Json) :
    (probeInput (c.probing quiet limit) t rules cases input).Alike
      (probeInput (c.probing quiet' limit') t' rules cases input) := by
  have hevent : LogEvent.Alike (.probing (label t.name input) limit)
      (.probing (label t'.name input) limit') := ht.name ▸ .probing _ limit limit'
  refine (Run.alike_log hevent).bind fun _ => ?_
  refine ((ht.probe input).probing quiet quiet').bind fun answer answer' hanswer => ?_
  cases hanswer
  cases answer with
  | error fault =>
      rw [ht.name]
      exact Run.related_pure rfl
  | ok raw =>
      -- neither the silence nor the limit plays a part in what is checked
      refine (Run.alike_tell _).bind fun fs => ?_
      rw [ht.name]
      cases fs with
      | nil => exact Run.related_pure rfl
      | cons f fs => exact Run.related_pure rfl

theorem alike_probeInputs (ht : t.Alike t') (quiet quiet' : Bool) (limit limit' : Nat)
    (rules : List Rule) (cases : List Case) (inputs : List Json) (r : SuiteResult) :
    (probeInputs (c.probing quiet limit) t rules cases inputs r).Alike
      (probeInputs (c.probing quiet' limit') t' rules cases inputs r) := by
  induction inputs generalizing r with
  | nil => exact Run.related_pure rfl
  | cons input rest ih =>
      rw [probeInputs, probeInputs]
      exact (alike_probeInput ht quiet quiet' limit limit' rules cases input).bind fun line =>
        ih (count r line)

theorem alike_probeTargets {ts ts' : List Target} (hts : List.Forall₂ Target.Alike ts ts')
    (quiet quiet' : Bool) (limit limit' : Nat) (r : SuiteResult) :
    (probeTargets (c.probing quiet limit) ts r).Alike
      (probeTargets (c.probing quiet' limit') ts' r) := by
  induction hts generalizing r with
  | nil => exact Run.related_pure rfl
  | @cons t t' _ _ ht _ ih =>
      rw [probeTargets, probeTargets, probeTarget, probeTarget, ← ht.rules, ← ht.cases]
      exact (alike_probeInputs ht quiet quiet' limit limit' _ _ _ r).bind fun r => ih r

/-! ### Suites -/

theorem alike_runSource {s s' : Suite} (hs : s.Alike s')
    (hregistry : List.Forall₂ Target.Alike registry.latest registry'.latest)
    (quiet quiet' : Bool) (limit limit' : Nat) :
    (runSource d registry (c.probing quiet limit) s).Alike
      (runSource d registry' (c.probing quiet' limit') s') := by
  obtain ⟨name, source⟩ := s
  obtain ⟨name', source'⟩ := s'
  obtain ⟨hname, hsource⟩ := hs
  obtain rfl : name = name' := hname
  cases hsource with
  | registered hts => exact alike_probeTargets hts quiet quiet' limit limit' _
  | file path =>
      rw [runSource, runSource]
      dsimp only
      cases RuleFile.load d path with
      | error fault => exact Run.related_pure rfl
      | ok f =>
          refine (related_compileFile hregistry f).bind fun result result' hresult => ?_
          cases result with
          | error fault =>
              cases result' with
              | error fault' =>
                  obtain rfl : fault = fault' := hresult
                  exact Run.related_pure rfl
              | ok found' => exact hresult.elim
          | ok found =>
              cases result' with
              | error fault' => exact hresult.elim
              | ok found' =>
                  obtain ⟨ht, hcompiled⟩ := hresult
                  dsimp only
                  rw [← hcompiled]
                  exact alike_probeInputs ht quiet quiet' limit limit' _ _ _ _

theorem related_runSuite {s s' : Suite} (hs : s.Alike s')
    (hregistry : List.Forall₂ Target.Alike registry.latest registry'.latest)
    (quiet quiet' : Bool) (limit limit' : Nat) :
    Run.Related SuiteResult.Alike (runSuite d registry (c.probing quiet limit) s)
      (runSuite d registry' (c.probing quiet' limit') s') := by
  rw [runSuite, runSuite]
  refine Run.related_clock.bind fun start start' _ => ?_
  have hrunning : LogEvent.Alike (runningEvent s) (runningEvent s') := by
    rw [runningEvent, runningEvent, hs.name]
    exact .refl _
  refine Run.Alike.bind (Run.alike_log hrunning) fun _ => ?_
  refine Run.Alike.bind (alike_runSource hs hregistry quiet quiet' limit limit') fun r => ?_
  refine Run.related_clock.bind fun stop stop' _ => ?_
  have hfinished : LogEvent.Alike (finishedEvent { r with duration := stop - start })
      (finishedEvent { r with duration := stop' - start' }) := .finished ..
  refine Run.Alike.bind (Run.alike_log hfinished) fun _ => ?_
  exact Run.related_pure ⟨⟨rfl, rfl, rfl⟩, rfl⟩

theorem related_run {suites suites' : List Suite}
    (hsuites : List.Forall₂ Suite.Alike suites suites')
    (hregistry : List.Forall₂ Target.Alike registry.latest registry'.latest)
    (quiet quiet' : Bool) (limit limit' : Nat) :
    Run.Related (List.Forall₂ SuiteResult.Alike) (run d registry (c.probing quiet limit) suites)
      (run d registry' (c.probing quiet' limit') suites') := by
  rw [run, run]
  apply Run.related_mapM (fun s s' hs => ?_) hsuites
  exact related_runSuite hs hregistry quiet quiet' limit limit'

/-! ### Events -/

/-- Of a silenced probe nothing is logged. -/
theorem adds_probing_quiet {α : Type} (act : Run α) :
    (Run.probing true act).Adds fun e => e.isProbed = false := by
  intro j
  refine ⟨((act.journal j).drop j.length).filterMap (Run.inProbe true), rfl, ?_⟩
  intro e he
  obtain ⟨entry, -, hentry⟩ := List.mem_filterMap.mp he
  cases entry with
  | logged inProbe event => cases hentry
  | called function elapsed => cases hentry; rfl
  | consulted input told => cases hentry; rfl

/-- A run whose probes are silenced logs outside of probes alone. -/
theorem adds_run_quiet (hvalidate : ∀ t ∈ registry.latest, t.ValidatesOpenly) (limit : Nat)
    (suites : List Suite) :
    (run d registry (c.probing true limit) suites).Adds fun e => e.isProbed = false := by
  have hp : ∀ event, (Entry.logged false event).isProbed = false := fun _ => rfl
  have hprobe : ∀ (t : Target) input,
      (Run.probing (c.probing true limit).quietProbes (t.probe input)).Adds
        fun e => e.isProbed = false := fun t input => adds_probing_quiet (t.probe input)
  exact adds_run hp fun s _ => adds_runSource hp hvalidate hprobe s

/-- Outside of its function, a probe emits its start and what the judgement of the answer says,
whatever the answer is and whether it is silenced or not. -/
theorem unprobedEvents_probeInput (t : Target) (rules : List Rule) (cases : List Case)
    (input : Json) (j : Journal) :
    ((probeInput c t rules cases input).journal j).unprobedEvents =
      j.unprobedEvents ++ probingEvent c t input ::
        judgingEvents c rules cases input ((t.probe input).value (asked c t input j)) := by
  rw [journal_probeInput, Journal.unprobedEvents_append, Journal.unprobedEvents_probing,
    Journal.unprobedEvents_ofEvents, asked, Journal.unprobedEvents_append,
    Journal.unprobedEvents_ofEvents, List.append_assoc]
  rfl

theorem unprobedEvents_probeInputs (t : Target) (rules : List Rule) (cases : List Case)
    (inputs : List Json) (r : SuiteResult) (j : Journal) :
    ((probeInputs c t rules cases inputs r).journal j).unprobedEvents =
      j.unprobedEvents ++
        (Run.visits (probeInput c t rules cases) inputs j).flatMap fun visit =>
          probingEvent c t visit.1 :: judgingEvents c rules cases visit.1
            ((t.probe visit.1).value (asked c t visit.1 visit.2)) := by
  induction inputs generalizing r j with
  | nil => exact (List.append_nil _).symm
  | cons input rest ih =>
      rw [probeInputs, Run.journal_bind, ih, unprobedEvents_probeInput, Run.visits,
        List.flatMap_cons, List.append_assoc]

/-- **Silencing probes changes nothing but the log.** Let two registries and two lists of suites be
the same but for how long functions take, and two configurations but for the silence and the limit
of probes. Then the runs give the same results, but for times. They emit the same events outside of
the functions that are probed, but for times and limits; and when probes are silenced, these are all
events that are emitted. Among them are the start of each probe and the events of the judgement
after it, whether the function answered, failed or panicked in any of the probes before. -/
theorem silence_shows_in_the_log_alone (d : File.Disk) (c : Config)
    {registry registry' : Registry} {suites suites' : List Suite}
    (hregistry : List.Forall₂ Target.Alike registry.latest registry'.latest)
    (hsuites : List.Forall₂ Suite.Alike suites suites')
    (hvalidate : ∀ t ∈ registry.latest, t.ValidatesOpenly)
    (quiet quiet' : Bool) (limit limit' : Nat) (j : Journal) :
    let act := run d registry (c.probing quiet limit) suites
    let act' := run d registry' (c.probing quiet' limit') suites'
    List.Forall₂ SuiteResult.Alike (act.value j) (act'.value j) ∧
    (∃ added added', act.journal j = j ++ added ∧ act'.journal j = j ++ added' ∧
      List.Forall₂ LogEvent.Alike added.unprobedEvents added'.unprobedEvents ∧
      (quiet = true → added.events = added.unprobedEvents)) ∧
    (∀ t rules cases inputs r i,
      ((probeInputs (c.probing quiet limit) t rules cases inputs r).journal i).unprobedEvents =
        i.unprobedEvents ++
          (Run.visits (probeInput (c.probing quiet limit) t rules cases) inputs i).flatMap
            fun visit =>
              probingEvent (c.probing quiet limit) t visit.1 ::
                judgingEvents c rules cases visit.1
                  ((t.probe visit.1).value (asked (c.probing quiet limit) t visit.1 visit.2))) ∧
    ∀ t : Target, t.OfHandle → t.Alike t ∧ t.ValidatesOpenly := by
  intro act act'
  have hrelated := related_run (d := d) (c := c) hsuites hregistry quiet quiet' limit limit'
  obtain ⟨hresults, added, added', hadded, hadded', halike⟩ :=
    hrelated j j (Journal.sameDeeds_refl j)
  refine ⟨hresults, ⟨added, added', hadded, hadded', halike.events, ?_⟩, ?_,
    fun t => Target.OfHandle.alike_validatesOpenly⟩
  · rintro rfl
    obtain ⟨added₀, hadded₀, hopen⟩ := adds_run_quiet (d := d) (c := c) hvalidate limit suites j
    obtain rfl : added = added₀ := List.append_cancel_left (hadded.symm.trans hadded₀)
    have hall : added.silenced = added := List.filter_eq_self.mpr fun e he => by simp [hopen e he]
    rw [Journal.unprobedEvents, hall]
  · exact fun t rules cases inputs r i => unprobedEvents_probeInputs t rules cases inputs r i

/-- A function that logs and panics when it is called first, with a rule whose predicate logs and
two cases. A call takes so many nanoseconds. -/
def chattyLamp (pause : Nat) : Handle String String :=
  { name := "lamp", number := 0
    subject := fun n s =>
      ⟨if n = 0 then .panicked .other else .value s, [⟨.info, "glow", []⟩], pause⟩
    input := .text, output := .text, schema := .any
    rules := [⟨.always, [.custom "seen" fun _ => ⟨.value (), [⟨.info, "seen", []⟩]⟩]⟩]
    cases := [⟨.text "a", []⟩, ⟨.text "b", []⟩] }

theorem alike_chattyLamp (pause pause' : Nat) :
    (chattyLamp pause).target.Alike (chattyLamp pause').target := by
  have hsubject : (chattyLamp pause).subject.Alike (chattyLamp pause').subject :=
    fun _ _ => ⟨rfl, rfl⟩
  exact (chattyLamp pause).alike_target hsubject

/-- The lamp logs twice when it is not silenced, once before it panics. The other five events are
logged in both runs, the one of the predicate after the panic among them. -/
theorem silence_shows_in_the_log_alone_lamp :
    let registry pause := Registry.empty.insert "code" (chattyLamp pause).target
    let suites pause := Discovery.registeredSuites (registry pause)
    let act := run default (registry 0) (Config.standard.probing true 10) (suites 0)
    let act' := run default (registry 7000000) (Config.standard.probing false 20) (suites 7000000)
    List.Forall₂ Target.Alike (registry 0).latest (registry 7000000).latest ∧
    List.Forall₂ Suite.Alike (suites 0) (suites 7000000) ∧
    (∀ t ∈ (registry 0).latest, t.ValidatesOpenly) ∧
    List.Forall₂ SuiteResult.Alike (act.value []) (act'.value []) ∧
    List.Forall₂ LogEvent.Alike (act.journal []).events (act'.journal []).unprobedEvents ∧
    (act.journal []).events.length = 5 ∧ (act'.journal []).events.length = 7 := by
  intro registry suites act act'
  have hlamps := alike_chattyLamp 0 7000000
  have hregistry : List.Forall₂ Target.Alike (registry 0).latest (registry 7000000).latest :=
    .cons hlamps .nil
  have hsuites : List.Forall₂ Suite.Alike (suites 0) (suites 7000000) :=
    .cons ⟨rfl, .registered (.cons hlamps .nil)⟩ .nil
  have hvalidate : ∀ t ∈ (registry 0).latest, t.ValidatesOpenly := by
    intro t ht
    obtain rfl := List.mem_singleton.mp ht
    exact (Target.OfHandle.alike_validatesOpenly ⟨_, _, chattyLamp 0, rfl⟩).2
  obtain ⟨hresults, ⟨added, added', hadded, hadded', halike, hquiet⟩, -, -⟩ :=
    silence_shows_in_the_log_alone default .standard hregistry hsuites hvalidate true false 10 20 []
  rw [List.nil_append] at hadded hadded'
  rw [← hquiet rfl, ← hadded, ← hadded'] at halike
  exact ⟨hregistry, hsuites, hvalidate, hresults, halike, by decide +kernel, by decide +kernel⟩

end Runner
end CallCheck
