import CallCheck.Proofs.Checked
import CallCheck.Target

/-!
# Runs that are blind to events

A journal holds events and deeds: calls of functions and consultations of schemas. A run is blind to
events (`Run.Blind`) when events that were logged before it change neither its value nor what it
does. The primitives of a run are blind, and blindness is kept by sequencing; so it is enough to look
at each piece of a program once. The target of a handle is blind, since a function only learns how
often it was called.
-/

namespace CallCheck

/-! ### Deeds -/

/-- Whether an entry is a deed, that is, no event. -/
def Entry.isDeed (e : Entry) : Bool := e.event?.isNone

namespace Journal

def deeds (j : Journal) : Journal := j.filter Entry.isDeed

@[simp] theorem deeds_append (j j' : Journal) : (j ++ j').deeds = j.deeds ++ j'.deeds :=
  List.filter_append j j'

@[simp] theorem deeds_ofEvents (es : List LogEvent) : (ofEvents es).deeds = [] := by
  rw [deeds, List.filter_eq_nil_iff]
  exact forall_mem_ofEvents (fun _ => Bool.false_ne_true) es

/-- Marking or leaving out events keeps the deeds. -/
theorem deeds_filterMap_inProbe (quiet : Bool) (j : Journal) :
    deeds (j.filterMap (Run.inProbe quiet)) = j.deeds := by
  induction j with
  | nil => rfl
  | cons e j ih =>
      cases e with
      | logged inProbe event =>
          cases quiet with
          | false => exact ih
          | true => exact ih
      | called f t => exact congrArg (Entry.called f t :: ·) ih
      | consulted v told => exact congrArg (Entry.consulted v told :: ·) ih

/-- Calls are deeds. -/
theorem callsOf_deeds (f : Nat) (j : Journal) : j.deeds.callsOf f = j.callsOf f := by
  rw [deeds, callsOf, callsOf, List.countP_filter]
  refine List.countP_congr fun e _ => ?_
  cases e <;> simp [Entry.isCallOf, Entry.isDeed, Entry.event?]

/-- Only deeds take time. -/
theorem clock_deeds (j : Journal) : j.deeds.clock = j.clock := by
  induction j with
  | nil => rfl
  | cons e j ih =>
      cases e with
      | logged inProbe event => exact ih.trans (Nat.zero_add _).symm
      | called f t => exact congrArg (t + ·) ih
      | consulted v told => exact congrArg (0 + ·) ih

end Journal

/-! ### Blindness -/

namespace Run

variable {α β : Type}

/-- A run that only adds to its journal, and that depends on nothing but the deeds before it. -/
structure Blind (act : Run α) : Prop where
  appends : ∀ j, j <+: act.journal j
  value_eq : ∀ {j j'}, j.deeds = j'.deeds → act.value j = act.value j'
  deeds_eq : ∀ {j j'}, j.deeds = j'.deeds → (act.journal j).deeds = (act.journal j').deeds

theorem blind_pure (a : α) : (pure a : Run α).Blind :=
  ⟨fun j => List.prefix_refl j, fun _ => rfl, fun h => h⟩

theorem Blind.bind {act : Run α} {f : α → Run β} (h : act.Blind) (hf : ∀ a, (f a).Blind) :
    (act >>= f).Blind := by
  refine ⟨?_, ?_, ?_⟩
  · intro j
    exact (h.appends j).trans ((hf _).appends _)
  · intro j j' hj
    rw [value_bind, value_bind, h.value_eq hj]
    exact (hf _).value_eq (h.deeds_eq hj)
  · intro j j' hj
    rw [journal_bind, journal_bind, h.value_eq hj]
    exact (hf _).deeds_eq (h.deeds_eq hj)

/-- Adding an entry, whatever it is. -/
theorem blind_record (e : Entry) : (record e).Blind := by
  refine ⟨fun j => List.prefix_append j [e], fun _ => rfl, ?_⟩
  intro j j' hj
  rw [journal_record, journal_record, Journal.deeds_append, Journal.deeds_append, hj]

theorem blind_log (level : Level) (message : String) (fields : List (String × String)) :
    (log level message fields).Blind := blind_record _

theorem blind_tell (t : Told α) : (tell t).Blind := by
  refine ⟨fun j => List.prefix_append j _, fun _ => rfl, ?_⟩
  intro j j' hj
  simp only [journal_tell, Journal.deeds_append, hj]

theorem blind_ask (check : Json → Told (List String)) (v : Json) : (ask check v).Blind :=
  (blind_record _).bind fun _ => blind_tell (check v)

/-- The entries that a silenced probe leaves out are events. -/
theorem Blind.deeds_probing {act : Run α} (h : act.Blind) (quiet : Bool) (j : Journal) :
    ((probing quiet act).journal j).deeds = (act.journal j).deeds := by
  -- only what the run adds is marked or left out
  obtain ⟨extra, hextra⟩ := h.appends j
  show (j ++ ((act.journal j).drop j.length).filterMap (inProbe quiet)).deeds = _
  rw [← hextra, List.drop_left, Journal.deeds_append, Journal.deeds_filterMap_inProbe,
    Journal.deeds_append]

theorem Blind.probing {act : Run α} (h : act.Blind) (quiet : Bool) :
    (probing quiet act).Blind := by
  refine ⟨fun j => List.prefix_append j _, fun hj => h.value_eq hj, ?_⟩
  intro j j' hj
  rw [h.deeds_probing, h.deeds_probing]
  exact h.deeds_eq hj

/-- A blind run ends at a time that events before it do not change. -/
theorem Blind.clock_eq {act : Run α} (h : act.Blind) {j j' : Journal} (hj : j.deeds = j'.deeds) :
    (act.journal j).clock = (act.journal j').clock := by
  rw [← Journal.clock_deeds, h.deeds_eq hj, Journal.clock_deeds]

end Run

/-! ### Targets -/

theorem InputSchema.blind_consult (s : InputSchema) (v : Json) : (s.consult v).Blind := by
  have herrors : (s.errors v).Blind := by
    cases s with
    | any => exact Run.blind_pure []
    | json document => exact Run.blind_pure _
    | custom check => exact Run.blind_ask check v
  exact herrors.bind fun _ => Run.blind_pure _

namespace Handle

variable {ι ο : Type} (h : Handle ι ο)

/-- The number of calls so far is all that a function learns of the journal. -/
theorem replyAfter_congr {j j' : Journal} (hj : j.deeds = j'.deeds) :
    h.replyAfter j = h.replyAfter j' := by
  funext input
  rw [replyAfter, replyAfter, ← Journal.callsOf_deeds, hj, Journal.callsOf_deeds]

theorem blind_call (input : ι) : (h.call input).Blind := by
  refine ⟨?_, ?_, ?_⟩
  · intro j
    rw [journal_call]
    exact List.prefix_append j _
  · intro j j' hj
    rw [value_call, value_call, h.replyAfter_congr hj]
  · intro j j' hj
    rw [journal_call, journal_call, Journal.deeds_append, Journal.deeds_append, hj,
      h.replyAfter_congr hj]

theorem blind_probe (input : Json) : (h.probe input).Blind := by
  rw [probe]
  cases h.input.decode input with
  | error reason => exact Run.blind_pure _
  | ok typed =>
      refine (h.blind_call typed).bind fun answer => ?_
      cases answer with
      | error fault => exact Run.blind_pure _
      | ok output =>
          dsimp only
          cases h.output.encode output with
          | ok v => exact Run.blind_pure _
          | error reason => exact Run.blind_pure _

end Handle

/-- A target whose validation and whose probes are blind. -/
structure Target.Blind (t : Target) : Prop where
  validate : ∀ v, (t.validate v).Blind
  probe : ∀ v, (t.probe v).Blind

theorem Handle.blind_target {ι ο : Type} (h : Handle ι ο) : h.target.Blind :=
  ⟨h.schema.blind_consult, h.blind_probe⟩

end CallCheck
