import CallCheck.Journal

/-!
# What a run comes to

A run started after a journal has a value (`Run.value`) and leaves a journal behind
(`Run.journal`). Every primitive of a run gets its two equations here, so that a program is
followed step by step with `simp` and its monad is never unfolded.

Counting calls and adding up times only look at the entries of a journal one by one, which is what
`Journal.callsOf_append` and `Journal.clock_append` say; events count for neither.

A run that does the same for several elements is known by its visits (`Run.visits`), since each
element finds the journal that those before it left behind.
-/

namespace CallCheck

namespace Run

variable {α β : Type}

/-- The value of a run that starts after `j`. -/
def value (act : Run α) (j : Journal) : α := (act j).1

/-- The journal that a run started after `j` leaves behind. -/
def journal (act : Run α) (j : Journal) : Journal := (act j).2

/-- A run is what it comes to after each journal. -/
theorem ext {act act' : Run α} (hv : ∀ j, act.value j = act'.value j)
    (hj : ∀ j, act.journal j = act'.journal j) : act = act' :=
  funext fun j => Prod.ext (hv j) (hj j)

@[simp] theorem value_pure (a : α) (j : Journal) : (pure a : Run α).value j = a := rfl

@[simp] theorem journal_pure (a : α) (j : Journal) : (pure a : Run α).journal j = j := rfl

@[simp] theorem value_bind (act : Run α) (f : α → Run β) (j : Journal) :
    (act >>= f).value j = (f (act.value j)).value (act.journal j) := rfl

@[simp] theorem journal_bind (act : Run α) (f : α → Run β) (j : Journal) :
    (act >>= f).journal j = (f (act.value j)).journal (act.journal j) := rfl

@[simp] theorem value_map (g : α → β) (act : Run α) (j : Journal) :
    (g <$> act).value j = g (act.value j) := rfl

@[simp] theorem journal_map (g : α → β) (act : Run α) (j : Journal) :
    (g <$> act).journal j = act.journal j := rfl

@[simp] theorem value_get (j : Journal) : (get : Run Journal).value j = j := rfl

@[simp] theorem journal_get (j : Journal) : (get : Run Journal).journal j = j := rfl

@[simp] theorem journal_record (e : Entry) (j : Journal) : (record e).journal j = j ++ [e] := rfl

@[simp] theorem value_clock (j : Journal) : clock.value j = j.clock := rfl

@[simp] theorem journal_clock (j : Journal) : clock.journal j = j := rfl

end Run

namespace Journal

/-- The entries that log events one after another, outside every probe. -/
def ofEvents (es : List LogEvent) : Journal := es.map (.logged false)

@[simp] theorem ofEvents_nil : ofEvents [] = [] := rfl

@[simp] theorem ofEvents_append (es es' : List LogEvent) :
    ofEvents (es ++ es') = ofEvents es ++ ofEvents es' := List.map_append

theorem ofEvents_cons (e : LogEvent) (es : List LogEvent) :
    ofEvents (e :: es) = .logged false e :: ofEvents es := rfl

/-- A property of logged events holds of the entries that log them. -/
theorem forall_mem_ofEvents {p : Entry → Prop} (hp : ∀ event, p (.logged false event))
    (es : List LogEvent) : ∀ e ∈ ofEvents es, p e := by
  intro e he
  obtain ⟨event, -, rfl⟩ := List.mem_map.mp he
  exact hp event

/-! ### Calls and time -/

@[simp] theorem callsOf_append (f : Nat) (j j' : Journal) :
    (j ++ j').callsOf f = j.callsOf f + j'.callsOf f := List.countP_append

@[simp] theorem clock_nil : clock [] = 0 := rfl

@[simp] theorem clock_cons (e : Entry) (j : Journal) : clock (e :: j) = e.elapsed + clock j := rfl

@[simp] theorem clock_append (j j' : Journal) : (j ++ j').clock = j.clock + j'.clock := by
  induction j with
  | nil => exact (Nat.zero_add _).symm
  | cons e j ih => rw [List.cons_append, clock_cons, ih, clock_cons, Nat.add_assoc]

/-- Events are calls of no function. -/
@[simp] theorem callsOf_ofEvents (f : Nat) (es : List LogEvent) : (ofEvents es).callsOf f = 0 := by
  rw [callsOf, List.countP_eq_zero]
  exact forall_mem_ofEvents (fun _ => Bool.false_ne_true) es

/-- Events take no time. -/
@[simp] theorem clock_ofEvents (es : List LogEvent) : (ofEvents es).clock = 0 := by
  induction es with
  | nil => rfl
  | cons e es ih => exact (Nat.zero_add _).trans ih

@[simp] theorem callsOf_called (f g t : Nat) (j : Journal) :
    callsOf f (.called g t :: j) = callsOf f j + if f = g then 1 else 0 := by
  by_cases h : f = g
  · simp [callsOf, Entry.isCallOf, h]
  · have hg : ¬ g = f := fun e => h e.symm
    simp [callsOf, Entry.isCallOf, h, hg]

@[simp] theorem elapsed_called (g t : Nat) : (Entry.called g t).elapsed = t := rfl

end Journal

namespace Run

variable {α : Type}

@[simp] theorem journal_log (level : Level) (message : String) (fields : List (String × String))
    (j : Journal) :
    (log level message fields).journal j = j ++ Journal.ofEvents [⟨level, message, fields⟩] := rfl

@[simp] theorem value_tell (t : Told α) (j : Journal) : (tell t).value j = t.value := rfl

@[simp] theorem journal_tell (t : Told α) (j : Journal) :
    (tell t).journal j = j ++ Journal.ofEvents t.events := rfl

@[simp] theorem value_ask (check : Json → Told (List String)) (v : Json) (j : Journal) :
    (ask check v).value j = (check v).value := rfl

/-- What is told without an event is only a value. -/
theorem tell_pure (a : α) : tell (pure a) = pure a := by
  apply Run.ext
  · exact fun j => rfl
  · exact fun j => List.append_nil j

/-- Telling one after another is telling both. -/
theorem tell_bind (t : Told α) {β : Type} (f : α → Told β) :
    tell (t >>= f) = tell t >>= fun a => tell (f a) := by
  apply Run.ext
  · exact fun j => rfl
  · intro j
    show j ++ List.map _ (_ ++ _) = j ++ _ ++ _
    rw [List.map_append, List.append_assoc]

/-- Silencing a probe never changes its value. -/
@[simp] theorem value_probing (quiet : Bool) (act : Run α) (j : Journal) :
    (probing quiet act).value j = act.value j := rfl

/-- What a probe adds is marked, or left out. -/
theorem journal_probing {quiet : Bool} {act : Run α} {j added : Journal}
    (h : act.journal j = j ++ added) :
    (probing quiet act).journal j = j ++ added.filterMap (inProbe quiet) := by
  show j ++ ((act.journal j).drop j.length).filterMap (inProbe quiet) = _
  rw [h, List.drop_left]

/-! ### The same for several elements -/

variable {β : Type}

/-- The visits of a run that does the same for several elements, one after another: each element
with the journal after which its turn comes. -/
def visits (act : α → Run β) : List α → Journal → List (α × Journal)
  | [], _ => []
  | a :: as, j => (a, j) :: visits act as ((act a).journal j)

@[simp] theorem map_fst_visits (act : α → Run β) (as : List α) (j : Journal) :
    (visits act as j).map Prod.fst = as := by
  induction as generalizing j with
  | nil => rfl
  | cons a as ih => exact congrArg (a :: ·) (ih _)

theorem length_visits (act : α → Run β) (as : List α) (j : Journal) :
    (visits act as j).length = as.length := by
  rw [← List.length_map, map_fst_visits]

theorem fst_mem_of_mem_visits {act : α → Run β} {as : List α} {j : Journal} {v : α × Journal}
    (hv : v ∈ visits act as j) : v.1 ∈ as := by
  rw [← map_fst_visits act as j]
  exact List.mem_map_of_mem hv

/-- Such a run gives what each visit gives. -/
theorem value_mapM (act : α → Run β) (as : List α) (j : Journal) :
    (as.mapM act).value j = (visits act as j).map fun v => (act v.1).value v.2 := by
  induction as generalizing j with
  | nil => rfl
  | cons a as ih =>
      rw [List.mapM_cons, value_bind, value_bind, value_pure, ih]
      rfl

/-! ### Properties kept by sequencing -/

/-- A property that every mere result has and that sequencing keeps. -/
structure Compositional (P : ∀ α : Type, Run α → Prop) : Prop where
  pure : ∀ {α : Type} (a : α), P α (pure a)
  bind : ∀ {α β : Type} {act : Run α} {f : α → Run β}, P α act → (∀ a, P β (f a)) → P β (act >>= f)

/-! ### What a run adds -/

/-- A run that only adds entries of a kind to its journal. -/
def Adds (p : Entry → Prop) (act : Run α) : Prop :=
  ∀ j, ∃ added, act.journal j = j ++ added ∧ ∀ e ∈ added, p e

variable {p : Entry → Prop}

theorem adds_pure (a : α) : (pure a : Run α).Adds p := fun j => ⟨[], by simp, by simp⟩

theorem Adds.bind {act : Run α} {f : α → Run β} (h : act.Adds p) (hf : ∀ a, (f a).Adds p) :
    (act >>= f).Adds p := by
  intro j
  obtain ⟨first, hfirst, hp⟩ := h j
  obtain ⟨second, hsecond, hq⟩ := hf (act.value j) (act.journal j)
  refine ⟨first ++ second, ?_, List.forall_mem_append.mpr ⟨hp, hq⟩⟩
  rw [journal_bind, hsecond, hfirst, List.append_assoc]

theorem compositional_adds (p : Entry → Prop) : Compositional fun _ act => act.Adds p :=
  ⟨adds_pure, Adds.bind⟩

theorem adds_record {e : Entry} (he : p e) : (record e).Adds p :=
  fun _ => ⟨[e], rfl, List.forall_mem_singleton.mpr he⟩

theorem adds_tell (hp : ∀ event, p (.logged false event)) (t : Told α) : (tell t).Adds p :=
  fun _ => ⟨Journal.ofEvents t.events, rfl, Journal.forall_mem_ofEvents hp t.events⟩

theorem adds_ask (hp : ∀ event, p (.logged false event)) {check : Json → Told (List String)}
    {v : Json} (hconsulted : p (.consulted v (check v))) : (ask check v).Adds p := by
  have hrecord : (record (.consulted v (check v))).Adds p := adds_record hconsulted
  exact hrecord.bind fun _ => adds_tell hp (check v)

/-- A run that adds no call of a function does not change how often that was called. -/
theorem Adds.callsOf_eq {f : Nat} {act : Run α} (h : act.Adds fun e => e.isCallOf f = false)
    (j : Journal) : (act.journal j).callsOf f = j.callsOf f := by
  obtain ⟨added, hadded, hnone⟩ := h j
  have hzero : added.callsOf f = 0 := by
    rw [Journal.callsOf, List.countP_eq_zero]
    intro e he
    rw [hnone e he]
    exact Bool.false_ne_true
  rw [hadded, Journal.callsOf_append, hzero, Nat.add_zero]

end Run
end CallCheck
