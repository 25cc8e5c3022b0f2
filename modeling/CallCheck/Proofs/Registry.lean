import CallCheck.Proofs.Journal
import CallCheck.Registry

/-!
# Registries by what was added to them

A registry comes about by adding targets one after another (`Registry.addAll`). Adding a target only
ever extends a suite or opens one for it, so no suite is without a target
(`Registry.ne_nil_of_mem_suites`), and every target that a lookup may find was added
(`Registry.exists_addition_of_mem_latest`).
-/

namespace CallCheck

/-- Whether a target is that of a handle. -/
def Target.OfHandle (t : Target) : Prop := ∃ (ι ο : Type) (h : Handle ι ο), t = h.target

/-- Handing an input to a handle for validation adds at most a consultation and its events. -/
theorem Target.OfHandle.adds_validate {t : Target} (ht : t.OfHandle) {p : Entry → Prop}
    (hp : ∀ event, p (.logged false event)) {v : Json} (hconsulted : ∀ told, p (.consulted v told)) :
    (t.validate v).Adds p := by
  obtain ⟨ι, ο, h, rfl⟩ := ht
  have herrors : (h.schema.errors v).Adds p := by
    cases h.schema with
    | any => exact Run.adds_pure []
    | json document => exact Run.adds_pure _
    | custom check => exact Run.adds_ask hp (hconsulted _)
  exact herrors.bind fun _ => Run.adds_pure _

/-- The target with other answers to probes. -/
def Target.answering (t : Target) (answer : Json → Run (Except Fault Json)) : Target :=
  { t with probe := answer }

namespace Registry

/-- A target with the suite it is added to. -/
structure Addition where
  suite : String
  target : Target

/-- Adds targets, one after another. -/
def addAll (r : Registry) (as : List Addition) : Run Registry :=
  as.foldlM (fun r a => r.add a.suite a.target) r

/-- The registry whose targets answer probes in another way. -/
def answering (r : Registry) (answer : Target → Json → Run (Except Fault Json)) : Registry :=
  { suites := r.suites.map fun (name, ts) => (name, ts.map fun t => t.answering (answer t))
    latest := r.latest.map fun t => t.answering (answer t) }

/-! ### What one addition does -/

/-- A name that is taken is warned of and makes no other difference. -/
theorem value_add (r : Registry) (suite : String) (t : Target) (j : Journal) :
    (r.add suite t).value j = r.insert suite t := by
  rw [add]
  split <;> rfl

/-- Extending suites that have targets keeps them so. -/
theorem ne_nil_of_mem_extend {suite : String} {t : Target} {suites : List (String × List Target)}
    (h : ∀ s ∈ suites, s.2 ≠ []) : ∀ s ∈ extend suite t suites, s.2 ≠ [] := by
  induction suites with
  | nil =>
      intro s hs
      rw [extend, List.mem_singleton] at hs
      rw [hs]
      exact List.cons_ne_nil t []
  | cons first rest ih =>
      obtain ⟨hfirst, hrest⟩ := List.forall_mem_cons.mp h
      rw [extend]
      split
      · exact List.forall_mem_cons.mpr ⟨by simp, hrest⟩
      · exact List.forall_mem_cons.mpr ⟨hfirst, ih hrest⟩

/-! ### What several additions do -/

theorem value_addAll_cons (r : Registry) (a : Addition) (as : List Addition) (j : Journal) :
    (r.addAll (a :: as)).value j =
      ((r.insert a.suite a.target).addAll as).value ((r.add a.suite a.target).journal j) := by
  rw [addAll, List.foldlM_cons, Run.value_bind, value_add]
  rfl

/-- The suites of a registry have targets if they had some before. -/
theorem ne_nil_of_mem_suites_addAll {r : Registry} (h : ∀ s ∈ r.suites, s.2 ≠ [])
    (as : List Addition) (j : Journal) : ∀ s ∈ ((r.addAll as).value j).suites, s.2 ≠ [] := by
  induction as generalizing r j with
  | nil => exact h
  | cons a as ih =>
      rw [value_addAll_cons]
      exact ih (ne_nil_of_mem_extend h) _

/-- No suite is without a target. -/
theorem ne_nil_of_mem_suites (as : List Addition) (j : Journal) :
    ∀ s ∈ ((empty.addAll as).value j).suites, s.2 ≠ [] :=
  ne_nil_of_mem_suites_addAll (fun _ hs => absurd hs List.not_mem_nil) as j

theorem latest_addAll (r : Registry) (as : List Addition) (j : Journal) :
    ((r.addAll as).value j).latest = (as.map Addition.target).reverse ++ r.latest := by
  induction as generalizing r j with
  | nil => rfl
  | cons a as ih =>
      rw [value_addAll_cons, ih]
      simp [insert]

/-- Every target that a lookup may find was added. -/
theorem exists_addition_of_mem_latest {as : List Addition} {j : Journal} {t : Target}
    (ht : t ∈ ((empty.addAll as).value j).latest) : ∃ a ∈ as, a.target = t := by
  rw [latest_addAll, show empty.latest = [] from rfl, List.append_nil, List.mem_reverse] at ht
  exact List.mem_map.mp ht

/-! ### Lookup -/

theorem mem_latest_of_target? {r : Registry} {name : String} {t : Target}
    (h : r.target? name = some t) : t ∈ r.latest := List.mem_of_find?_eq_some h

/-- Other answers to probes do not change which target is found. -/
theorem target?_answering (r : Registry) (answer : Target → Json → Run (Except Fault Json))
    (name : String) :
    (r.answering answer).target? name =
      (r.target? name).map fun t => t.answering (answer t) := by
  rw [target?, answering, List.find?_map]
  rfl

end Registry
end CallCheck
