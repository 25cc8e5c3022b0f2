import CallCheck.RuleFile.Reader
import CallCheck.Proofs.Equality

/-!
# Values that are read have each key once

A reader gives values with a property (`Yaml.Read.Gives`) when whatever it comes to has it. The
combinators of readers keep such properties, so one lemma for each of them is enough to follow a value
from the node where it stands to the rule file that it ends up in. The property followed here is
`Json.UniqueKeys`: objects are only ever built by `Json.ofFields`, hence the inputs of the cases of
every rule file that is loaded have it (`RuleFile.uniqueKeys_of_load`).
-/

namespace CallCheck

namespace Yaml
namespace Read

variable {α β : Type} {P : α → Prop} {Q : β → Prop}

/-! ### Properties of what a reader gives -/

/-- Whether everything that a reader comes to has a property. -/
def Gives (r : Read α) (P : α → Prop) : Prop := ∀ d n a n', r d n = .ok (a, n') → P a

theorem gives_pure {a : α} (h : P a) : Gives (pure a) P := by
  intro d n a' n' hrun
  cases hrun
  exact h

theorem gives_throw (f : Fault) : Gives (throw f : Read α) P := by
  intro d n a n' hrun
  cases hrun

theorem gives_any (r : Read α) : Gives r fun _ => True := fun _ _ _ _ _ => trivial

theorem Gives.bind {r : Read α} {f : α → Read β} (h : Gives r P) (hf : ∀ a, P a → Gives (f a) Q) :
    Gives (r >>= f) Q := by
  intro d n b n' hrun
  -- a bind of readers is a bind of the faults they may end in
  change (r d n >>= fun result => f result.1 d result.2) = .ok (b, n') at hrun
  cases hr : r d n with
  | error fault =>
      rw [hr] at hrun
      cases hrun
  | ok result =>
      rw [hr] at hrun
      exact hf result.1 (h d n result.1 result.2 hr) d result.2 b n' hrun

theorem Gives.map {r : Read α} {f : α → β} (h : Gives r P) (hf : ∀ a, P a → Q (f a)) :
    Gives (f <$> r) Q := by
  rw [map_eq_pure_bind]
  exact h.bind fun a ha => gives_pure (hf a ha)

/-- Adding a place to a fault changes nothing of what is given. -/
theorem Gives.locate {r : Read α} (h : Gives r P) (path : String) (mark : Mark) :
    Gives (Read.locate path mark r) P := by
  intro d n a n' hrun
  cases hr : r d n with
  | ok result =>
      change (r d n).tryCatch _ = .ok (a, n') at hrun
      rw [hr] at hrun
      exact h d n a n' (hr.trans hrun)
  | error fault =>
      change (r d n).tryCatch _ = .ok (a, n') at hrun
      rw [hr] at hrun
      -- whether the fault has a place or gets one, it stays a fault
      cases fault with
      | message text place => cases place <;> cases hrun
      | document | endOfStream | followed | tooDeep | tooManyAliases => cases hrun

theorem gives_onNode {r : Node → Read α} (h : ∀ n, Gives (r n) P) (path : String) (n : Node) :
    Gives (onNode path n r) P :=
  (gives_any (follow n)).bind fun target _ => (h target).locate path (markOf target)

theorem gives_fail (text : String) : Gives (fail text : Read α) P := gives_throw _

theorem gives_wrongNode (n : Node) (expected : String) : Gives (wrongNode n expected : Read α) P := by
  cases n with
  | scalar mark tag text style =>
      rw [wrongNode]
      cases scalarMeaning tag text style with
      | ok m => exact gives_fail _
      | error refusal => exact gives_fail _
  | sequence | mapping => exact gives_fail _
  | _ => exact gives_throw _

/-! ### Collections -/

theorem gives_items {r : String → Node → Read α} (h : ∀ path n, Gives (r path n) P) (path : String)
    (i : Nat) (ns : List Node) : Gives (items path r i ns) fun as => ∀ a ∈ as, P a := by
  induction ns generalizing i with
  | nil => exact gives_pure (List.forall_mem_nil P)
  | cons n ns ih =>
      refine (h _ n).bind fun a ha => (ih (i + 1)).bind fun as has => ?_
      exact gives_pure (List.forall_mem_cons.mpr ⟨ha, has⟩)

theorem gives_mapM {r : β → Read α} (h : ∀ b, Gives (r b) P) (bs : List β) :
    Gives (bs.mapM r) fun as => ∀ a ∈ as, P a := by
  induction bs with
  | nil => exact gives_pure (List.forall_mem_nil P)
  | cons b bs ih =>
      rw [List.mapM_cons]
      refine (h b).bind fun a ha => ih.bind fun as has => ?_
      exact gives_pure (List.forall_mem_cons.mpr ⟨ha, has⟩)

theorem gives_deeper {r : Nat → Read α} (h : ∀ depth, Gives (r depth) P) (depth : Nat)
    (mark : Mark) : Gives (deeper depth mark r) P := by
  cases depth with
  | zero => exact gives_throw _
  | succ depth => exact h depth

theorem gives_list {r : Nat → String → Node → Read α} (h : ∀ depth path n, Gives (r depth path n) P)
    (depth : Nat) (path : String) (n : Node) :
    Gives (list r depth path n) fun as => ∀ a ∈ as, P a := by
  refine gives_onNode (fun n => ?_) path n
  split
  · exact gives_deeper (fun d => gives_items (h d) path 0 _) depth _
  · split
    · exact gives_pure (List.forall_mem_nil P)
    · exact gives_wrongNode _ _

variable {σ : Type} {I : σ → Prop}

/-- What every field keeps is kept by all of them. -/
theorem gives_fields {r : σ → String → String → Node → Read σ}
    (h : ∀ s, I s → ∀ key path n, Gives (r s key path n) I) (path expectedKey : String) {s : σ}
    (hs : I s) (entries : List (Node × Node)) : Gives (fields path expectedKey r s entries) I := by
  induction entries generalizing s with
  | nil => exact gives_pure hs
  | cons entry rest ih =>
      refine (gives_any _).bind fun key _ => (h s hs key _ _).bind fun s' hs' => ?_
      exact ih hs'

theorem gives_record {expected : String} {empty : σ}
    {r : Nat → σ → String → String → Node → Read σ} {finish : σ → Read α} (hempty : I empty)
    (h : ∀ depth s, I s → ∀ key path n, Gives (r depth s key path n) I)
    (hfinish : ∀ s, I s → Gives (finish s) P) (depth : Nat) (path : String) (n : Node) :
    Gives (record expected empty r finish depth path n) P := by
  refine gives_onNode (fun n => ?_) path n
  split
  · exact gives_deeper (fun d => (gives_fields (h d) path _ hempty _).bind hfinish) depth _
  · split
    · exact hfinish empty hempty
    · exact gives_wrongNode _ _

theorem gives_once {r : Read α} (h : Gives r P) (name : String) (old : Option α) :
    Gives (once name old r) fun o => ∀ a ∈ o, P a := by
  cases old with
  | some a => exact gives_fail _
  | none =>
      refine h.map fun a ha => ?_
      rintro b ⟨⟩
      exact ha

theorem gives_required {o : Option α} (h : ∀ a ∈ o, P a) (name : String) :
    Gives (required name o) P := by
  cases o with
  | none => exact gives_fail _
  | some a => exact gives_pure (h a rfl)

/-! ### JSON values -/

theorem gives_jsonOfMeaning (m : Meaning) : Gives (jsonOfMeaning m) Json.UniqueKeys := by
  cases m with
  | nothing | nonfinite => exact gives_pure .null
  | bool b => exact gives_pure (.bool b)
  | real b => exact gives_pure (.number _)
  | text s => exact gives_pure (.text s)
  | int i =>
      rw [jsonOfMeaning, jsonInt?]
      split_ifs
      · exact gives_pure (.number _)
      · exact gives_fail _

theorem gives_jsonWith {inner : Option (String → Node → Read Json)}
    (h : ∀ read ∈ inner, ∀ path n, Gives (read path n) Json.UniqueKeys) (path : String) (n : Node) :
    Gives (jsonWith inner path n) Json.UniqueKeys := by
  refine gives_onNode (fun n => ?_) path n
  cases n with
  | scalar mark tag text style =>
      dsimp only
      split
      · exact gives_fail _
      · exact (gives_any _).bind fun m _ => gives_jsonOfMeaning m
  | sequence mark tag ns =>
      dsimp only
      split
      · exact gives_fail _
      · cases inner with
        | none => exact gives_throw _
        | some read => exact (gives_items (h read rfl) path 0 ns).map fun vs hvs => .list hvs
  | mapping mark tag entries =>
      dsimp only
      split
      · exact gives_fail _
      · cases inner with
        | none => exact gives_throw _
        | some read =>
            refine Gives.bind (P := fun fields => ∀ f ∈ fields, f.2.UniqueKeys) ?_
              fun fields hfields => gives_pure (Json.uniqueKeys_ofFields hfields)
            refine gives_mapM (fun entry => ?_) _
            refine (gives_any _).bind fun key _ => (h read rfl _ _).bind fun v hv => ?_
            exact gives_pure hv
  | _ => exact gives_pure .null

theorem gives_json (depth : Nat) (path : String) (n : Node) :
    Gives (json depth path n) Json.UniqueKeys := by
  induction depth generalizing path n with
  | zero =>
      refine gives_jsonWith ?_ path n
      rintro read ⟨⟩
  | succ depth ih =>
      refine gives_jsonWith ?_ path n
      rintro read ⟨⟩
      exact ih

end Read

/-- What a text comes to is what its only document is read as. -/
theorem exists_read_of_ofText {α : Type} {r : Node → Read α} {text : String} {a : α}
    (h : ofText r text = .ok a) :
    ∃ used, r (Document.ofText text).root (Document.ofText text) 0 = .ok (a, used) := by
  let d := Document.ofText text
  change (((r d.root).run d).run' 0 >>= fun a' => _) = .ok a at h
  cases hr : r d.root d 0 with
  | error fault =>
      have hrun : ((r d.root).run d).run' 0 = .error fault := congrArg (Functor.map Prod.fst) hr
      rw [hrun] at h
      cases h
  | ok result =>
      have hrun : ((r d.root).run d).run' 0 = .ok result.1 := congrArg (Functor.map Prod.fst) hr
      rw [hrun] at h
      dsimp only [bind, Except.bind] at h
      -- what was read is given, unless the document has a fault of its own
      split at h
      · cases h
      · split at h
        · cases h
        · cases h
          exact ⟨result.2, rfl⟩

/-- What the only document of a text is read as has what its reader promises. -/
theorem of_ofText {α : Type} {P : α → Prop} {r : Node → Read α} (h : ∀ n, (r n).Gives P)
    {text : String} {a : α} (htext : ofText r text = .ok a) : P a := by
  obtain ⟨used, hread⟩ := exists_read_of_ofText htext
  exact h _ _ 0 a used hread

end Yaml

/-! ### Rule files -/

namespace RuleFile

open Yaml (Node Read)

theorem gives_readCase (depth : Nat) (path : String) (n : Node) :
    (readCase depth path n).Gives fun e => e.input.UniqueKeys := by
  -- of the fields read so far only the input matters
  refine Read.gives_record (I := fun s => ∀ v ∈ s.input, v.UniqueKeys) ?_ ?_ ?_ depth path n
  · intro v hv
    cases hv
  · intro depth s hs key path n
    split
    · exact (Read.gives_once (Read.gives_json depth path n) _ _).bind fun o ho => Read.gives_pure ho
    · exact (Read.gives_any _).bind fun ds _ => Read.gives_pure hs
    · exact (Read.gives_any _).bind fun _ _ => Read.gives_pure hs
  · intro s hs
    exact (Read.gives_required hs "input").bind fun v hv => Read.gives_pure hv

theorem gives_read (n : Node) : (read n).Gives fun f => ∀ e ∈ f.cases, e.input.UniqueKeys := by
  refine Read.gives_record (I := fun s => ∀ es ∈ s.cases, ∀ e ∈ es, e.input.UniqueKeys) ?_ ?_ ?_ _ _ n
  · intro es hes
    cases hes
  · intro depth s hs key path n
    unfold readField
    split
    -- all other fields leave the cases as they are
    case h_5 =>
      exact (Read.gives_once (Read.gives_list gives_readCase depth path n) _ _).bind
        fun o ho => Read.gives_pure ho
    all_goals exact (Read.gives_any _).bind fun _ _ => Read.gives_pure hs
  · intro s hs
    refine (Read.gives_any _).bind fun target _ => (Read.gives_any _).bind fun unknown _ => ?_
    refine Read.gives_pure ?_
    cases hcases : s.cases with
    | none => exact List.forall_mem_nil _
    | some es => exact hs es hcases

/-- Every input that a rule file has, once it is loaded, has unique keys. -/
theorem uniqueKeys_of_load {d : File.Disk} {path : Path} {f : RuleFile}
    (hload : load d path = .ok f) : ∀ e ∈ f.cases, e.input.UniqueKeys := by
  rw [load] at hload
  cases htext : d.readText path with
  | error fault =>
      rw [htext] at hload
      cases hload
  | ok text =>
      rw [htext] at hload
      change (Yaml.ofText read text).mapError Fault.yaml = .ok f at hload
      cases hread : Yaml.ofText read text with
      | error fault =>
          rw [hread] at hload
          cases hload
      | ok f' =>
          rw [hread] at hload
          cases hload
          exact Yaml.of_ofText gives_read hread

end RuleFile
end CallCheck
