import CallCheck.Config.File
import CallCheck.Proofs.Reading

/-!
# What a configuration file says

A reader that succeeds is taken apart step by step: what it comes to in a document
(`Yaml.Read.ComesTo`) is put together from what its parts come to. One field of a configuration file
sets one setting, which was not set before, and keeps all others (`Config.takes_readField`). So each
setting of a layer is what its own key says (`Config.Said`), whatever the other keys say: nothing if
the key is missing or its value is null, and else what its value is read as
(`Config.saidIn_of_layerOfText`).
-/

namespace CallCheck

namespace Yaml

namespace Document

/-- The node that is meant by a node: an alias means what it refers to. -/
def meant? (d : Document) : Node → Option Node
  | .cut => none
  | .alias _ number => (d.anchors.find? (·.1 == number)).map (·.2)
  | n => some n

/-- Whether a node means a scalar of that text. -/
def Spells (d : Document) (n : Node) (text : String) : Prop :=
  ∃ mark tag style, d.meant? n = some (.scalar mark tag text style)

theorem Spells.unique {d : Document} {n : Node} {text text' : String} (h : d.Spells n text)
    (h' : d.Spells n text') : text = text' := by
  obtain ⟨mark, tag, style, hn⟩ := h
  obtain ⟨mark', tag', style', hn'⟩ := h'
  cases hn.symm.trans hn'
  rfl

/-- The entries of the mapping that a document consists of; any other document has none. -/
def entries (d : Document) : List (Node × Node) :=
  match (d.meant? d.root).bind d.meant? with
  | some (.mapping _ _ es) => es
  | _ => []

end Document

namespace Read

variable {α β : Type} {d : Document}

/-- Whether a reader comes to a value in a document, some number of aliases having been followed. -/
def ComesTo (r : Read α) (d : Document) (a : α) : Prop := ∃ i i', r d i = .ok (a, i')

theorem eq_of_comesTo_pure {a b : α} (h : ComesTo (pure a) d b) : b = a := by
  obtain ⟨i, i', hrun⟩ := h
  cases hrun
  rfl

theorem ComesTo.exists_of_bind {r : Read α} {f : α → Read β} {b : β} (h : ComesTo (r >>= f) d b) :
    ∃ a, ComesTo r d a ∧ ComesTo (f a) d b := by
  obtain ⟨i, i', hrun⟩ := h
  change (r d i >>= fun result => f result.1 d result.2) = .ok (b, i') at hrun
  cases hr : r d i with
  | error fault =>
      rw [hr] at hrun
      cases hrun
  | ok result =>
      rw [hr] at hrun
      exact ⟨result.1, ⟨i, result.2, hr⟩, ⟨result.2, i', hrun⟩⟩

theorem ComesTo.exists_of_map {r : Read α} {f : α → β} {b : β} (h : ComesTo (f <$> r) d b) :
    ∃ a, ComesTo r d a ∧ f a = b := by
  rw [map_eq_pure_bind] at h
  obtain ⟨a, ha, hb⟩ := h.exists_of_bind
  exact ⟨a, ha, (eq_of_comesTo_pure hb).symm⟩

theorem ComesTo.of_locate {r : Read α} {path : String} {mark : Mark} {a : α}
    (h : ComesTo (locate path mark r) d a) : ComesTo r d a := by
  obtain ⟨i, i', hrun⟩ := h
  change (r d i).tryCatch _ = .ok (a, i') at hrun
  cases hr : r d i with
  | ok result =>
      rw [hr] at hrun
      exact ⟨i, i', hr.trans hrun⟩
  | error fault =>
      rw [hr] at hrun
      -- whether the fault has a place or gets one, it stays a fault
      cases fault with
      | message text place => cases place <;> cases hrun
      | document | endOfStream | followed | tooDeep | tooManyAliases => cases hrun

theorem not_comesTo_throw {fault : Fault} {a : α} : ¬ ComesTo (throw fault) d a := by
  rintro ⟨i, i', hrun⟩
  cases hrun

theorem not_comesTo_cutFault {a : α} : ¬ ComesTo cutFault d a := by
  intro h
  obtain ⟨d', -, h⟩ := h.exists_of_bind
  split at h
  · exact not_comesTo_throw h
  · exact not_comesTo_throw h

theorem not_comesTo_wrongNode {n : Node} {expected : String} {a : α} :
    ¬ ComesTo (wrongNode n expected) d a := by
  rintro ⟨i, i', hrun⟩
  exact gives_wrongNode (P := fun _ => False) n expected d i a i' hrun

/-- Following a node leads to the node that it means. -/
theorem ComesTo.meant?_eq {n target : Node} (h : ComesTo (follow n) d target) :
    d.meant? n = some target := by
  rw [follow.eq_def] at h
  split at h
  · exact (not_comesTo_cutFault h).elim
  · next mark number =>
      obtain ⟨count, -, h⟩ := h.exists_of_bind
      obtain ⟨-, -, h⟩ := h.exists_of_bind
      obtain ⟨d', ⟨i, i', hread⟩, h⟩ := h.exists_of_bind
      cases hread
      dsimp only at h
      split at h
      · obtain ⟨_, hthrow, -⟩ := h.exists_of_bind
        exact (not_comesTo_throw hthrow).elim
      · split at h
        · next hfound =>
            rw [Document.meant?, hfound, eq_of_comesTo_pure h]
            rfl
        · exact (not_comesTo_throw h).elim
  · next hcut halias =>
      rw [eq_of_comesTo_pure h]
      cases n with
      | cut => exact (hcut rfl).elim
      | «alias» mark number => exact (halias mark number rfl).elim
      | scalar | sequence | mapping | absent => rfl

theorem ComesTo.exists_of_onNode {path : String} {n : Node} {r : Node → Read α} {a : α}
    (h : ComesTo (onNode path n r) d a) :
    ∃ target, d.meant? n = some target ∧ ComesTo (r target) d a := by
  obtain ⟨target, htarget, h⟩ := h.exists_of_bind
  exact ⟨target, htarget.meant?_eq, h.of_locate⟩

/-- A text is that of the scalar which is meant. -/
theorem ComesTo.spells {expected path text : String} {n : Node}
    (h : ComesTo (Read.text expected path n) d text) : d.Spells n text := by
  obtain ⟨target, htarget, h⟩ := h.exists_of_onNode
  split at h
  · next mark tag text' style =>
      rw [eq_of_comesTo_pure h]
      exact ⟨mark, tag, style, htarget⟩
  · exact (not_comesTo_wrongNode h).elim

theorem ComesTo.exists_of_once {name : String} {old x : Option α} {r : Read α}
    (h : ComesTo (once name old r) d x) : old = none ∧ ∃ a, x = some a ∧ ComesTo r d a := by
  rw [once.eq_def] at h
  split at h
  · exact (not_comesTo_throw h).elim
  · obtain ⟨a, ha, rfl⟩ := h.exists_of_map
    exact ⟨rfl, a, rfl, ha⟩

/-- An optional value is nothing at a scalar or where nothing is written, and else what is read at the
node that is meant. -/
theorem ComesTo.exists_of_optional {r : Node → Read α} {n : Node} {x : Option α}
    (h : ComesTo (optional r n) d x) : ∃ target, d.meant? n = some target ∧
      (x = none ∧ d.meant? target = some target ∧
          (∀ mark tag entries, target ≠ .mapping mark tag entries) ∨
        ∃ a, x = some a ∧ ComesTo (r target) d a) := by
  obtain ⟨target, htarget, h⟩ := h.exists_of_bind
  refine ⟨target, htarget.meant?_eq, ?_⟩
  have hread : ComesTo (some <$> r target) d x → ∃ a, x = some a ∧ ComesTo (r target) d a := by
    intro h
    obtain ⟨a, ha, hx⟩ := h.exists_of_map
    exact ⟨a, hx.symm, ha⟩
  cases target with
  | absent mark => exact .inl ⟨eq_of_comesTo_pure h, rfl, fun _ _ _ => nofun⟩
  | scalar mark tag text style =>
      have hnone : x = none → x = none ∧ d.meant? (.scalar mark tag text style) =
          some (.scalar mark tag text style) ∧ ∀ mark' tag' entries,
            Node.scalar mark tag text style ≠ .mapping mark' tag' entries :=
        fun hx => ⟨hx, rfl, fun _ _ _ => nofun⟩
      dsimp only at h
      split at h
      · exact .inr (hread h)
      · split at h
        · split at h
          · split at h
            · exact .inl (hnone (eq_of_comesTo_pure h))
            · obtain ⟨i, i', hrun⟩ := h
              cases hrun
          · exact .inr (hread h)
        · split at h
          · exact .inl (hnone (eq_of_comesTo_pure h))
          · exact .inr (hread h)
  | sequence | mapping | «alias» | cut => exact .inr (hread h)

end Read

/-- What a text is read as, its root is read as. -/
theorem comesTo_of_ofText {α : Type} {r : Node → Read α} {text : String} {a : α}
    (h : ofText r text = .ok a) :
    Read.ComesTo (r (Document.ofText text).root) (Document.ofText text) a := by
  obtain ⟨used, hread⟩ := exists_read_of_ofText h
  exact ⟨0, used, hread⟩

end Yaml

namespace Config

open Yaml (Document Node Read)
open Yaml.Read (ComesTo)

variable {α : Type} {d : Document}

/-! ### One field -/

/-- What one field does to the settings read so far, in a document: it sets the setting of its key,
if there was none yet, to what its value is read as; a key without a meaning changes nothing. -/
inductive Takes (d : Document) (depth : Nat) (path : String) (n : Node) (s : Fields) :
    String → Fields → Prop where
  | testPattern {x : Option String} (hnew : s.testPattern = none)
    (hx : ComesTo (Read.optional (Read.text "a string" path) n) d x) :
    Takes d depth path n s "test_pattern" { s with testPattern := some x }
  | root {x : Option Path} (hnew : s.root = none)
    (hx : ComesTo (Read.optional (fun n => .mk <$> Read.text "path string" path n) n) d x) :
    Takes d depth path n s "root" { s with root := some x }
  | recursive {x : Option Bool} (hnew : s.recursive = none)
    (hx : ComesTo (Read.optional (Read.bool path) n) d x) :
    Takes d depth path n s "recursive" { s with recursive := some x }
  | exclude {x : Option (List String)} (hnew : s.exclude = none)
    (hx : ComesTo (Read.optional (Read.list (fun _ => Read.text "a string") depth path) n) d x) :
    Takes d depth path n s "exclude" { s with exclude := some x }
  | timeoutMillis {x : Option Nat} (hnew : s.timeoutMillis = none)
    (hx : ComesTo (Read.optional (Read.nat path) n) d x) :
    Takes d depth path n s "timeout_ms" { s with timeoutMillis := some x }
  | defaultInput {x : Option Json} (hnew : s.defaultInput = none)
    (hx : ComesTo (Read.optional (Read.json depth path) n) d x) :
    Takes d depth path n s "default_probe_input" { s with defaultInput := some x }
  | quietProbes {x : Option Bool} (hnew : s.quietProbes = none)
    (hx : ComesTo (Read.optional (Read.bool path) n) d x) :
    Takes d depth path n s "quiet_probes" { s with quietProbes := some x }
  | probeSubstringRules {x : Option Bool} (hnew : s.probeSubstringRules = none)
    (hx : ComesTo (Read.optional (Read.bool path) n) d x) :
    Takes d depth path n s "probe_substring_rules" { s with probeSubstringRules := some x }
  | ignored {key : String}
    (h : key ∉ ["test_pattern", "root", "recursive", "exclude", "timeout_ms",
      "default_probe_input", "quiet_probes", "probe_substring_rules"]) :
    Takes d depth path n s key s

/-- A setting is set once, to what its value is read as. -/
theorem exists_of_readSetting {name : String} {old : Setting α} {r : Node → Read α} {n : Node}
    {set : Setting α → Fields} {s' : Fields}
    (h : ComesTo (do return set (← readSetting name old r n)) d s') :
    old = none ∧ ∃ x, s' = set (some x) ∧ ComesTo (Read.optional r n) d x := by
  obtain ⟨y, hy, hs⟩ := h.exists_of_bind
  obtain ⟨hold, x, rfl, hx⟩ := ComesTo.exists_of_once hy
  exact ⟨hold, x, Read.eq_of_comesTo_pure hs, hx⟩

theorem takes_readField {depth : Nat} {s s' : Fields} {key path : String} {n : Node}
    (h : ComesTo (readField depth s key path n) d s') : Takes d depth path n s key s' := by
  rw [readField.eq_def] at h
  split at h
  case h_1 =>
    obtain ⟨hnew, x, rfl, hx⟩ := exists_of_readSetting h
    exact .testPattern hnew hx
  case h_2 =>
    obtain ⟨hnew, x, rfl, hx⟩ := exists_of_readSetting h
    exact .root hnew hx
  case h_3 =>
    obtain ⟨hnew, x, rfl, hx⟩ := exists_of_readSetting h
    exact .recursive hnew hx
  case h_4 =>
    obtain ⟨hnew, x, rfl, hx⟩ := exists_of_readSetting h
    exact .exclude hnew hx
  case h_5 =>
    obtain ⟨hnew, x, rfl, hx⟩ := exists_of_readSetting h
    exact .timeoutMillis hnew hx
  case h_6 =>
    obtain ⟨hnew, x, rfl, hx⟩ := exists_of_readSetting h
    exact .defaultInput hnew hx
  case h_7 =>
    obtain ⟨hnew, x, rfl, hx⟩ := exists_of_readSetting h
    exact .quietProbes hnew hx
  case h_8 =>
    obtain ⟨hnew, x, rfl, hx⟩ := exists_of_readSetting h
    exact .probeSubstringRules hnew hx
  case h_9 h₁ h₂ h₃ h₄ h₅ h₆ h₇ h₈ =>
    obtain ⟨-, -, h⟩ := h.exists_of_bind
    rw [Read.eq_of_comesTo_pure h]
    refine .ignored ?_
    simp only [List.mem_cons, List.not_mem_nil, or_false, not_or]
    exact ⟨h₁, h₂, h₃, h₄, h₅, h₆, h₇, h₈⟩

/-! ### One key -/

/-- A key of configuration files: its name, the setting that it stands for, and how its value is
read at a depth. -/
structure Key (α : Type) where
  name : String
  setting : Fields → Setting α
  read : Nat → String → Node → Read α

namespace Key

def testPattern : Key String := ⟨"test_pattern", Fields.testPattern, fun _ => Read.text "a string"⟩

def root : Key Path := ⟨"root", Fields.root, fun _ path n => .mk <$> Read.text "path string" path n⟩

def recursive : Key Bool := ⟨"recursive", Fields.recursive, fun _ => Read.bool⟩

def exclude : Key (List String) :=
  ⟨"exclude", Fields.exclude, fun depth => Read.list (fun _ => Read.text "a string") depth⟩

def timeoutMillis : Key Nat := ⟨"timeout_ms", Fields.timeoutMillis, fun _ => Read.nat⟩

def defaultInput : Key Json := ⟨"default_probe_input", Fields.defaultInput, Read.json⟩

def quietProbes : Key Bool := ⟨"quiet_probes", Fields.quietProbes, fun _ => Read.bool⟩

def probeSubstringRules : Key Bool :=
  ⟨"probe_substring_rules", Fields.probeSubstringRules, fun _ => Read.bool⟩

/-- A key sets its own setting, and no other key does. -/
def Governs (k : Key α) : Prop :=
  ∀ {d depth path n s key s'}, Takes d depth path n s key s' →
    (key = k.name → k.setting s = none ∧
      ∃ x, k.setting s' = some x ∧ ComesTo (Read.optional (k.read depth path) n) d x) ∧
    (key ≠ k.name → k.setting s' = k.setting s)

theorem governs : testPattern.Governs ∧ root.Governs ∧ recursive.Governs ∧ exclude.Governs ∧
    timeoutMillis.Governs ∧ defaultInput.Governs ∧ quietProbes.Governs ∧
    probeSubstringRules.Governs := by
  refine ⟨?_, ?_, ?_, ?_, ?_, ?_, ?_, ?_⟩
  all_goals
    intro d depth path n s key s' h
    cases h with
    | ignored hkey =>
        refine ⟨fun heq => absurd ?_ hkey, fun _ => rfl⟩
        rw [heq]
        decide
    | _ =>
        first
        | exact ⟨fun _ => ⟨‹_›, _, rfl, ‹_›⟩, fun hne => absurd rfl hne⟩
        | exact ⟨fun heq => absurd heq (by decide), fun _ => rfl⟩

end Key

/-- Whether a setting is what entries say under a key. If no entry has the key, that is nothing.
Otherwise exactly one has it, and it is what the value there is read as; null is nothing. -/
def Said (d : Document) (entries : List (Node × Node)) (name : String) (r : String → Node → Read α)
    (setting : Option α) : Prop :=
  (setting = none ∧ ∀ e ∈ entries, ¬ d.Spells e.1 name) ∨
  ∃ before key value after, entries = before ++ (key, value) :: after ∧ d.Spells key name ∧
    (∀ e ∈ before ++ after, ¬ d.Spells e.1 name) ∧
    ComesTo (Read.optional (r (Read.valuePath "." key)) value) d setting

namespace Key

variable {k : Key α} {depth : Nat} {s s' : Fields}

/-- What the first entry does, and then the others. -/
theorem exists_of_fields_cons {key value : Node} {rest : List (Node × Node)}
    (h : ComesTo (Read.fields "." "field identifier" (readField depth) s ((key, value) :: rest))
      d s') :
    ∃ name next, d.Spells key name ∧ Takes d depth (Read.valuePath "." key) value s name next ∧
      ComesTo (Read.fields "." "field identifier" (readField depth) next rest) d s' := by
  obtain ⟨name, hname, h⟩ := h.exists_of_bind
  obtain ⟨next, hnext, h⟩ := h.exists_of_bind
  exact ⟨name, next, hname.spells, takes_readField hnext, h⟩

/-- A setting that was set stays, and no entry has its key any more. -/
theorem keeps_of_fields (hk : k.Governs) {x : Option α} (hset : k.setting s = some x)
    {entries : List (Node × Node)}
    (h : ComesTo (Read.fields "." "field identifier" (readField depth) s entries) d s') :
    k.setting s' = some x ∧ ∀ e ∈ entries, ¬ d.Spells e.1 k.name := by
  induction entries generalizing s with
  | nil =>
      rw [Read.eq_of_comesTo_pure h]
      exact ⟨hset, fun _ he => absurd he List.not_mem_nil⟩
  | cons entry rest ih =>
      obtain ⟨name, next, hspells, htakes, h⟩ := exists_of_fields_cons h
      obtain ⟨hown, hother⟩ := hk htakes
      have hne : name ≠ k.name := by
        intro heq
        have hnone := (hown heq).1
        rw [hset] at hnone
        cases hnone
      obtain ⟨hkept, hrest⟩ := ih ((hother hne).trans hset) h
      refine ⟨hkept, List.forall_mem_cons.mpr ⟨fun hname => hne (hspells.unique hname), hrest⟩⟩

/-- A setting that was not set before is what the entries say under its key. -/
theorem said_of_fields (hk : k.Governs) (hnew : k.setting s = none) {entries : List (Node × Node)}
    (h : ComesTo (Read.fields "." "field identifier" (readField depth) s entries) d s') :
    Said d entries k.name (k.read depth) (k.setting s').join := by
  induction entries generalizing s with
  | nil =>
      rw [Read.eq_of_comesTo_pure h, hnew]
      exact .inl ⟨rfl, fun _ he => absurd he List.not_mem_nil⟩
  | cons entry rest ih =>
      obtain ⟨name, next, hspells, htakes, h⟩ := exists_of_fields_cons h
      obtain ⟨hown, hother⟩ := hk htakes
      by_cases hname : name = k.name
      · obtain ⟨-, x, hx, hread⟩ := hown hname
        obtain ⟨hkept, hrest⟩ := keeps_of_fields hk hx h
        rw [hkept]
        exact .inr ⟨[], entry.1, entry.2, rest, rfl, hname ▸ hspells, hrest, hread⟩
      · have hfirst : ¬ d.Spells entry.1 k.name := fun h => hname (hspells.unique h)
        rcases ih ((hother hname).trans hnew) h with ⟨hnone, hrest⟩ |
          ⟨before, key, value, after, rfl, hkey, hrest, hread⟩
        · exact .inl ⟨hnone, List.forall_mem_cons.mpr ⟨hfirst, hrest⟩⟩
        · exact .inr ⟨entry :: before, key, value, after, rfl, hkey,
            List.forall_mem_cons.mpr ⟨hfirst, hrest⟩, hread⟩

end Key

/-! ### Layers -/

/-- Whether every setting of a layer is what entries say under its own key. -/
structure Layer.SaidIn (d : Document) (entries : List (Node × Node)) (l : Layer) : Prop where
  testPattern : Said d entries "test_pattern" (Read.text "a string") l.testPattern
  root : Said d entries "root" (fun path n => .mk <$> Read.text "path string" path n) l.root
  recursive : Said d entries "recursive" Read.bool l.recursive
  exclude : Said d entries "exclude" (Read.list (fun _ => Read.text "a string") 127) l.exclude
  timeoutMillis : Said d entries "timeout_ms" Read.nat l.timeoutMillis
  defaultInput : Said d entries "default_probe_input" (Read.json 127) l.defaultInput
  quietProbes : Said d entries "quiet_probes" Read.bool l.quietProbes
  probeSubstringRules : Said d entries "probe_substring_rules" Read.bool l.probeSubstringRules

/-- Where nothing is said, no setting is set. -/
theorem saidIn_empty : Layer.empty.SaidIn d [] := by
  have hnone : ∀ {β : Type} {name : String} {r : String → Node → Read β}, Said d [] name r none :=
    .inl ⟨rfl, fun _ he => absurd he List.not_mem_nil⟩
  exact ⟨hnone, hnone, hnone, hnone, hnone, hnone, hnone, hnone⟩

theorem saidIn_of_fields {entries : List (Node × Node)} {s : Fields}
    (h : ComesTo (Read.fields "." "field identifier" (readField 127)
      ⟨none, none, none, none, none, none, none, none⟩ entries) d s) :
    s.layer.SaidIn d entries := by
  obtain ⟨htestPattern, hroot, hrecursive, hexclude, htimeoutMillis, hdefaultInput, hquietProbes,
    hprobeSubstringRules⟩ := Key.governs
  exact
    { testPattern := Key.said_of_fields htestPattern rfl h
      root := Key.said_of_fields hroot rfl h
      recursive := Key.said_of_fields hrecursive rfl h
      exclude := Key.said_of_fields hexclude rfl h
      timeoutMillis := Key.said_of_fields htimeoutMillis rfl h
      defaultInput := Key.said_of_fields hdefaultInput rfl h
      quietProbes := Key.said_of_fields hquietProbes rfl h
      probeSubstringRules := Key.said_of_fields hprobeSubstringRules rfl h }

/-- A layer says what the entries of its mapping do; left out, it is empty. -/
theorem saidIn_of_readLayer {n : Node} {l : Layer} (h : ComesTo (readLayer n) d l) :
    (∃ mark tag entries, d.meant? n = some (.mapping mark tag entries) ∧ l.SaidIn d entries) ∨
      (∀ mark tag entries, d.meant? n ≠ some (.mapping mark tag entries)) ∧ l = .empty := by
  obtain ⟨target, htarget, h⟩ := h.exists_of_onNode
  rw [htarget]
  split at h
  · next mark tag entries =>
      obtain ⟨s, hs, h⟩ := h.exists_of_bind
      rw [Read.eq_of_comesTo_pure h]
      exact .inl ⟨mark, tag, entries, rfl, saidIn_of_fields hs⟩
  · next hmapping =>
      refine .inr ⟨fun mark tag entries heq => hmapping mark tag entries (Option.some.inj heq), ?_⟩
      split at h
      · exact Read.eq_of_comesTo_pure h
      · exact (Read.not_comesTo_wrongNode h).elim

/-- **A configuration file is read key by key.** Every setting of the layer in a text is what the
text says under its own key. -/
theorem saidIn_of_layerOfText {text : String} {l : Layer} (h : layerOfText text = .ok l) :
    l.SaidIn (Document.ofText text) (Document.ofText text).entries := by
  rw [layerOfText] at h
  cases hx : Yaml.ofText (Read.optional readLayer) text with
  | error fault =>
      rw [hx] at h
      cases h
  | ok x =>
      rw [hx] at h
      cases h
      obtain ⟨target, htarget, hread⟩ := (Yaml.comesTo_of_ofText hx).exists_of_optional
      rw [Document.entries, htarget, Option.bind_some]
      rcases hread with ⟨rfl, hself, hmapping⟩ | ⟨l, rfl, hl⟩
      · rw [hself]
        split
        · next mark tag entries heq => exact (hmapping mark tag entries (Option.some.inj heq)).elim
        · exact saidIn_empty
      · rcases saidIn_of_readLayer hl with
          ⟨mark, tag, entries, hentries, hsaid⟩ | ⟨hmapping, hempty⟩
        · rw [hentries]
          exact hsaid
        · rw [show (some l).getD .empty = .empty from hempty]
          split
          · next mark tag entries heq => exact (hmapping mark tag entries heq).elim
          · exact saidIn_empty

end Config
end CallCheck
