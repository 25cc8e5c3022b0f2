import CallCheck.Proofs.Fallback
import CallCheck.Proofs.Substrings
import CallCheck.Proofs.Tools

/-!
# The prompt of messages

The prompt of an argument with a list of messages has one text for each message, joined by spaces. A
message should say its content, or else its text, where a null counts as absent (`Extract.Says`). But the
field that is read is the first that is there, and if a null stands in it (`Extract.ReadsNull`), the
message reads `null`:

    messageText_of_readsNull : ReadsNull m → messageText m = "null"
    says_messageText : ¬ ReadsNull m → Says m (messageText m)

So to delete a null field of a message may change the prompt, although it does not change what the message
says (`Extract.Says.pruned`). `Extract.null_content_absent_unless_read` says exactly when it does; for
this the texts have to be found again in the prompt, which works because `null` has no space in it
(`Extract.eq_of_intercalate_eq`). `Extract.null_content_read_as_text` is a message whose text is lost
behind a null.
-/

namespace CallCheck

open Fallback (FirstOf First)

/-! ### Deleting fields -/

namespace Json

/-- The value without its field of a key, if it is an object that has it. -/
def without (key : String) : Json → Json
  | .object fields => .object (fields.filter (·.1 ≠ key))
  | v => v

variable {v : Json} {key key' : String}

theorem get?_without_self : (v.without key).get? key = none := by
  cases v with
  | object fields => simp [without, get?, field?]
  | null | bool | number | text | list => rfl

theorem get?_without_of_ne (h : key' ≠ key) : (v.without key).get? key' = v.get? key' := by
  cases v with
  | object fields =>
      simp only [without, get?, field?, List.find?_filter]
      congr 2
      funext f
      by_cases hf : f.1 = key'
      · simp [hf, h]
      · simp [hf]
  | null | bool | number | text | list => rfl

theorem not_text_of_get? (h : v.get? key ≠ none) : ∀ s, v ≠ .text s := by
  rintro s rfl
  exact h rfl

theorem without_ne_text (h : ∀ s, v ≠ .text s) : ∀ s, v.without key ≠ .text s := by
  cases v with
  | text s => exact absurd rfl (h s)
  | null | bool | number | list | object => exact fun _ heq => nomatch heq

end Json

namespace Extract

/-! ### Contents -/

/-- The text of a part of a content: a part that is a text, or the text in its field. -/
inductive PartSays : Json → String → Prop where
  | text (s : String) : PartSays (.text s) s
  | field {part : Json} {s : String} (h : part.get? "text" = some (.text s)) : PartSays part s

/-- The text of a content: a text as it stands, the texts of those parts of a list that have one, joined
by spaces, and anything else as JSON. -/
inductive ContentSays : Json → String → Prop where
  | text (s : String) : ContentSays (.text s) s
  | parts {parts : List Json} {texts : List String} (h : NamesOf PartSays parts texts) :
      ContentSays (.list parts) (" ".intercalate texts)
  | other {v : Json} (htext : ∀ s, v ≠ .text s) (hlist : ∀ parts, v ≠ .list parts) :
      ContentSays v v.compact

variable {c m m' : Json} {s t : String}

theorem partText?_eq_some_iff {part : Json} : partText? part = some s ↔ PartSays part s := by
  by_cases htext : ∃ t, part = .text t
  · obtain ⟨t, rfl⟩ := htext
    constructor
    · rintro ⟨⟩
      exact .text s
    · intro h
      cases h with
      | text => rfl
      | field h => cases h
  · have hpart : partText? part = part.get? "text" >>= Json.text? := by
      cases part with
      | text t => exact absurd ⟨t, rfl⟩ htext
      | null | bool | number | list | object => rfl
    rw [hpart]
    constructor
    · intro h
      obtain ⟨v, hv, hs⟩ := Option.bind_eq_some_iff.mp h
      rw [Json.text?_eq_some_iff.mp hs] at hv
      exact .field hv
    · intro h
      cases h with
      | text => exact absurd ⟨_, rfl⟩ htext
      | field h => rw [h]; rfl

theorem namesOf_partSays_iff {parts : List Json} {texts : List String} :
    NamesOf PartSays parts texts ↔ texts = parts.filterMap partText? :=
  namesOf_iff fun _ _ => partText?_eq_some_iff

theorem contentSays_iff : ContentSays c s ↔ s = contentText c := by
  constructor
  · intro h
    cases h with
    | text => rfl
    | parts h => rw [namesOf_partSays_iff.mp h]; rfl
    | other htext hlist =>
        cases c with
        | text s => exact absurd rfl (htext s)
        | list parts => exact absurd rfl (hlist parts)
        | null | bool | number | object => rfl
  · rintro rfl
    cases c with
    | text s => exact .text s
    | list parts => exact .parts (namesOf_partSays_iff.mpr rfl)
    | null | bool | number | object => exact .other nofun nofun

/-! ### Messages -/

/-- The two fields that may have the text of a message, in order. -/
def contents (m : Json) : List (Option Json) := [m.get? "content", m.get? "text"]

/-- What a message says: itself if it is a text, else what the first of its two fields says that is
there and not null, or nothing. -/
inductive Says : Json → String → Prop where
  | text (s : String) : Says (.text s) s
  | content {m c : Json} {s : String} (h : FirstOf (· ≠ .null) (contents m) c)
      (hc : ContentSays c s) : Says m s
  | silent {m : Json} (htext : ∀ s, m ≠ .text s) (h : ∀ c, ¬ FirstOf (· ≠ .null) (contents m) c) :
      Says m ""

/-- Whether the field that a message is read from, the first of the two that is there, is null. -/
def ReadsNull (m : Json) : Prop := First (contents m) .null

theorem first_contents_iff :
    First (contents m) c ↔ ["content", "text"].findSome? (m.get? ·) = some c := by
  rw [contents, Fallback.first_cons, Fallback.first_cons, List.findSome?_cons]
  cases m.get? "content" with
  | some v => simp
  | none =>
      rw [List.findSome?_cons]
      cases m.get? "text" with
      | some v => simp
      | none => simp [Fallback.not_firstOf_nil, First]

/-- The fields of a text are not looked at. -/
theorem not_firstOf_contents_text {usable : Json → Prop} :
    ¬ FirstOf usable (contents (.text s)) c := by
  intro h
  have hmem : some c ∈ [none, none] := h.mem
  simp at hmem

theorem messageText_of_ne_text (h : ∀ s, m ≠ .text s) :
    messageText m = (["content", "text"].findSome? (m.get? ·)).elim "" contentText := by
  cases m with
  | text s => exact absurd rfl (h s)
  | null | bool | number | list | object =>
      simp only [messageText]
      split
      · next hc => rw [hc]; rfl
      · next hc => rw [hc]; rfl

/-- A message is read from its first field. -/
theorem messageText_of_first (h : First (contents m) c) : messageText m = contentText c := by
  have htext : ∀ s, m ≠ .text s := by
    rintro s rfl
    exact not_firstOf_contents_text h
  rw [messageText_of_ne_text htext, first_contents_iff.mp h]
  rfl

theorem messageText_of_readsNull (h : ReadsNull m) : messageText m = "null" := messageText_of_first h

/-- Unless it is read from a null, a message reads what it says. -/
theorem says_messageText (h : ¬ ReadsNull m) : Says m (messageText m) := by
  by_cases htext : ∃ s, m = .text s
  · obtain ⟨s, rfl⟩ := htext
    exact .text s
  have htext := not_exists.mp htext
  by_cases hfirst : ∃ c, First (contents m) c
  · obtain ⟨c, hc⟩ := hfirst
    have hnull : c ≠ .null := by
      rintro rfl
      exact h hc
    exact .content (.of_first hc hnull) (contentSays_iff.mpr (messageText_of_first hc))
  · have hnone : ["content", "text"].findSome? (m.get? ·) = none :=
      Option.eq_none_iff_forall_ne_some.mpr fun c hc => hfirst ⟨c, first_contents_iff.mpr hc⟩
    rw [messageText_of_ne_text htext, hnone]
    exact .silent htext fun c hc => hfirst (Fallback.exists_firstOf hc.mem trivial)

theorem Says.unique (h : Says m s) (h' : Says m t) : s = t := by
  cases h with
  | text =>
      cases h' with
      | text => rfl
      | content h' _ => exact absurd h' not_firstOf_contents_text
      | silent htext _ => exact absurd rfl (htext s)
  | content h hc =>
      cases h' with
      | text => exact absurd h not_firstOf_contents_text
      | content h' hc' =>
          obtain rfl := h.unique h'
          rw [contentSays_iff.mp hc, contentSays_iff.mp hc']
      | silent _ hnone => exact absurd h (hnone _)
  | silent htext hnone =>
      cases h' with
      | text => exact absurd rfl (htext t)
      | content h' _ => exact absurd h' (hnone _)
      | silent _ _ => rfl

theorem exists_says (m : Json) : ∃ s, Says m s := by
  by_cases htext : ∃ s, m = .text s
  · obtain ⟨s, rfl⟩ := htext
    exact ⟨s, .text s⟩
  by_cases hfirst : ∃ c, FirstOf (· ≠ .null) (contents m) c
  · obtain ⟨c, hc⟩ := hfirst
    exact ⟨contentText c, .content hc (contentSays_iff.mpr rfl)⟩
  · exact ⟨"", .silent (not_exists.mp htext) (not_exists.mp hfirst)⟩

/-- The word `null` is read from a null, or it is what the message says. -/
theorem messageText_eq_null_iff : messageText m = "null" ↔ ReadsNull m ∨ Says m "null" := by
  by_cases hnull : ReadsNull m
  · exact iff_of_true (messageText_of_readsNull hnull) (.inl hnull)
  · rw [or_iff_right hnull]
    constructor
    · intro heq
      rw [← heq]
      exact says_messageText hnull
    · exact (says_messageText hnull).unique

theorem messageText_eq_or_readsNull (h : Says m s) : ReadsNull m ∨ messageText m = s :=
  or_iff_not_imp_left.mpr fun hnull => (says_messageText hnull).unique h

/-- A message is read as what it says, unless it is read from a null and says something else. -/
theorem messageText_eq_iff (h : Says m s) : messageText m = s ↔ (ReadsNull m → Says m "null") := by
  by_cases hnull : ReadsNull m
  · rw [messageText_of_readsNull hnull, imp_iff_right hnull]
    constructor
    · rintro rfl
      exact h
    · exact fun hsaid => hsaid.unique h
  · exact iff_of_true ((says_messageText hnull).unique h) fun hm => absurd hm hnull

/-! ### Deleting null fields -/

/-- A message of which some of the null fields for its text are deleted. -/
inductive Pruned : Json → Json → Prop where
  | same (m : Json) : Pruned m m
  | delete {m m' : Json} {key : String} (hkey : key = "content" ∨ key = "text")
      (hnull : m.get? key = some .null) (rest : Pruned (m.without key) m') : Pruned m m'

/-- A place as it was, or a null place that is empty now. -/
def Cleared (p q : Option Json) : Prop := q = p ∨ p = some .null ∧ q = none

theorem Cleared.trans {p q r : Option Json} (h : Cleared p q) (h' : Cleared q r) : Cleared p r := by
  rcases h with rfl | ⟨hp, rfl⟩
  · exact h'
  · rcases h' with rfl | ⟨hq, -⟩
    · exact .inr ⟨hp, rfl⟩
    · cases hq

theorem Pruned.cleared (h : Pruned m m') (key : String) : Cleared (m.get? key) (m'.get? key) := by
  induction h with
  | same m => exact .inl rfl
  | @delete m m' deleted hkey hnull rest ih =>
      have hstep : Cleared (m.get? key) ((m.without deleted).get? key) := by
        by_cases heq : key = deleted
        · subst heq
          exact .inr ⟨hnull, Json.get?_without_self⟩
        · exact .inl (Json.get?_without_of_ne heq)
      exact hstep.trans ih

theorem Pruned.cleared_contents (h : Pruned m m') :
    List.Forall₂ Cleared (contents m) (contents m') :=
  .cons (h.cleared "content") (.cons (h.cleared "text") .nil)

/-- Only objects have fields to be deleted. -/
theorem Pruned.text_iff (h : Pruned m m') : m' = .text s ↔ m = .text s := by
  induction h with
  | same m => exact Iff.rfl
  | @delete m m' key hkey hnull rest ih =>
      have htext : ∀ s, m ≠ .text s := Json.not_text_of_get? (by rw [hnull]; exact nofun)
      rw [ih]
      exact iff_of_false (Json.without_ne_text htext s) (htext s)

/-- Only the text that a message is, or the first content of use in its fields, tells what it says. -/
theorem Says.of_agree (htext : ∀ t, m' = .text t ↔ m = .text t)
    (hplaces : ∀ c, FirstOf (· ≠ .null) (contents m) c ↔ FirstOf (· ≠ .null) (contents m') c)
    (h : Says m s) : Says m' s := by
  cases h with
  | text =>
      rw [(htext s).mpr rfl]
      exact .text s
  | content hc hs => exact .content ((hplaces _).mp hc) hs
  | silent hnot hnone =>
      exact .silent (fun t => (htext t).not.mpr (hnot t)) fun c => (hplaces c).not.mp (hnone c)

/-- What a message says does not change. -/
theorem Says.pruned (h : Pruned m m') : Says m s ↔ Says m' s := by
  have hplaces : ∀ c, FirstOf (· ≠ .null) (contents m) c ↔ FirstOf (· ≠ .null) (contents m') c := by
    intro c
    refine FirstOf.congr (h.cleared_contents.imp ?_)
    rintro p q (rfl | ⟨rfl, rfl⟩) v hv
    · exact Iff.rfl
    · exact iff_of_false (fun heq => hv (Option.some.inj heq).symm) nofun
  have htext : ∀ t, m' = .text t ↔ m = .text t := fun t => h.text_iff
  constructor
  · exact Says.of_agree htext hplaces
  · exact Says.of_agree (fun t => (htext t).symm) fun c => (hplaces c).symm

/-- What is read from a null in the end was read from a null before. -/
theorem ReadsNull.of_pruned (h : Pruned m m') (hnull : ReadsNull m') : ReadsNull m := by
  have hcleared : ∀ ps qs : List (Option Json), List.Forall₂ Cleared ps qs →
      First qs .null → First ps .null := by
    intro ps qs hpq
    induction hpq with
    | nil => exact id
    | cons hplace _ ih =>
        simp only [Fallback.first_cons]
        rcases hplace with rfl | ⟨rfl, -⟩
        · exact Or.imp_right (And.imp_right ih)
        · exact fun _ => .inl rfl
  exact hcleared _ _ h.cleared_contents hnull

/-- Without some null fields a message is read as before, unless it is read from one of them: then it has
to be read as `null` from what is left. -/
theorem messageText_pruned (h : Pruned m m') :
    messageText m = messageText m' ↔ (ReadsNull m → ReadsNull m' ∨ Says m' "null") := by
  by_cases hnull : ReadsNull m
  · rw [messageText_of_readsNull hnull, eq_comm, messageText_eq_null_iff]
    exact (imp_iff_right hnull).symm
  · have hnull' : ¬ ReadsNull m' := fun hm' => hnull (hm'.of_pruned h)
    have hsame := (says_messageText hnull).unique ((Says.pruned h).mpr (says_messageText hnull'))
    exact iff_of_true hsame fun hm => absurd hm hnull

/-! ### Joined texts -/

section

variable {α : Type} [DecidableEq α] {sep : α} {as bs : List (List α)}

theorem count_intercalate_le (h : List.Forall₂ (fun a b => a.count sep ≤ b.count sep) as bs) :
    ([sep].intercalate as).count sep ≤ ([sep].intercalate bs).count sep := by
  induction h with
  | nil => exact Nat.le_refl _
  | @cons a b as bs hab hrest ih =>
      cases hrest with
      | nil => simpa using hab
      | cons hab' hrest =>
          simp only [List.intercalate_cons_cons, List.count_append] at ih ⊢
          omega

/-- If no list in `as` has more separators in it than that in `bs`, they can be told from the joined
lists: a separator that stood elsewhere would be one too many. -/
theorem eq_of_intercalate_eq (h : List.Forall₂ (fun a b => a.count sep ≤ b.count sep) as bs)
    (heq : [sep].intercalate as = [sep].intercalate bs) : as = bs := by
  induction h with
  | nil => rfl
  | @cons a b as bs hab hrest ih =>
      cases hrest with
      | nil => simpa using heq
      | @cons a' b' as bs hab' hrest =>
          have hcount := count_intercalate_le (List.Forall₂.cons hab' hrest)
          simp only [List.intercalate_cons_cons, List.append_assoc] at heq
          rcases List.append_eq_append_iff.mp heq with ⟨d, hb, hd⟩ | ⟨d, ha, hd⟩
          · cases d with
            | nil =>
                rw [List.append_nil] at hb
                rw [hb, ih (List.append_cancel_left hd)]
            | cons x d =>
                -- then more separators are left on the right hand side of the first one
                rw [List.singleton_append, List.cons_append, List.cons.injEq] at hd
                have hleft := congrArg (List.count sep) hd.2
                simp only [List.count_append, List.count_singleton_self] at hleft
                omega
          · cases d with
            | nil =>
                rw [List.append_nil] at ha
                rw [ha, ih (List.append_cancel_left hd.symm)]
            | cons x d =>
                rw [List.singleton_append, List.cons_append, List.cons.injEq] at hd
                have hmore : a.count sep = b.count sep + (sep :: d).count sep := by
                  rw [ha, ← hd.1, List.count_append]
                rw [List.count_cons_self] at hmore
                omega

end

/-- Texts some of which are `null` are joined to the same only if they are the same. -/
theorem intercalate_eq_iff {texts texts' : List String}
    (h : List.Forall₂ (fun s t => s = t ∨ s = "null") texts texts') :
    " ".intercalate texts = " ".intercalate texts' ↔ texts = texts' := by
  constructor
  · intro heq
    have hcount : List.Forall₂ (fun a b => List.count ' ' a ≤ List.count ' ' b)
        (texts.map String.toList) (texts'.map String.toList) := by
      rw [List.forall₂_map_left_iff, List.forall₂_map_right_iff]
      refine h.imp ?_
      rintro s t (rfl | rfl)
      · exact Nat.le_refl _
      · exact Nat.zero_le _
    have hjoined := congrArg String.toList heq
    rw [String.toList_intercalate, String.toList_intercalate] at hjoined
    exact List.map_injective_iff.mpr (fun _ _ => String.toList_inj.mp)
      (eq_of_intercalate_eq hcount hjoined)
  · exact congrArg _

/-! ### Prompts -/

/-- An argument that has a list of messages, and no prompt that is present. -/
structure Speaks (first : Json) (ms : List Json) : Prop where
  noPrompt : ∀ p, first.get? "prompt" = some p → isPresent p = false
  messages : first.get? "messages" = some (.list ms)

variable {first : Json} {ms ms' : List Json}

theorem prompt_cons_of_ne_text (h : ∀ s, first ≠ .text s) (rest : List Json) :
    prompt (first :: rest) = (promptOf? first).getD (joined (first :: rest)) := by
  cases first with
  | text s => exact absurd rfl (h s)
  | null | bool | number | list | object => rfl

/-- One text for each message, in order. -/
theorem prompt_of_speaks (h : Speaks first ms) (rest : List Json) :
    prompt (first :: rest) = " ".intercalate (ms.map messageText) := by
  have hprompt : promptOf? first = some (" ".intercalate (ms.map messageText)) := by
    rw [promptOf?, filter_isPresent_eq_none.mpr h.noPrompt, h.messages]
  have htext : ∀ s, first ≠ .text s :=
    Json.not_text_of_get? (by rw [h.messages]; exact Option.some_ne_none _)
  rw [prompt_cons_of_ne_text htext, hprompt]
  rfl

/-- The prompt has certain texts joined in it, which differ from those of the messages only where these
are read from a null, exactly if they do not differ at all. -/
theorem prompt_eq_intercalate_iff (h : Speaks first ms) (rest : List Json) {texts : List String}
    (htexts : List.Forall₂ (fun m t => ReadsNull m ∨ messageText m = t) ms texts) :
    prompt (first :: rest) = " ".intercalate texts ↔
      List.Forall₂ (fun m t => messageText m = t) ms texts := by
  have hnull : List.Forall₂ (fun s t => s = t ∨ s = "null") (ms.map messageText) texts := by
    rw [List.forall₂_map_left_iff]
    exact htexts.imp fun m t hm => hm.symm.imp_right messageText_of_readsNull
  rw [prompt_of_speaks h, intercalate_eq_iff hnull, ← List.forall₂_eq_eq_eq,
    List.forall₂_map_left_iff]

theorem exists_forall₂_says (ms : List Json) : ∃ texts, List.Forall₂ Says ms texts := by
  induction ms with
  | nil => exact ⟨[], .nil⟩
  | cons m ms ih =>
      obtain ⟨texts, htexts⟩ := ih
      obtain ⟨t, ht⟩ := exists_says m
      exact ⟨t :: texts, .cons ht htexts⟩

/-- **A null content counts as absent unless a message is read from it.** The prompt of messages is what
they say, joined by spaces, exactly if every message that is read from a null says `null` itself. Deleting
null fields of messages, of as many as one likes, does not change the prompt exactly if each message that
is read from a null is read as `null` afterwards too. In particular it changes nothing where no message is
read from a null. -/
theorem null_content_absent_unless_read (first : Json) (rest ms : List Json) (h : Speaks first ms) :
    (∃ texts, List.Forall₂ Says ms texts ∧
      (prompt (first :: rest) = " ".intercalate texts ↔ ∀ m ∈ ms, ReadsNull m → Says m "null")) ∧
    ∀ first' rest' ms', Speaks first' ms' → List.Forall₂ Pruned ms ms' →
      (prompt (first :: rest) = prompt (first' :: rest') ↔
        List.Forall₂ (fun m m' => ReadsNull m → ReadsNull m' ∨ Says m' "null") ms ms') := by
  refine ⟨?said, ?pruned⟩
  case said =>
    obtain ⟨texts, hsaid⟩ := exists_forall₂_says ms
    refine ⟨texts, hsaid, ?_⟩
    rw [prompt_eq_intercalate_iff h rest (hsaid.imp fun m t => messageText_eq_or_readsNull)]
    constructor
    · intro hsame
      have hboth : List.Forall₂ (fun m t => (ReadsNull m → Says m "null") ∧ Says m t) ms texts :=
        List.Forall₂.mp (fun m t hm heq => ⟨(messageText_eq_iff hm).mp heq, hm⟩) hsaid hsame
      exact ((List.forall₂_and_left _ _).mp hboth).1
    · intro hnull
      refine ((List.forall₂_and_left _ _).mpr ⟨hnull, hsaid⟩).imp ?_
      exact fun m t hm => (messageText_eq_iff hm.2).mpr hm.1
  case pruned =>
    intro first' rest' ms' h' hpruned
    rw [prompt_of_speaks h' rest', prompt_eq_intercalate_iff h rest, List.forall₂_map_right_iff]
    · constructor
      · exact List.Forall₂.mp (fun m m' hm => (messageText_pruned hm).mp) hpruned
      · exact List.Forall₂.mp (fun m m' hm => (messageText_pruned hm).mpr) hpruned
    · rw [List.forall₂_map_right_iff]
      refine hpruned.imp fun m m' hm => or_iff_not_imp_left.mpr fun hnull => ?_
      exact (messageText_pruned hm).mpr fun hm => absurd hm hnull

/-- A message with a null text, and one with nothing to say: without the null the prompt is the same. -/
theorem null_content_absent_unless_read_brief :
    let brief : Json := .object [("content", .text "Be brief."), ("text", .null)]
    let brief' : Json := .object [("content", .text "Be brief.")]
    let silent : Json := .object [("role", .text "tool")]
    let argument (ms : List Json) : Json := .object [("messages", .list ms)]
    prompt [argument [brief, silent]] = prompt [argument [brief', silent]] ∧
      prompt [argument [brief, silent]] = "Be brief. " := by
  intro brief brief' silent argument
  have hspeaks : ∀ ms, Speaks (argument ms) ms := fun ms => ⟨fun p hp => (nomatch hp), rfl⟩
  have hpruned : List.Forall₂ Pruned [brief, silent] [brief', silent] :=
    .cons (.delete (.inr rfl) rfl (.same _)) (.cons (.same _) .nil)
  obtain ⟨-, hsame⟩ := null_content_absent_unless_read (argument [brief, silent]) [] _ (hspeaks _)
  refine ⟨(hsame (argument [brief', silent]) [] _ (hspeaks _) hpruned).mpr ?_, rfl⟩
  have hbrief : ¬ ReadsNull brief := fun hnull =>
    absurd (messageText_of_readsNull hnull) (show "Be brief." ≠ "null" by decide)
  have hsilent : ¬ ReadsNull silent := fun hnull =>
    absurd (messageText_of_readsNull hnull) (show "" ≠ "null" by decide)
  exact .cons (fun hnull => absurd hnull hbrief) (.cons (fun hnull => absurd hnull hsilent) .nil)

/-- A null content in front of a text: the message is read as `null`, and says the text as soon as the null
is deleted. -/
theorem null_content_read_as_text :
    let m : Json := .object [("content", .null), ("text", .text "Describe a lamp")]
    let m' : Json := .object [("text", .text "Describe a lamp")]
    let argument (m : Json) : Json := .object [("messages", .list [m])]
    Speaks (argument m) [m] ∧ Speaks (argument m') [m'] ∧ Pruned m m' ∧
      prompt [argument m] = "null" ∧ prompt [argument m'] = "Describe a lamp" := by
  intro m m' argument
  refine ⟨⟨fun p hp => (nomatch hp), rfl⟩, ⟨fun p hp => (nomatch hp), rfl⟩, ?_, rfl, rfl⟩
  exact .delete (.inl rfl) rfl (.same _)

end Extract
end CallCheck
