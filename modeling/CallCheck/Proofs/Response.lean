import CallCheck.Proofs.Messages

/-!
# The response of a result

A result offers up to five texts as its response, the last of which is its own JSON text
(`Extract.Offers`). The response should be the first of them that is not empty (`Extract.Responds`). Each
empty text is passed over indeed, with one exception: a content that is a list of parts is taken if it is
there, also if none of its parts has any text (`Extract.EmptyParts`). Then the response is empty, and
whatever comes after is hidden. `Extract.response_first_filled` says that this is the only case, and
`Extract.response_hidden_by_parts` is a result in which a text is lost so.
-/

namespace CallCheck

open Fallback (FirstOf First)

/-! ### JSON texts -/

theorem Binary64.scientific_ne_empty (b : Binary64) : b.scientific ≠ "" := by
  rw [scientific]
  intro h
  have h := (String.append_eq_empty_iff.mp h).2
  -- in each of the notations a point or an exponent is written
  split at h
  · exact absurd (String.append_eq_empty_iff.mp h).2 (by decide)
  · split at h
    · exact absurd (String.ofList_eq_empty_iff.mp h) (by simp)
    · split at h
      · exact absurd (String.append_eq_empty_iff.mp (String.append_eq_empty_iff.mp h).1).1 (by decide)
      · simp [String.append_eq_empty_iff] at h

theorem Number.toText_ne_empty (n : Number) : n.toText ≠ "" := by
  cases n with
  | real b => exact b.scientific_ne_empty
  | int i =>
      cases i with
      | ofNat n =>
          show String.ofList (Nat.toDigits 10 n) ≠ ""
          exact mt String.ofList_eq_empty_iff.mp Nat.toDigits_ne_nil
      | negSucc n =>
          show "-" ++ toString (n + 1) ≠ ""
          simp [String.append_eq_empty_iff]

namespace Json

/-- No value is written as nothing. -/
theorem compact_ne_empty (v : Json) : v.compact ≠ "" := by
  cases v with
  | null => decide
  | bool b => cases b <;> decide
  | number n => exact n.toText_ne_empty
  | text s => simp [compact, quote, String.ofList_eq_empty_iff]
  | list items => simp [compact, String.append_eq_empty_iff]
  | object fields => simp [compact, String.append_eq_empty_iff]

end Json

namespace Extract

variable {r c choice : Json} {s t : String}

/-! ### What a result offers -/

def FirstChoice (r choice : Json) : Prop := ∃ rest, r.get? "choices" = some (.list (choice :: rest))

/-- What a result offers as its response, by the number of the place: the text in its field `text`, that
in its field `content`, what the content of the message of its first choice says if that is present, the
text in the field `text` of this choice, and its own JSON text. -/
inductive Offers (r : Json) : Nat → String → Prop where
  | text {s : String} (h : r.get? "text" = some (.text s)) : Offers r 0 s
  | content {s : String} (h : r.get? "content" = some (.text s)) : Offers r 1 s
  | message {choice message c : Json} {s : String} (hchoice : FirstChoice r choice)
      (hmessage : choice.get? "message" = some message) (hc : message.get? "content" = some c)
      (hpresent : c ≠ .null ∧ c ≠ .bool false) (hs : ContentSays c s) : Offers r 2 s
  | choice {choice : Json} {s : String} (hchoice : FirstChoice r choice)
      (h : choice.get? "text" = some (.text s)) : Offers r 3 s
  | whole : Offers r 4 r.compact

/-- The response that a result should have: the first text that it offers and that is not empty. -/
def Responds (r : Json) (s : String) : Prop :=
  s ≠ "" ∧ ∃ i, Offers r i s ∧ ∀ j < i, ∀ t, Offers r j t → t = ""

/-- A result whose fields have no text, and whose first choice has a content of parts that have no text
either, or a single one that is empty. -/
structure EmptyParts (r : Json) : Prop where
  noText : ∀ s, r.get? "text" = some (.text s) → s = ""
  noContent : ∀ s, r.get? "content" = some (.text s) → s = ""
  parts : ∃ choice message parts texts, FirstChoice r choice ∧
    choice.get? "message" = some message ∧ message.get? "content" = some (.list parts) ∧
    NamesOf PartSays parts texts ∧ (texts = [] ∨ texts = [""])

/-! ### Places -/

def firstChoice? (r : Json) : Option Json := (choices? r).bind List.head?

/-- The content of the message of a choice, if it is present. -/
def content? (choice : Json) : Option Json :=
  ((choice.get? "message").bind (·.get? "content")).filter isPresent

/-- The places that a response is looked for in, without the empty texts of fields. -/
def candidates (r : Json) : List (Option String) :=
  [filledText? "text" r, filledText? "content" r, ((firstChoice? r).bind content?).map contentText,
    (firstChoice? r).bind (filledText? "text"), some r.compact]

theorem filledText?_eq_some_iff {key : String} {v : Json} :
    filledText? key v = some s ↔ v.get? key = some (.text s) ∧ s ≠ "" := by
  rw [filledText?, Option.filter_eq_some_iff, Option.bind_eq_bind, Option.bind_eq_some_iff]
  simp only [Json.text?_eq_some_iff, exists_eq_right, Bool.not_eq_true', ne_eq,
    ← Bool.not_eq_true, String.isEmpty_iff]

theorem filledText?_eq_none_iff {key : String} {v : Json} :
    filledText? key v = none ↔ ∀ s, v.get? key = some (.text s) → s = "" := by
  rw [Option.eq_none_iff_forall_ne_some]
  simp only [ne_eq, filledText?_eq_some_iff, not_and, not_not]

theorem firstChoice?_eq_some_iff : firstChoice? r = some choice ↔ FirstChoice r choice := by
  simp only [firstChoice?, choices?, FirstChoice, Option.bind_eq_bind, Option.bind_eq_some_iff,
    Json.items?_eq_some_iff, List.head?_eq_some_iff]
  constructor
  · rintro ⟨items, ⟨v, hv, rfl⟩, rest, rfl⟩
    exact ⟨rest, hv⟩
  · rintro ⟨rest, hrest⟩
    exact ⟨choice :: rest, ⟨_, hrest, rfl⟩, rest, rfl⟩

theorem content?_eq_some_iff :
    content? choice = some c ↔
      ∃ message, choice.get? "message" = some message ∧ message.get? "content" = some c ∧
        isPresent c = true := by
  rw [content?, Option.filter_eq_some_iff, Option.bind_eq_some_iff]
  constructor
  · rintro ⟨⟨message, hmessage, hc⟩, hpresent⟩
    exact ⟨message, hmessage, hc, hpresent⟩
  · rintro ⟨message, hmessage, hc, hpresent⟩
    exact ⟨⟨message, hmessage, hc⟩, hpresent⟩

/-- A content that says something is present exactly if it is neither null nor false. -/
theorem isPresent_iff (hs : ContentSays c s) (hne : s ≠ "") :
    isPresent c = true ↔ c ≠ .null ∧ c ≠ .bool false := by
  cases c with
  | null => simp [isPresent]
  | bool b => cases b <;> simp [isPresent]
  | text t =>
      obtain rfl : s = t := contentSays_iff.mp hs
      simpa [isPresent] using hne
  | number | list | object => simp [isPresent]

/-- The texts that a result offers stand in the places, empty ones apart. -/
theorem offers_iff (hs : s ≠ "") {i : Nat} : Offers r i s ↔ (candidates r)[i]? = some (some s) := by
  constructor
  · intro h
    cases h with
    | text h => exact congrArg some (filledText?_eq_some_iff.mpr ⟨h, hs⟩)
    | content h => exact congrArg some (filledText?_eq_some_iff.mpr ⟨h, hs⟩)
    | message hchoice hmessage hc hpresent hsaid =>
        have hcontent := content?_eq_some_iff.mpr
          ⟨_, hmessage, hc, (isPresent_iff hsaid hs).mpr hpresent⟩
        refine congrArg some (Option.map_eq_some_iff.mpr ⟨_, ?_, (contentSays_iff.mp hsaid).symm⟩)
        exact Option.bind_eq_some_iff.mpr ⟨_, firstChoice?_eq_some_iff.mpr hchoice, hcontent⟩
    | choice hchoice h =>
        refine congrArg some (Option.bind_eq_some_iff.mpr ⟨_, firstChoice?_eq_some_iff.mpr hchoice, ?_⟩)
        exact filledText?_eq_some_iff.mpr ⟨h, hs⟩
    | whole => rfl
  · intro h
    match i, h with
    | 0, h => exact .text (filledText?_eq_some_iff.mp (Option.some.inj h)).1
    | 1, h => exact .content (filledText?_eq_some_iff.mp (Option.some.inj h)).1
    | 2, h =>
        obtain ⟨c, hc, rfl⟩ := Option.map_eq_some_iff.mp (Option.some.inj h)
        obtain ⟨choice, hchoice, hc⟩ := Option.bind_eq_some_iff.mp hc
        obtain ⟨message, hmessage, hc, hpresent⟩ := content?_eq_some_iff.mp hc
        have hsaid : ContentSays c (contentText c) := contentSays_iff.mpr rfl
        exact .message (firstChoice?_eq_some_iff.mp hchoice) hmessage hc
          ((isPresent_iff hsaid hs).mp hpresent) hsaid
    | 3, h =>
        obtain ⟨choice, hchoice, htext⟩ := Option.bind_eq_some_iff.mp (Option.some.inj h)
        exact .choice (firstChoice?_eq_some_iff.mp hchoice) (filledText?_eq_some_iff.mp htext).1
    | 4, h =>
        obtain rfl := Option.some.inj (Option.some.inj h)
        exact .whole

theorem responds_iff : Responds r s ↔ FirstOf (· ≠ "") (candidates r) s := by
  rw [Fallback.firstOf_iff_getElem?, Responds]
  refine and_congr_right fun hs => exists_congr fun i => and_congr (offers_iff hs) ?_
  refine forall_congr' fun j => imp_congr_right fun _ => forall_congr' fun t => ?_
  by_cases ht : t = ""
  · simp [ht]
  · rw [offers_iff ht, not_not]

/-- There is always exactly one: at the latest the result itself. -/
theorem existsUnique_responds (r : Json) : ∃! s, Responds r s := by
  simp only [responds_iff]
  have hwhole : some r.compact ∈ candidates r := by simp [candidates]
  obtain ⟨s, hs⟩ : ∃ s, FirstOf (· ≠ "") (candidates r) s :=
    Fallback.exists_firstOf hwhole r.compact_ne_empty
  exact ⟨s, hs, fun t ht => ht.unique hs⟩

/-! ### The response -/

/-- What is taken is the first thing in the places, whether it is empty or not. -/
theorem first_response (fields : List (String × Json)) :
    First (candidates (.object fields)) (response (.object fields)) := by
  have hchoice : (choices? (.object fields)).bind (·.head?.bind choiceText?) =
      (((firstChoice? (.object fields)).bind content?).map contentText).or
        ((firstChoice? (.object fields)).bind (filledText? "text")) := by
    rw [firstChoice?, ← Option.bind_assoc]
    cases (choices? (.object fields)).bind List.head? with
    | none => rfl
    | some choice =>
        show choiceText? choice = ((content? choice).map contentText).or (filledText? "text" choice)
        rw [choiceText?, content?]
        cases ((choice.get? "message").bind (·.get? "content")).filter isPresent with
        | none => rfl
        | some c => rfl
  rw [Fallback.first_iff_findSome?, response, hchoice]
  · -- the first place that is there is the first alternative that is
    rw [candidates]
    cases filledText? "text" (Json.object fields) with
    | some s => rfl
    | none =>
        cases filledText? "content" (Json.object fields) with
        | some s => rfl
        | none =>
            cases ((firstChoice? (Json.object fields)).bind content?).map contentText with
            | some s => rfl
            | none =>
                cases (firstChoice? (Json.object fields)).bind (filledText? "text") with
                | some s => rfl
                | none => rfl
  · exact nofun
  · exact nofun

theorem intercalate_eq_empty_iff {texts : List String} :
    " ".intercalate texts = "" ↔ texts = [] ∨ texts = [""] := by
  match texts with
  | [] => simp
  | [s] => simp
  | s :: t :: rest => simp [String.append_eq_empty_iff]

/-- Of the contents that are present, only lists of parts may have no text. -/
theorem contentText_eq_empty_iff (hpresent : isPresent c = true) :
    contentText c = "" ↔
      ∃ parts texts, c = .list parts ∧ NamesOf PartSays parts texts ∧ (texts = [] ∨ texts = [""]) := by
  cases c with
  | list parts =>
      rw [contentText, intercalate_eq_empty_iff]
      constructor
      · exact fun h => ⟨parts, _, rfl, namesOf_partSays_iff.mpr rfl, h⟩
      · rintro ⟨_, texts, ⟨⟩, htexts, h⟩
        rwa [← namesOf_partSays_iff.mp htexts]
  | text s =>
      refine iff_of_false ?_ (fun ⟨_, _, h, _⟩ => nomatch h)
      show s ≠ ""
      rintro rfl
      cases hpresent
  | null => cases hpresent
  | bool | number | object =>
      refine iff_of_false ?_ (fun ⟨_, _, h, _⟩ => nomatch h)
      exact Json.compact_ne_empty _

/-- The field of a value that is to be filled never has the empty text. -/
theorem filledText?_ne_empty {key : String} {v : Json} : filledText? key v ≠ some "" :=
  fun h => (filledText?_eq_some_iff.mp h).2 rfl

/-- The third place has an empty text if the content is there and its parts have none. -/
theorem message_eq_empty_iff :
    ((firstChoice? r).bind content?).map contentText = some "" ↔
      ∃ choice message parts texts, FirstChoice r choice ∧
        choice.get? "message" = some message ∧ message.get? "content" = some (.list parts) ∧
        NamesOf PartSays parts texts ∧ (texts = [] ∨ texts = [""]) := by
  rw [Option.map_eq_some_iff]
  constructor
  · rintro ⟨c, hc, hempty⟩
    obtain ⟨choice, hchoice, hc⟩ := Option.bind_eq_some_iff.mp hc
    obtain ⟨message, hmessage, hc, hpresent⟩ := content?_eq_some_iff.mp hc
    obtain ⟨parts, texts, rfl, htexts⟩ := (contentText_eq_empty_iff hpresent).mp hempty
    exact ⟨choice, message, parts, texts, firstChoice?_eq_some_iff.mp hchoice, hmessage, hc, htexts⟩
  · rintro ⟨choice, message, parts, texts, hchoice, hmessage, hc, htexts⟩
    have hpresent : isPresent (.list parts) = true := rfl
    refine ⟨.list parts, ?_, (contentText_eq_empty_iff hpresent).mpr ⟨parts, texts, rfl, htexts⟩⟩
    exact Option.bind_eq_some_iff.mpr ⟨choice, firstChoice?_eq_some_iff.mpr hchoice,
      content?_eq_some_iff.mpr ⟨message, hmessage, hc, hpresent⟩⟩

/-- Of the places only the third may have an empty text. -/
theorem first_empty_iff : First (candidates r) "" ↔ EmptyParts r := by
  have hchoice : (firstChoice? r).bind (filledText? "text") ≠ some "" := by
    intro h
    obtain ⟨choice, -, h⟩ := Option.bind_eq_some_iff.mp h
    exact filledText?_ne_empty h
  have hlater : ¬ First [(firstChoice? r).bind (filledText? "text"), some r.compact] "" := by
    rw [Fallback.first_cons, Fallback.first_cons, or_iff_right hchoice]
    rintro ⟨-, h | ⟨h, -⟩⟩
    · exact r.compact_ne_empty (Option.some.inj h)
    · cases h
  rw [candidates, Fallback.first_cons, Fallback.first_cons, Fallback.first_cons,
    or_iff_right filledText?_ne_empty, or_iff_right filledText?_ne_empty,
    or_iff_left (fun h => hlater h.2), message_eq_empty_iff, filledText?_eq_none_iff,
    filledText?_eq_none_iff]
  constructor
  · rintro ⟨htext, hcontent, hparts⟩
    exact ⟨htext, hcontent, hparts⟩
  · rintro ⟨htext, hcontent, hparts⟩
    exact ⟨htext, hcontent, hparts⟩

/-- **The response is the first text that is not empty**, unless that is hidden by a content of parts
without any text. A result always has a response that it should have, and just one. Of an object, the
response that is extracted is that one except for a single case, in which it is empty. -/
theorem response_first_filled (fields : List (String × Json)) :
    let r : Json := .object fields
    (∃! s, Responds r s) ∧ (Responds r (response r) ↔ ¬ EmptyParts r) ∧
      (response r = "" ↔ EmptyParts r) := by
  intro r
  have hfirst : First (candidates r) (response r) := first_response fields
  have hempty : response r = "" ↔ EmptyParts r := by
    rw [← first_empty_iff]
    constructor
    · intro heq
      rw [← heq]
      exact hfirst
    · exact hfirst.unique
  refine ⟨existsUnique_responds r, ?_, hempty⟩
  rw [responds_iff, ← hempty]
  constructor
  · exact fun h => h.holds
  · exact fun h => .of_first hfirst h

/-- A content without any text in front of a text: the response is empty, and not that text. -/
theorem response_hidden_by_parts :
    let message : Json := .object [("content", .list [.object [("type", .text "image")]])]
    let choice : Json := .object [("message", message), ("text", .text "A lamp")]
    let r : Json := .object [("choices", .list [choice])]
    Responds r "A lamp" ∧ response r = "" := by
  intro message choice r
  have hcontent : ∀ c s, message.get? "content" = some c → ContentSays c s → s = "" := by
    rintro c s ⟨⟩ hs
    exact contentSays_iff.mp hs
  refine ⟨⟨by decide, 3, .choice ⟨[], rfl⟩ rfl, ?_⟩, rfl⟩
  intro j hj t ht
  cases ht with
  | text h => cases h
  | content h => cases h
  | message hchoice hmessage hc _ hs =>
      obtain ⟨rest, hchoices⟩ := hchoice
      cases hchoices
      cases hmessage
      exact hcontent _ _ hc hs
  | choice _ _ => exact absurd hj (Nat.lt_irrefl 3)
  | whole => exact absurd hj (by decide)

end Extract
end CallCheck
