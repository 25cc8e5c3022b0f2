import CallCheck.Proofs.Summary

/-!
# Failures that are cut

A failure that is longer than the limit is shown by its first characters and three dots
(`Report.IsCut`). The dots are counted into the limit, so they need room for themselves: a limit
below three is kept only by failures that are shown whole (`Report.IsCut.length_le_iff`). The lines of
a report have nothing of a failure but what the cut leaves (`Report.truncate_within_limit`).
-/

namespace CallCheck
namespace Report

variable {style : Style} {rs : List SuiteResult} {limit : Nat} {text shown : String}

/-- Whether `shown` is what a limit leaves of a text. -/
inductive IsCut (limit : Nat) : String → String → Prop where
  | whole {text : String} (hfits : text.length ≤ limit) : IsCut limit text text
  | cut {kept dropped : String} (hlong : limit < (kept ++ dropped).length)
      (hkept : kept.length = limit - 3) : IsCut limit (kept ++ dropped) (kept ++ "...")

/-- The first characters of a text and the others. -/
theorem exists_append_of_le_length {n : Nat} (h : n ≤ text.length) :
    ∃ kept dropped : String, text = kept ++ dropped ∧ kept.length = n ∧
      String.ofList (text.toList.take n) = kept := by
  refine ⟨String.ofList (text.toList.take n), String.ofList (text.toList.drop n), ?_, ?_, rfl⟩
  · rw [← String.ofList_append, List.take_append_drop, String.ofList_toList]
  · rw [String.length_ofList, List.length_take, String.length_toList, Nat.min_eq_left h]

theorem isCut_truncate (style : Style) (text : String) :
    IsCut style.limit text (truncate style text) := by
  rw [truncate]
  split
  case isTrue hfits => exact .whole hfits
  case isFalse hlong =>
    have hroom : style.limit - 3 ≤ text.length := by omega
    obtain ⟨kept, dropped, rfl, hkept, htake⟩ := exists_append_of_le_length hroom
    rw [htake]
    exact .cut (Nat.lt_of_not_le hlong) hkept

/-- There is only one way to cut a text. -/
theorem isCut_iff : IsCut style.limit text shown ↔ shown = truncate style text := by
  constructor
  · intro h
    cases h with
    | whole hfits => exact (truncate_of_length_le hfits).symm
    | @cut kept dropped hlong hkept =>
        rw [truncate, if_neg (Nat.not_le_of_lt hlong), String.toList_append, ← hkept,
          ← String.length_toList, List.take_left, String.ofList_toList]
  · rintro rfl
    exact isCut_truncate style text

/-- What is shown keeps the limit exactly if the limit has room for the dots or none are needed. -/
theorem IsCut.length_le_iff (h : IsCut limit text shown) :
    shown.length ≤ limit ↔ 3 ≤ limit ∨ text.length ≤ limit := by
  cases h with
  | whole hfits => exact iff_of_true hfits (.inr hfits)
  | cut hlong hkept =>
      -- below three `limit - 3` is zero: nothing is kept, but the dots are added all the same
      have hdots : "...".length = 3 := by decide
      rw [String.length_append, hdots, hkept]
      omega

/-- Whether a line shows a failure behind `lead`, cut to the limit. -/
def ShowsCut (limit : Nat) (lead failure line : String) : Prop :=
  ∃ shown, line = lead ++ shown ∧ IsCut limit failure shown ∧
    (shown.length ≤ limit ↔ 3 ≤ limit ∨ failure.length ≤ limit)

theorem forall₂_showsCut (style : Style) (lead : String) (failures : List String) :
    List.Forall₂ (ShowsCut style.limit lead) failures
      (failures.map fun f => lead ++ truncate style f) := by
  rw [List.forall₂_map_right_iff, List.forall₂_same]
  intro f _
  have hcut := isCut_truncate style f
  exact ⟨_, rfl, hcut, hcut.length_le_iff⟩

/-- Whether lines are the name of a suite and its failures, each of them cut to the limit. -/
def ListsCut (style : Style) (r : SuiteResult) (lines : List String) : Prop :=
  ∃ shown, lines = ("  " ++ r.name ++ ":") :: shown ∧
    List.Forall₂ (ShowsCut style.limit ("    " ++ paint style .red "✗" ++ " ")) r.failures shown

theorem listsCut_failureLines (style : Style) (r : SuiteResult) :
    ListsCut style r (failureLines style r) :=
  ⟨_, rfl, forall₂_showsCut style _ r.failures⟩

def opening (style : Style) (rs : List SuiteResult) : List String :=
  "" :: ruler ::
    if SuiteResult.totalFailed rs = 0 then
      [passedLine style (SuiteResult.totalPassed rs) rs.length]
    else
      [countsLine style (SuiteResult.totalFailed rs) (SuiteResult.totalPassed rs),
        shareLine (rs.filter (!·.isSuccess)).length rs.length]

theorem suiteLines_showsCut (style : Style) (r : SuiteResult) :
    ∃ shown, suiteLines style r = statusLine style r :: shown ∧
      (shown = [] ∨ List.Forall₂ (ShowsCut style.limit "    ") r.failures shown) := by
  refine ⟨_, rfl, ?_⟩
  split
  · exact .inr (forall₂_showsCut style "    " r.failures)
  · exact .inl rfl

theorem summaryLines_listsCut (style : Style) (rs : List SuiteResult) (elapsed : Nat) :
    ∃ shown, summaryLines style rs elapsed = opening style rs ++ shown ++ [timeLine style elapsed] ∧
      (shown = [] ∨ ∃ blocks, shown = "" :: "Failures:" :: blocks.flatten ∧
        List.Forall₂ (ListsCut style) (rs.filter (!·.isSuccess)) blocks) := by
  by_cases hfailed : SuiteResult.totalFailed rs = 0
  · refine ⟨[], ?_, .inl rfl⟩
    rw [summaryLines_of_passed hfailed, opening, if_pos hfailed]
    rfl
  · refine ⟨listing style rs, ?_, ?_⟩
    · rw [summaryLines_of_failed hfailed, opening, if_neg hfailed]
    · rw [listing]
      split
      · refine .inr ⟨(rs.filter (!·.isSuccess)).map (failureLines style), ?_, ?_⟩
        · rw [List.flatMap_def]
        · rw [List.forall₂_map_right_iff, List.forall₂_same]
          exact fun r _ => listsCut_failureLines style r
      · exact .inl rfl

/-- **A failure is cut to the limit where the dots fit into it.** A text is shown whole if it fits, and
otherwise by its first characters and the dots. That is at most as long as the limit, exactly if the
limit is not below three or the text fits. So is every failure in the lines of a suite and in those
of a summary, which have nothing else of a failure. -/
theorem truncate_within_limit (style : Style) :
    (∀ text shown, truncate style text = shown ↔ IsCut style.limit text shown) ∧
    (∀ text, (truncate style text).length ≤ style.limit ↔
      3 ≤ style.limit ∨ text.length ≤ style.limit) ∧
    (∀ r, ∃ shown, suiteLines style r = statusLine style r :: shown ∧
      (shown = [] ∨ List.Forall₂ (ShowsCut style.limit "    ") r.failures shown)) ∧
    (∀ rs elapsed, ∃ shown,
      summaryLines style rs elapsed = opening style rs ++ shown ++ [timeLine style elapsed] ∧
      (shown = [] ∨ ∃ blocks, shown = "" :: "Failures:" :: blocks.flatten ∧
        List.Forall₂ (ListsCut style) (rs.filter (!·.isSuccess)) blocks)) :=
  ⟨fun _ _ => eq_comm.trans isCut_iff.symm, fun text => (isCut_truncate style text).length_le_iff,
    suiteLines_showsCut style, summaryLines_listsCut style⟩

/-- With a limit of no characters a failure is shown by three. -/
theorem truncate_beyond_limit :
    let style : Style := { Style.standard with limit := 0 }
    let lamps : SuiteResult := ⟨"lamps", 0, 1, ["lamp"], 0⟩
    truncate style "lamp" = "..." ∧ ¬ (truncate style "lamp").length ≤ style.limit ∧
    suiteLines style lamps = [statusLine style lamps, "    ..."] := by
  decide +kernel

end Report
end CallCheck
