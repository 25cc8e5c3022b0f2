import CallCheck.SuiteResult

/-!
# Reports

The lines that tell the results of a run: `Report.suiteLines` for one suite, `Report.summaryLines`
for all of them. A style says when failures are listed, how long a failure may get and whether
lines are painted; paint only puts codes around a text. The preset styles paint what a terminal is
to show.
-/

namespace CallCheck
namespace Report

inductive Listing where
  | always
  | onFailure
  | never
  deriving DecidableEq, Inhabited

/-- Whether failures are listed after a success or a failure. -/
def Listing.shows (success : Bool) : Listing → Bool
  | .always => true
  | .onFailure => !success
  | .never => false

structure Style where
  failures : Listing
  summaryFailures : Listing
  limit : Nat
  colored : Bool
  deriving DecidableEq, Inhabited

namespace Style

/-- Failures of failing suites, up to 200 characters each. -/
def standard (terminal : Bool := false) : Style := ⟨.onFailure, .onFailure, 200, terminal⟩

/-- Every failure in full. -/
def verbose (terminal : Bool := false) : Style :=
  { standard terminal with limit := Nat.pow 2 64 - 1 }

/-- No failures, only counts. -/
def quiet (terminal : Bool := false) : Style :=
  { standard terminal with failures := .never, summaryFailures := .never }

end Style

inductive Color where
  | green
  | red
  | dim
  deriving DecidableEq, Inhabited

def Color.code : Color → String
  | .green => "\x1b[32m"
  | .red => "\x1b[31m"
  | .dim => "\x1b[2m"

def paint (style : Style) (color : Color) (text : String) : String :=
  if style.colored then color.code ++ text ++ "\x1b[0m" else text

/-- A text cut to the limit of the style, the last three characters replaced by dots. -/
def truncate (style : Style) (text : String) : String :=
  if text.length ≤ style.limit then text
  else String.ofList (text.toList.take (style.limit - 3)) ++ "..."

def plural (n : Nat) (noun : String) : String :=
  toString n ++ " " ++ noun ++ if n = 1 then "" else "s"

def statusLine (style : Style) (r : SuiteResult) : String :=
  let status :=
    if r.isSuccess then paint style .green ("✓ " ++ toString r.passed ++ " passed")
    else paint style .red
      ("✗ " ++ toString r.failed ++ " failed, " ++ toString r.passed ++ " passed")
  "▶ " ++ r.name ++ " " ++ status ++ " " ++ paint style .dim ("(" ++ toString r.millis ++ "ms)")

/-- The lines of one suite: its status, then its failures. -/
def suiteLines (style : Style) (r : SuiteResult) : List String :=
  statusLine style r ::
    if style.failures.shows r.isSuccess then
      r.failures.map fun f => "    " ++ truncate style f
    else []

def failureLines (style : Style) (r : SuiteResult) : List String :=
  ("  " ++ r.name ++ ":") ::
    r.failures.map fun f => "    " ++ paint style .red "✗" ++ " " ++ truncate style f

/-- The counts of a run with failures, and the failures of each suite that has some. -/
def failedLines (style : Style) (rs : List SuiteResult) : List String :=
  let failing := rs.filter (!·.isSuccess)
  paint style .red (plural (SuiteResult.totalFailed rs) "test" ++ " failed, " ++
      toString (SuiteResult.totalPassed rs) ++ " passed") ::
    ("   " ++ toString failing.length ++ " of " ++ plural rs.length "suite" ++ " failed") ::
    if style.summaryFailures.shows false then
      "" :: "Failures:" :: failing.flatMap (failureLines style)
    else []

/-- The lines after all suites. The time is in nanoseconds. -/
def summaryLines (style : Style) (rs : List SuiteResult) (elapsed : Nat) : List String :=
  let verdict :=
    if SuiteResult.totalFailed rs = 0 then
      [paint style .green ("All tests passed! " ++
        plural (SuiteResult.totalPassed rs) "test" ++ " in " ++ plural rs.length "suite")]
    else failedLines style rs
  "" :: String.ofList (List.replicate 50 '─') :: verdict ++
    [paint style .dim ("Time: " ++ toString (elapsed / 1000000) ++ "ms")]

end Report
end CallCheck
