import CallCheck.Text.Quoted

/-!
# Glob patterns

A pattern is matched against a whole text: `?` stands for any character, `*` for any run of them,
brackets for one character of a set, and `**`, which has to be a whole step between slashes, for any
number of steps. `Pattern.ofText` reads a pattern and says where it is malformed.
-/

namespace CallCheck
namespace Glob

structure Range where
  low : Char
  high : Char
  deriving DecidableEq, Inhabited

def Range.contains (r : Range) (c : Char) : Bool := r.low ≤ c && c ≤ r.high

inductive Token where
  | literal (c : Char)
  | anyChar
  | anyRun
  | anySteps
  | oneOf (negated : Bool) (ranges : List Range)
  deriving DecidableEq, Inhabited

abbrev Pattern := List Token

inductive Problem where
  | stars
  | steps
  | range
  deriving DecidableEq, Inhabited

/-- Why a text is no pattern, and where. -/
structure Fault where
  position : Nat
  problem : Problem
  deriving DecidableEq, Inhabited

def Fault.message (f : Fault) : String :=
  "Pattern syntax error near position " ++ toString f.position ++ ": " ++
    match f.problem with
    | .stars => "wildcards are either regular `*` or recursive `**`"
    | .steps => "recursive wildcards must form a single path component"
    | .range => "invalid range pattern"

namespace Pattern

/-- The ranges between brackets: two characters with a hyphen between them, or one. -/
def rangesOf : List Char → List Range
  | [] => []
  | [a] => [⟨a, a⟩]
  | [a, b] => [⟨a, a⟩, ⟨b, b⟩]
  | a :: b :: c :: rest =>
    if b = '-' then ⟨a, c⟩ :: rangesOf rest else ⟨a, a⟩ :: rangesOf (b :: c :: rest)

/-- What stands between brackets, and what comes after them. The first character between them may
be a closing bracket itself. -/
def bracketed : List Char → Option (List Char × List Char)
  | first :: rest =>
    match rest.dropWhile (· ≠ ']') with
    | _ :: after => some (first :: rest.takeWhile (· ≠ ']'), after)
    | [] => none
  | [] => none

theorem bracketed_length {s inner after : List Char} (h : bracketed s = some (inner, after)) :
    after.length < s.length := by
  unfold bracketed at h
  split at h
  · next first rest =>
    split at h
    · next c after' h' =>
      have := (List.dropWhile_sublist (· ≠ ']') (l := rest)).length_le
      rw [h'] at this
      simp at h this ⊢
      rw [← h.2]
      omega
    · simp at h
  · simp at h

/-- The set after an opening bracket, and what comes after it. -/
def setOf : List Char → Option (Token × List Char)
  | '!' :: rest => (bracketed rest).map fun (inner, after) => (.oneOf true (rangesOf inner), after)
  | s => (bracketed s).map fun (inner, after) => (.oneOf false (rangesOf inner), after)

theorem setOf_length {s after : List Char} {t : Token} (h : setOf s = some (t, after)) :
    after.length < s.length := by
  unfold setOf at h
  split at h
  · obtain ⟨⟨inner, rest'⟩, hb, he⟩ := Option.map_eq_some_iff.1 h
    have := bracketed_length hb
    simp at he ⊢
    rw [← he.2]
    omega
  · obtain ⟨⟨inner, rest'⟩, hb, he⟩ := Option.map_eq_some_iff.1 h
    have := bracketed_length hb
    simp at he ⊢
    rw [← he.2]
    omega

/-- What two stars stand for: they have to follow a slash or the start, and a slash or the end has
to follow them. -/
def stepsOf (position : Nat) (atStep : Bool) (after : List Char) : Except Fault (List Char) :=
  if !atStep then .error ⟨position - 1, .steps⟩
  else match after with
    | [] => .ok []
    | '/' :: rest => .ok rest
    | _ => .error ⟨position + 2, .steps⟩

theorem stepsOf_length {position : Nat} {atStep : Bool} {after rest : List Char}
    (h : stepsOf position atStep after = .ok rest) : rest.length ≤ after.length := by
  unfold stepsOf at h
  split at h
  · simp at h
  · split at h
    · simp at h; simp [← h]
    · simp at h; simp [← h]
    · simp at h

/-- Adds a run of steps after `before`, the parts read so far from the last to the first. A run
directly after another changes nothing, but one at the very start is kept apart. -/
def addSteps (before : Pattern) : Pattern :=
  if 1 < before.length && before.head? == some .anySteps then before else .anySteps :: before

def read (position : Nat) (atStep : Bool) (before : Pattern) (s : List Char) :
    Except Fault Pattern :=
  match s with
  | [] => .ok before.reverse
  | '?' :: rest => read (position + 1) false (.anyChar :: before) rest
  | '*' :: '*' :: '*' :: _ => .error ⟨position + 2, .stars⟩
  | '*' :: '*' :: after =>
    match h : stepsOf position atStep after with
    | .error f => .error f
    | .ok rest =>
      have := stepsOf_length h
      read (position + 2 + (after.length - rest.length)) true (addSteps before) rest
  | '*' :: rest => read (position + 1) false (.anyRun :: before) rest
  | '[' :: after =>
    match h : setOf after with
    | none => .error ⟨position, .range⟩
    | some (t, rest) =>
      have := setOf_length h
      read (position + 1 + (after.length - rest.length)) false (t :: before) rest
  | c :: rest => read (position + 1) (c == '/') (.literal c :: before) rest
termination_by s.length
decreasing_by all_goals simp_wf; try omega

def ofText (s : String) : Except Fault Pattern := read 0 true [] s.toList

def acceptsChar (c : Char) : Token → Bool
  | .literal d => c == d
  | .anyChar => true
  | .oneOf negated ranges => ranges.any (·.contains c) != negated
  | .anyRun | .anySteps => false

/-- What remains of a text when more and more of its start is taken off. -/
def suffixes : List Char → List (List Char)
  | [] => [[]]
  | c :: rest => (c :: rest) :: suffixes rest

/-- The places after the slashes of a text, and its end. -/
def stepStarts : List Char → List (List Char)
  | [] => [[]]
  | c :: rest => if c = '/' then rest :: stepStarts rest else stepStarts rest

/-- Whether a pattern matches a whole text. -/
def isMatch : Pattern → List Char → Bool
  | [], s => s.isEmpty
  | .anyRun :: rest, s => (suffixes s).any (isMatch rest)
  | .anySteps :: rest, s => (s :: stepStarts s).any (isMatch rest)
  | t :: rest, c :: s => acceptsChar c t && isMatch rest s
  | _ :: _, [] => false

def accepts (p : Pattern) (s : String) : Bool := isMatch p s.toList

end Pattern
end Glob
end CallCheck
