import CallCheck.Failure
import CallCheck.Journal
import CallCheck.Metadata
import CallCheck.Regex.Expr
import CallCheck.Text.Quoted
import CallCheck.Text.Search

/-!
# Predicates

A predicate is a named check of the metadata of a call. The built-in ones look at the response, its
length, the time and the tools; a custom one is any code that may raise an error, panic and log.
`Predicate.complaint?` says what a built-in predicate finds wrong.
-/

namespace CallCheck

/-- A named check of one call. -/
inductive Predicate where
  | lacks (text : String)
  | contains (text : String)
  | followsPattern (pattern : String)
  | fasterThan (millis : Nat)
  | longerThan (chars : Nat)
  | usesTool (tool : String)
  | usesNoTool
  | custom (name : String) (check : Metadata → Told (Outcome Unit))

namespace Predicate

/-- The name under which a predicate is declared and reported. -/
def name : Predicate → String
  | .lacks _ => "ensure_doesnt_contain"
  | .contains _ => "ensure_contains"
  | .followsPattern _ => "ensure_matches_pattern"
  | .fasterThan _ => "ensure_response_time_under"
  | .longerThan _ => "ensure_length_over"
  | .usesTool _ => "tool_is_used"
  | .usesNoTool => "ensure_no_tools_called"
  | .custom n _ => n

def args : Predicate → List Json
  | .lacks t | .contains t | .followsPattern t | .usesTool t => [.text t]
  | .fasterThan n | .longerThan n => [.ofInt n]
  | .usesNoTool | .custom .. => []

def display (p : Predicate) : String :=
  p.name ++ "(" ++ ", ".intercalate (p.args.map Json.compact) ++ ")"

/-- A parameter with its kind in front. -/
def debugArg : Json → String
  | .text s => "String(" ++ Quoted.quote s ++ ")"
  | v => "Number(" ++ v.compact ++ ")"

def debug (p : Predicate) : String :=
  "Predicate \x7b name: " ++ Quoted.quote p.name ++ ", args: [" ++
    ", ".intercalate (p.args.map debugArg) ++ "] \x7d"

def patternComplaint? (pattern response : String) : Option String :=
  match Regex.ofText pattern with
  | .ok regex =>
    if regex.isMatch response then none
    else some ("Response should match pattern " ++ pattern ++ ". Response: \"" ++ response ++ "\"")
  | .error fault => some ("Invalid pattern " ++ pattern ++ ": " ++ fault.message pattern)

def complaint? (m : Metadata) : Predicate → Option String
  | .lacks t =>
    if occursIn t.toList m.output.toList then
      some ("Response should not contain \"" ++ t ++ "\". Found: \"" ++ t ++ "\" in response.")
    else none
  | .contains t =>
    if occursIn t.toList m.output.toList then none
    else some ("Response should contain \"" ++ t ++ "\". Not found in response.")
  | .followsPattern pattern => patternComplaint? pattern m.output
  | .fasterThan millis =>
    if m.responseTime < millis * 1000000 then none
    else some ("Response time should be under " ++ toString millis ++ "ms. Actual: " ++
      toString m.responseMillis ++ "ms")
  | .longerThan chars =>
    if chars < m.output.length then none
    else some ("Response length should be over " ++ toString chars ++ " characters. Actual: " ++
      toString m.output.length ++ " characters")
  | .usesTool tool =>
    if m.tools.contains tool then none
    else some ("Tool \"" ++ tool ++ "\" should be used. Tools called: " ++ m.toolsDisplay)
  | .usesNoTool =>
    if m.tools.isEmpty then none
    else some ("No tools should be called. Tools called: " ++ m.toolsDisplay)
  | .custom .. => none

/-- The check of one call: a built-in predicate raises its complaint as a failure, a custom one does
what it likes. -/
def check (p : Predicate) (m : Metadata) : Told (Outcome Unit) :=
  match p with
  | .custom _ code => code m
  | p =>
    match p.complaint? m with
    | none => pure (.value ())
    | some text => pure (.raised (.ofFailure ⟨p.name, text⟩))

end Predicate
end CallCheck
