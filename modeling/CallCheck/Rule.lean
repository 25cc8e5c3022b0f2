import CallCheck.Predicate.Basic

/-!
# Rules and cases

A rule says when its predicates apply: to every call, to one exact input, or to inputs whose text
contains another. A case is a declared input with the predicates expected to hold for it.
-/

namespace CallCheck

inductive Condition where
  | always
  | exactly (input : Json)
  | containing (text : String)
  deriving Inhabited

/-- Predicates with the condition under which they apply. -/
structure Rule where
  condition : Condition
  predicates : List Predicate

/-- A declared input with the predicates that should hold for it. -/
structure Case where
  input : Json
  predicates : List Predicate

/-- Whether a declared input is the input of a call. A text is compared with the logical input and
with the raw one, any other value with the raw one alone. -/
def inputMatches (declared : Json) (m : Metadata) : Bool :=
  match declared with
  | .text _ => declared.sameValue m.input || declared.sameValue m.rawInput
  | _ => declared.sameValue m.rawInput

namespace Condition

def holds (m : Metadata) : Condition → Bool
  | .always => true
  | .exactly input => inputMatches input m
  | .containing text =>
    match m.inputText? with
    | some input => occursIn text.toList input.toList
    | none => false

def isAlways : Condition → Bool
  | .always => true
  | _ => false

def isContaining : Condition → Bool
  | .containing _ => true
  | _ => false

def words : Condition → String
  | .always => "always"
  | .exactly input => "input == " ++ input.compact
  | .containing text => "input containing " ++ Quoted.quote text

end Condition

namespace Rule

def applies (r : Rule) (m : Metadata) : Bool := r.condition.holds m

end Rule

def Case.isFor (c : Case) (input : Json) : Bool := c.input.sameValue input

end CallCheck
