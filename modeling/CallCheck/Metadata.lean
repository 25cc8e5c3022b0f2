import CallCheck.Json.Writer

/-!
# Metadata

What predicates are evaluated against: the record of one call, with its logical input, the argument
it came from, the text of the response, the time it took and the tools it called.
-/

namespace CallCheck

/-- The record of one call. The time is in nanoseconds; the tools are in the order of their calls,
each as often as it was called. -/
structure Metadata where
  input : Json
  rawInput : Json
  output : String
  responseTime : Nat
  tools : List String
  deriving Inhabited

namespace Metadata

/-- The record of a call of which only the input and the response are known. -/
def uninstrumented (input : Json) (output : String) : Metadata :=
  ⟨input, input, output, 0, []⟩

def inputText? (m : Metadata) : Option String := m.input.text?

def responseMillis (m : Metadata) : Nat := m.responseTime / 1000000

def toolsDisplay (m : Metadata) : String := "[" ++ ", ".intercalate m.tools ++ "]"

end Metadata
end CallCheck
