import CallCheck.Fault
import CallCheck.Predicate.Basic
import CallCheck.Text.Blank

/-!
# Predicates from descriptors

A descriptor is a name with an argument, as rule files have it. A name may be spelled with blanks
around it, in any case, with hyphens for underscores, and with or without `ensure_` in front.
-/

namespace CallCheck
namespace Predicate

/-- A name in its normal spelling. Lower case is that of ASCII: no other letter has one of the
letters of a known name as its lower case. -/
def normalName (name : String) : String :=
  String.ofList <| (trimBlank name.toList).map fun c => if c = '-' then '_' else c.toLower

def shortName (normal : String) : String :=
  let front := "ensure_".toList
  if front.isPrefixOf normal.toList then String.ofList (normal.toList.drop front.length)
  else normal

def textArg (name : String) : Json → Except Fault String
  | .text s => .ok s
  | v => .error (.invalidArgument name ("expected text, got " ++ v.compact))

/-- The argument as a natural number of 64 bits. -/
def natArg (name : String) (arg : Json) : Except Fault Nat :=
  let refusal := Fault.invalidArgument name ("expected a non-negative integer, got " ++ arg.compact)
  match arg with
  | .number n => n.toNat?.elim (.error refusal) .ok
  | _ => .error refusal

def ofDescriptor (name : String) (arg : Json) : Except Fault Predicate :=
  match shortName (normalName name) with
  | "doesnt_contain" | "not_contains" => .lacks <$> textArg name arg
  | "contains" => .contains <$> textArg name arg
  | "matches_pattern" | "matches" => .followsPattern <$> textArg name arg
  | "response_time_under" => .fasterThan <$> natArg name arg
  | "length_over" => .longerThan <$> natArg name arg
  | "tool_is_used" | "tool_used" => .usesTool <$> textArg name arg
  | "no_tools_called" => .ok .usesNoTool
  | _ => .error (.unknownPredicate name)

end Predicate
end CallCheck
