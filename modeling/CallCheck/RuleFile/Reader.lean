import CallCheck.RuleFile.Basic

/-!
# Reading rule files

The fields of a rule file in YAML. An entry for a predicate is a text, or a map whose keys are
texts; keys of the file that mean nothing are kept as JSON.
-/

namespace CallCheck
namespace RuleFile

open Yaml (Node Read Content)

/-- An entry for a predicate. What matches neither form is refused for the list it stands in. -/
def readDescriptor (depth : Nat) (path : String) (n : Node) : Read Descriptor := do
  let refusal : Read Descriptor :=
    Read.fail "data did not match any variant of untagged enum PredicateEntry"
  match ← Read.content depth path n with
  | .scalar (.text name) => return .bare name
  | .map entries =>
    match Read.jsonOfEntries true entries with
    | .ok fields =>
      match Json.ofFields fields with
      | .object fields => return .call fields
      | _ => refusal
    | .error _ => refusal
  | _ => refusal

def readDescriptors : Nat → String → Node → Read (List Descriptor) := Read.list readDescriptor

/-- The fields of a substring entry read so far. -/
structure SubstringFields where
  substring : Option String
  expect : Option (List Descriptor)

def readSubstring : Nat → String → Node → Read SubstringEntry :=
  Read.record "struct SubstringRule" (⟨none, none⟩ : SubstringFields)
    (fun depth s key path n => do
      match key with
      | "substring" =>
        return { s with substring := ← Read.once key s.substring (Read.text "a string" path n) }
      | "expect" =>
        return { s with expect := ← Read.once key s.expect (readDescriptors depth path n) }
      | _ =>
        Read.ignored n
        return s)
    (fun s => do return ⟨← Read.required "substring" s.substring, s.expect.getD []⟩)

structure CaseFields where
  input : Option Json
  expect : Option (List Descriptor)

def readCase : Nat → String → Node → Read CaseEntry :=
  Read.record "struct CaseEntry" (⟨none, none⟩ : CaseFields)
    (fun depth s key path n => do
      match key with
      | "input" => return { s with input := ← Read.once key s.input (Read.json depth path n) }
      | "expect" =>
        return { s with expect := ← Read.once key s.expect (readDescriptors depth path n) }
      | _ =>
        Read.ignored n
        return s)
    (fun s => do return ⟨← Read.required "input" s.input, s.expect.getD []⟩)

/-- The fields of a rule file read so far, the ones that mean nothing from the last to the
first. -/
structure Fields where
  name : Option (Option String)
  target : Option String
  forAll : Option (List Descriptor)
  containing : Option (List SubstringEntry)
  cases : Option (List CaseEntry)
  unknown : List (String × Content)

def readField (depth : Nat) (s : Fields) (key path : String) (n : Node) : Read Fields := do
  match key with
  | "name" =>
    return { s with
      name := ← Read.once key s.name (Read.optional (Read.text "a string" path) n) }
  | "target" =>
    return { s with target := ← Read.once key s.target (Read.text "a string" path n) }
  | "for_all" =>
    return { s with forAll := ← Read.once key s.forAll (readDescriptors depth path n) }
  | "for_input_containing" =>
    return { s with
      containing := ← Read.once key s.containing (Read.list readSubstring depth path n) }
  | "cases" =>
    return { s with cases := ← Read.once key s.cases (Read.list readCase depth path n) }
  | _ => return { s with unknown := (key, ← Read.content depth path n) :: s.unknown }

/-- The values of the fields that mean nothing. -/
def readUnknown : List (String × Content) → Read (List (String × Json))
  | [] => return []
  | (key, c) :: rest => do
    match Read.jsonOfContent c with
    | .ok v => return (key, v) :: (← readUnknown rest)
    | .error reason => Read.fail reason

def ofFieldsRead (s : Fields) : Read RuleFile := do
  let target ← Read.required "target" s.target
  let unknown ← readUnknown s.unknown.reverse
  return { name := s.name.join, target, forAll := s.forAll.getD []
           containing := s.containing.getD [], cases := s.cases.getD []
           unknown := unknown.foldl (fun sorted field => Json.insertField field.1 field.2 sorted) [] }

def read : Node → Read RuleFile :=
  Read.record "struct RuleFile" (⟨none, none, none, none, none, []⟩ : Fields) readField ofFieldsRead
    Yaml.depthLimit "."

def ofText (text : String) : Except Fault RuleFile :=
  (Yaml.ofText read text).mapError .yaml

def load (d : File.Disk) (path : Path) : Except Fault RuleFile := do
  ofText (← (d.readText path).mapError .file)

end RuleFile
end CallCheck
