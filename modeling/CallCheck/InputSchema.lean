import CallCheck.Fault
import CallCheck.Journal
import CallCheck.Schema.Meta

/-!
# Input schemas

What a declared input has to satisfy: nothing, a JSON schema, or a check given as code that lists
the problems it finds. Whenever a check is asked, the journal gets an entry with what it told.
-/

namespace CallCheck

/-- What declared inputs are held to. A check given as code may log. -/
inductive InputSchema where
  | any
  | json (document : Schema.Document)
  | custom (check : Json → Told (List String))
  deriving Inhabited

namespace InputSchema

def ofJson (v : Json) : Except SchemaFault InputSchema :=
  match Schema.ofJson v with
  | .ok document => .ok (.json document)
  | .error fault => .error (.compile fault.message)

/-- The schema as a record of its kind. -/
def debug (s : InputSchema) : String :=
  let kind := match s with
    | .any => "any"
    | .json _ => "json-schema"
    | .custom _ => "custom"
  "InputSchema \x7b kind: \"" ++ kind ++ "\" \x7d"

def errors : InputSchema → Json → Run (List String)
  | .any, _ => return []
  | .json document, v => return (document.violations v).map Schema.Violation.words
  | .custom check, v => Run.ask check v

def consult (s : InputSchema) (v : Json) : Run (Except SchemaFault Unit) := do
  let found ← s.errors v
  return if found.isEmpty then .ok () else .error (.invalid found)

end InputSchema
end CallCheck
