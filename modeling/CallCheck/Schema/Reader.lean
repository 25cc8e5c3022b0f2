import CallCheck.Schema.Basic

/-!
# Reading schemas

`Schema.Document.ofJson` reads a schema whose keywords are known to have the right shape. Keywords
come in the order of their names; a name without a meaning is no constraint. What can still go wrong
is a pattern that cannot be read or a reference that leads nowhere. A schema that is referred to is
read once, so references may form cycles.
-/

namespace CallCheck
namespace Schema

/-- A reading that remembers the schemas that references name. -/
abbrev Reading := StateT (List (Pointer × Schema)) (Except Fault)

/-! ### Patterns -/

/-- The classes for which a pattern of a schema has letters, as they are written in full. -/
def classOf? : Char → Option String
  | 'd' => some "[0-9]"
  | 'D' => some "[^0-9]"
  | 'w' => some "[A-Za-z0-9_]"
  | 'W' => some "[^A-Za-z0-9_]"
  | 's' => some "[ \\t\\n\\r\\v\\f\\x\x7b2003\x7d\\x\x7bfeff\x7d\\x\x7b2029\x7d\\x\x7ba0\x7d]"
  | 'S' => some "[^ \\t\\n\\r\\v\\f\\x\x7b2003\x7d\\x\x7bfeff\x7d\\x\x7b2029\x7d\\x\x7ba0\x7d]"
  | _ => none

/-- A pattern with its class letters written in full, so that they mean ASCII. -/
def spellOut : List Char → List Char
  | '\\' :: c :: rest => ((classOf? c).elim ['\\', c] String.toList) ++ spellOut rest
  | c :: rest => c :: spellOut rest
  | [] => []

/-- Reads a pattern; `written` is what is shown if that fails. -/
def readPattern (text : String) (written : Json) : Reading Pattern :=
  match Regex.ofText (String.ofList (spellOut text.toList)) true with
  | .ok regex => return ⟨text, regex⟩
  | .error _ => throw (.regex written)

/-! ### References -/

mutual

/-- The names that parts of a value give themselves, with the way to each part. -/
def anchors : Json → List (String × Pointer)
  | .object fields =>
    let own := ["$anchor", "$dynamicAnchor"].filterMap fun key =>
      (Json.field? key fields).bind fun name => name.text?.map (·, [])
    own ++ anchorsOfFields fields
  | .list items => anchorsOfItems 0 items
  | _ => []

def anchorsOfFields : List (String × Json) → List (String × Pointer)
  | [] => []
  | (key, v) :: rest =>
    (anchors v).map (fun (name, p) => (name, key :: p)) ++ anchorsOfFields rest

def anchorsOfItems (i : Nat) : List Json → List (String × Pointer)
  | [] => []
  | v :: rest =>
    (anchors v).map (fun (name, p) => (name, toString i :: p)) ++ anchorsOfItems (i + 1) rest

end

/-- The part of a value that a pointer leads to; `written` is the pointer as it was written. -/
def follow (written : String) : Pointer → Json → Except Fault Json
  | [], v => .ok v
  | step :: rest, v =>
    match v with
    | .list items =>
      match Pointer.index? step with
      | none => .error (.index step written)
      | some i =>
        match items[i]? with
        | some part => follow written rest part
        | none => .error (.pointer written)
    | v =>
      match v.get? step with
      | some part => follow written rest part
      | none => .error (.pointer written)

/-- The pointer that a reference stands for, and the part it leads to. -/
def resolve (root : Json) (reference : String) : Except Fault (Pointer × Json) :=
  match reference.toList with
  | [] | ['#'] => .ok ([], root)
  | '#' :: '/' :: rest =>
    let written := String.ofList ('/' :: rest)
    match Pointer.percentDecoded? ('/' :: rest) with
    | none => .error (.percent written)
    | some decoded => do
      let p := Pointer.ofWritten decoded.toList
      return (p, ← follow written p root)
  | '#' :: name =>
    match (anchors root).find? (·.1 == String.ofList name) with
    | some (_, p) => do return (p, ← follow p.written p root)
    | none =>
      if name.contains '/' then .error (.anchorSyntax (String.ofList name))
      else .error (.anchor (String.ofList name))
  | _ => .error (.foreign reference)

/-- Reads a reference, and the schema it names unless that was read before. -/
def readReference (root : Json) (read : Json → Reading Schema) (reference : String) :
    Reading Keyword := do
  let (p, target) ← (resolve root reference : Except Fault _)
  if !(← get).any (·.1 == p) then
    modify (· ++ [(p, .allowed)])
    let s ← read target
    modify (·.map fun entry => if entry.1 = p then (p, s) else entry)
  return .reference p

/-! ### Keywords -/

/-- A number as a natural number; a double that is whole counts. -/
def natOf? : Json → Option Nat
  | .number (.int i) => some i.toNat
  | .number (.real b) => some (min (b.magnitude / Binary64.one) (Nat.pow 2 64 - 1))
  | _ => none

def limitOf (make : Nat → Keyword) (v : Json) : List Keyword := (natOf? v).toList.map make

def boundOf (b : Bound) : Json → List Keyword
  | .number n => [.bound b n]
  | _ => []

def textsOf (v : Json) : List String := (v.items?.getD []).filterMap Json.text?

def fieldsOf : Json → List (String × Json)
  | .object fields => fields
  | _ => []

def readProperties (read : Json → Reading Schema) (v : Json) : Reading (List (String × Schema)) :=
  (fieldsOf v).mapM fun (name, s) => return (name, ← read s)

def readPatterns (read : Json → Reading Schema) (v : Json) : Reading (List (Pattern × Schema)) :=
  (fieldsOf v).mapM fun (text, s) => return (← readPattern text s, ← read s)

def readAll (read : Json → Reading Schema) (v : Json) : Reading (List Schema) :=
  (v.items?.getD []).mapM read

/-- Whether a constraint on the other properties covers `properties` and `patternProperties`. -/
def coversProperties (fields : List (String × Json)) : Bool :=
  match Json.field? "additionalProperties" fields with
  | some (.bool false) | some (.object _) => true
  | _ => false

/-- Reads a constraint on the properties that are not named. -/
def readOthers (read : Json → Reading Schema) (fields : List (String × Json)) (v : Json) :
    Reading (List Keyword) := do
  match v with
  | .bool true => return []
  | v =>
    let patterns ← (Json.field? "patternProperties" fields).mapM (readPatterns read)
    let properties ← (Json.field? "properties" fields).mapM (readProperties read)
    return [.otherProperties properties patterns (← read v)]

/-- Reads what a property brings with it: the names of others, or a schema. -/
def readDependency (read : Json → Reading Schema) (name : String) (v : Json) : Reading Keyword := do
  match v with
  | .list _ => return .requiredWith name (textsOf v)
  | v => return .schemaWith name (← read v)

def readOptional (read : Json → Reading Schema) (v : Option Json) : Reading Schema :=
  v.elim (return .allowed) read

def readKeyword (root : Json) (read : Json → Reading Schema) (fields : List (String × Json))
    (key : String) (v : Json) : Reading (List Keyword) := do
  match key with
  | "$ref" | "$dynamicRef" =>
    match v with
    | .text reference => return [← readReference root read reference]
    | _ => return []
  | "additionalProperties" => readOthers read fields v
  | "allOf" => return [.allOf (← readAll read v)]
  | "anyOf" => return [.anyOf (← readAll read v)]
  | "oneOf" => return [.oneOf (← readAll read v)]
  | "const" => return [.value v]
  | "contains" =>
    let count (key : String) := (Json.field? key fields).bind natOf?
    return [.contains (count "minContains") (count "maxContains") (← read v)]
  | "dependencies" | "dependentRequired" | "dependentSchemas" =>
    (fieldsOf v).mapM fun (name, d) => readDependency read name d
  | "enum" => return [.oneOfValues (v.items?.getD [])]
  | "exclusiveMaximum" => return boundOf .exclusiveMaximum v
  | "exclusiveMinimum" => return boundOf .exclusiveMinimum v
  | "maximum" => return boundOf .maximum v
  | "minimum" => return boundOf .minimum v
  | "if" =>
    let yes := Json.field? "then" fields
    let no := Json.field? "else" fields
    if yes.isNone && no.isNone then return []
    return [.conditional (← read v) (← readOptional read yes) (← readOptional read no)]
  | "items" =>
    let skipped := ((Json.field? "prefixItems" fields).bind Json.items?).elim 0 List.length
    return [.items skipped (← read v)]
  | "maxItems" => return limitOf (.atMost .items) v
  | "maxLength" => return limitOf (.atMost .characters) v
  | "maxProperties" => return limitOf (.atMost .properties) v
  | "minItems" => return limitOf (.atLeast .items) v
  | "minLength" => return limitOf (.atLeast .characters) v
  | "minProperties" => return limitOf (.atLeast .properties) v
  | "multipleOf" =>
    match v with
    | .number n => return [.multipleOf n]
    | _ => return []
  | "not" => return [.not v (← read v)]
  | "pattern" => return [.pattern (← readPattern (v.text?.getD "") v)]
  | "patternProperties" =>
    if coversProperties fields then return []
    return [.patternProperties (← readPatterns read v)]
  | "prefixItems" => return [.prefixItems (← readAll read v)]
  | "properties" =>
    if coversProperties fields then return []
    return [.properties (← readProperties read v)]
  | "propertyNames" => return [.propertyNames (← read v)]
  | "required" => return [.required (textsOf v)]
  | "type" =>
    let names := v.text?.elim (textsOf v) ([·])
    let kinds := names.filterMap Kind.ofName?
    return [.kinds (Kind.all.filter kinds.contains)]
  | "uniqueItems" =>
    match v with
    | .bool true => return [.uniqueItems]
    | _ => return []
  | _ => return []

/-- Whether a keyword concerns the parts that the other keywords leave unevaluated. -/
def concernsRest (key : String) : Bool :=
  key == "unevaluatedItems" || key == "unevaluatedProperties"

def readRest (read : Json → Reading Schema) (siblings : List Keyword)
    (fields : List (String × Json)) : Reading (List Keyword) :=
  (fields.filter fun field => concernsRest field.1).mapM fun (key, v) => do
    let others ← read v
    return if key = "unevaluatedItems" then .unevaluatedItems siblings others
      else .unevaluatedProperties siblings others

/-- Reads a schema of a document, at most `depth` schemas deep. -/
def read (root : Json) : Nat → Json → Reading Schema
  | 0, _ => return .allowed
  | _ + 1, .bool b => return if b then .allowed else .refused
  | depth + 1, .object fields => do
    let one (field : String × Json) := readKeyword root (read root depth) fields field.1 field.2
    let before ← (fields.filter (·.1 < "unevaluated")).mapM one
    let after ← (fields.filter fun f => !(f.1 < "unevaluated") && !concernsRest f.1).mapM one
    let siblings := before.flatten ++ after.flatten
    let rest ← readRest (read root depth) siblings fields
    return .keywords (before.flatten ++ rest ++ after.flatten)
  | _ + 1, _ => return .allowed

/-- Reads a schema with all that it refers to. No schema is read within itself more than once as a
part and once as the target of a reference, which bounds the depth. -/
def Document.ofJson (v : Json) : Except Fault Document := do
  let (root, targets) ← (read v (2 * v.size + 1) v).run []
  return ⟨root, targets, v.size⟩

end Schema
end CallCheck
