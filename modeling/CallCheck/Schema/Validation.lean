import CallCheck.Schema.Reader

/-!
# Validation

`Schema.violations` lists what is wrong with a value: keyword by keyword, and within a keyword part
by part. A combination of schemas that fails is one violation of its own; the violations of its
members are not told. The depth bounds how often a schema is entered on the way to a part of the
value; beyond it nothing is found.
-/

namespace CallCheck

/-- A number as a multiple of the least positive double; integers are exact. -/
def Number.units : Number → Int
  | .int i => i * Binary64.one
  | .real b => b.units

namespace Schema

/-! ### Constraints without schemas -/

/-- A text in quotes between single quotes, for lists of names. -/
def listed (names : List String) : String :=
  ", ".intercalate (names.map fun n => "'" ++ n ++ "'") ++
    if names.length = 1 then " was" else " were"

def Measure.of? : Measure → Json → Option Nat
  | .characters, .text s => some s.length
  | .items, .list vs => some vs.length
  | .properties, .object fields => some fields.length
  | _, _ => none

def Measure.noun (m : Measure) (n : Nat) : String :=
  match m with
  | .characters => if n = 1 then "character" else "characters"
  | .items => if n = 1 then "item" else "items"
  | .properties => if n = 1 then "property" else "properties"

/-- How too little is told. -/
def Measure.less : Measure → String
  | .characters => " is shorter than "
  | .items | .properties => " has less than "

/-- How too much is told. -/
def Measure.more : Measure → String
  | .characters => " is longer than "
  | .items | .properties => " has more than "

def Bound.holds (b : Bound) (limit n : Number) : Bool :=
  match b with
  | .maximum => n.units ≤ limit.units
  | .exclusiveMaximum => n.units < limit.units
  | .minimum => limit.units ≤ n.units
  | .exclusiveMinimum => limit.units < n.units

def Bound.words : Bound → String
  | .maximum => " is greater than the maximum of "
  | .exclusiveMaximum => " is greater than or equal to the maximum of "
  | .minimum => " is less than the minimum of "
  | .exclusiveMinimum => " is less than or equal to the minimum of "

/-- The least difference from one that is told apart, in units. -/
def epsilon : Nat := Nat.pow 2 (1074 - 52)

/-- Whether a double is a multiple of another. A whole divisor has to divide it; otherwise the
quotient has to be whole but for a rounding error, which negative quotients always are. -/
def isMultiple (divisor b : Binary64) : Bool :=
  if divisor.isWhole then b.isWhole && b.magnitude % divisor.magnitude == 0
  else
    match Binary64.ofRatio? (b.negative != divisor.negative) b.magnitude divisor.magnitude with
    | none => b.magnitude % divisor.magnitude == 0
    | some quotient => quotient.negative || quotient.magnitude % Binary64.one < epsilon

/-- Whether a value is the expected one; numbers may differ by a rounding error. -/
def isValue (expected v : Json) : Bool :=
  match expected, v with
  | .number a, .number b => (a.toBinary64.units - b.toBinary64.units).natAbs < epsilon
  | _, _ => expected.sameValue v

def areDifferent : List Json → Bool
  | [] => true
  | v :: rest => !rest.any v.sameValue && areDifferent rest

/-- The names that a value of several keys does not have, in order. -/
def missing (names : List String) : Json → List String
  | .object fields => names.filter fun n => (Json.field? n fields).isNone
  | _ => []

def missingWords (name : String) : String := Json.quote name ++ " is a required property"

def refusedWords (v : Json) : String := "False schema does not allow " ++ v.compact

def combinationWords (v : Json) (how keyword : String) : String :=
  v.compact ++ how ++ " of the schemas listed in the '" ++ keyword ++ "' keyword"

def kindWords (kinds : List Kind) : String :=
  (if kinds.length = 1 then " is not of type " else " is not of types ") ++
    ", ".intercalate (kinds.map fun k => "\"" ++ k.name ++ "\"")

/-- What a constraint without schemas has against a value. -/
def Keyword.complaints (v : Json) : Keyword → List String
  | .kinds ks => if ks.any (Kind.holds v) then [] else [v.compact ++ kindWords ks]
  | .oneOfValues values =>
    if values.any v.sameValue then []
    else [v.compact ++ " is not one of " ++ (Json.list values).compact]
  | .value expected =>
    if isValue expected v then [] else [expected.compact ++ " was expected"]
  | .atLeast m limit =>
    match m.of? v with
    | some n =>
      if limit ≤ n then []
      else [v.compact ++ m.less ++ toString limit ++ " " ++ m.noun limit]
    | none => []
  | .atMost m limit =>
    match m.of? v with
    | some n =>
      if n ≤ limit then []
      else [v.compact ++ m.more ++ toString limit ++ " " ++ m.noun limit]
    | none => []
  | .bound b limit =>
    match v with
    | .number n => if b.holds limit n then [] else [v.compact ++ b.words ++ limit.toText]
    | _ => []
  | .multipleOf divisor =>
    match v with
    | .number n =>
      if isMultiple divisor.toBinary64 n.toBinary64 then []
      else [v.compact ++ " is not a multiple of " ++ divisor.toBinary64.plain]
    | _ => []
  | .pattern p =>
    match v with
    | .text s =>
      if p.regex.isMatch s then [] else [v.compact ++ " does not match \"" ++ p.text ++ "\""]
    | _ => []
  | .uniqueItems =>
    match v with
    | .list vs => if areDifferent vs then [] else [v.compact ++ " has non-unique elements"]
    | _ => []
  | .required names => (missing names v).map missingWords
  | .requiredWith name names =>
    if (v.get? name).isSome then (missing names v).map missingWords else []
  | _ => []

/-! ### Schemas -/

/-- The parts of a value with their steps: the fields of an object, the items of a list. -/
def parts : Json → List (String × Json)
  | .object fields => fields
  | .list vs => vs.zipIdx.map fun (v, i) => (toString i, v)
  | _ => []

def fieldParts : Json → List (String × Json)
  | .object fields => fields
  | _ => []

def itemParts : Json → List (String × Json)
  | .list vs => parts (.list vs)
  | _ => []

def schemasFor (named : Option (List (String × Schema)))
    (patterns : Option (List (Pattern × Schema))) (name : String) : List Schema :=
  ((named.getD []).filter (·.1 == name)).map (·.2) ++
    ((patterns.getD []).filter fun p => p.1.regex.isMatch name).map (·.2)

/-- A schema that is checked of a part of a value. -/
abbrev Check := Pointer → Json → Schema → List Violation

def Check.passes (check : Check) (v : Json) (s : Schema) : Bool := (check [] v s).isEmpty

/-- The violations among the properties of an object, those without a schema told together. -/
def othersViolations (check : Check) (place : Pointer)
    (named : Option (List (String × Schema))) (patterns : Option (List (Pattern × Schema)))
    (others : Schema) (v : Json) : List Violation :=
  let isKnown (name : String) := !(schemasFor named patterns name).isEmpty
  let found := (fieldParts v).flatMap fun (name, part) =>
    let known := schemasFor named patterns name
    match known, others with
    | [], .refused => []
    | [], others => check (place ++ [name]) part others
    | known, _ => known.flatMap (check (place ++ [name]) part)
  match others with
  | .refused =>
    let unknown := (fieldParts v).filter fun (name, _) => !isKnown name
    match unknown with
    | [] => found
    | (_, first) :: _ =>
      if named.isNone && patterns.isNone then [⟨refusedWords first, place⟩]
      else found ++ [⟨"Additional properties are not allowed (" ++ listed (unknown.map (·.1)) ++
        " unexpected)", place⟩]
  | _ => found

/-- Whether the number of items that satisfy a schema is within its limits, at least one if there is
no lower limit. -/
def containsEnough (least most : Option Nat) (count : Nat) : Bool :=
  least.getD 1 ≤ count && most.all (count ≤ ·)

mutual

/-- The steps to the parts of a value that a schema evaluates. A part counts where it is valid. -/
def evaluated (check : Check) (targets : List (Pointer × Schema)) :
    Nat → Json → Schema → List String
  | depth + 1, v, .keywords ks => ks.flatMap (evaluatedBy check targets depth v)
  | _, _, _ => []

def evaluatedBy (check : Check) (targets : List (Pointer × Schema)) (depth : Nat) (v : Json) :
    Keyword → List String
  | .properties ps => validParts fun name => schemasFor (some ps) none name
  | .patternProperties ps => validParts fun name => schemasFor none (some ps) name
  | .otherProperties named patterns others =>
    validParts fun name => schemasFor named patterns name ++ [others]
  | .unevaluatedProperties _ others => validParts fun _ => [others]
  | .prefixItems ss => ((itemParts v).take ss.length).map (·.1)
  | .items _ _ => (itemParts v).map (·.1)
  | .contains _ _ s => ((itemParts v).filter fun part => check.passes part.2 s).map (·.1)
  | .unevaluatedItems _ others =>
    ((itemParts v).filter fun part => check.passes part.2 others).map (·.1)
  | .allOf ss | .anyOf ss | .oneOf ss => (ss.filter (check.passes v)).flatMap inner
  | .conditional condition yes no =>
    if check.passes v condition then inner condition ++ inner yes else inner no
  | .schemaWith name s => if (v.get? name).isSome then inner s else []
  | .reference p => (targets.find? (·.1 == p)).elim [] fun target => inner target.2
  | _ => []
where
  /-- What a schema for the whole value evaluates. -/
  inner (s : Schema) : List String := evaluated check targets depth v s
  /-- The properties that one of the schemas for their name allows. -/
  validParts (schemas : String → List Schema) : List String :=
    ((fieldParts v).filter fun (name, part) => (schemas name).any (check.passes part)).map (·.1)

end

/-- The parts of a value that neither the other constraints evaluate nor the schema for them
allows. -/
def unevaluated (check : Check) (targets : List (Pointer × Schema)) (depth : Nat)
    (siblings : List Keyword) (others : Schema) (v : Json) (parts : List (String × Json)) :
    List (String × Json) :=
  let known := siblings.flatMap (evaluatedBy check targets depth v)
  parts.filter fun part => !known.contains part.1 && !check.passes part.2 others

/-- The violations of a constraint, given how schemas are checked. -/
def Keyword.violations (check : Check) (targets : List (Pointer × Schema)) (depth : Nat)
    (place : Pointer) (v : Json) (k : Keyword) : List Violation :=
  let one (message : String) : List Violation := [⟨message, place⟩]
  match k with
  | .properties ps =>
    ps.flatMap fun (name, s) =>
      ((fieldParts v).filter (·.1 == name)).flatMap fun part => check (place ++ [name]) part.2 s
  | .patternProperties ps =>
    ps.flatMap fun (p, s) =>
      ((fieldParts v).filter fun part => p.regex.isMatch part.1).flatMap fun part =>
        check (place ++ [part.1]) part.2 s
  | .otherProperties named patterns others =>
    othersViolations check place named patterns others v
  | .propertyNames s =>
    match s with
    | .refused => if (fieldParts v).isEmpty then [] else one (refusedWords v)
    | s => (fieldParts v).flatMap fun part =>
        (check [] (.text part.1) s).map fun found => ⟨found.message, place⟩
  | .items skipped s =>
    ((itemParts v).drop skipped).flatMap fun part => check (place ++ [part.1]) part.2 s
  | .prefixItems ss =>
    (ss.zip (itemParts v)).flatMap fun (s, part) => check (place ++ [part.1]) part.2 s
  | .contains least most s =>
    match v with
    | .list vs =>
      if containsEnough least most (vs.countP fun part => check.passes part s) then []
      else one ("None of " ++ v.compact ++ " are valid under the given schema")
    | _ => []
  | .allOf ss => ss.flatMap (check place v)
  | .anyOf ss =>
    if ss.any (check.passes v) then [] else one (combinationWords v " is not valid under any" "anyOf")
  | .oneOf ss =>
    match ss.countP (check.passes v) with
    | 0 => one (combinationWords v " is not valid under any" "oneOf")
    | 1 => []
    | _ => one (combinationWords v " is valid under more than one" "oneOf")
  | .not written s =>
    if check.passes v s then one (written.compact ++ " is not allowed for " ++ v.compact) else []
  | .conditional condition yes no =>
    check place v (if check.passes v condition then yes else no)
  | .schemaWith name s => if (v.get? name).isSome then check place v s else []
  | .reference p => (targets.find? (·.1 == p)).elim [] fun target => check place v target.2
  | .unevaluatedProperties siblings others =>
    match unevaluated check targets depth siblings others v (fieldParts v) with
    | [] => []
    | found => one ("Unevaluated properties are not allowed (" ++ listed (found.map (·.1)) ++
        " unexpected)")
  | .unevaluatedItems siblings others =>
    match unevaluated check targets depth siblings others v (itemParts v) with
    | [] => []
    | found => one ("Unevaluated items are not allowed (" ++
        listed (found.map fun part => part.2.compact) ++ " unexpected)")
  | k => (k.complaints v).map fun message => ⟨message, place⟩

def violations (targets : List (Pointer × Schema)) : Nat → Check
  | 0, _, _, _ => []
  | _ + 1, _, _, .allowed => []
  | _ + 1, place, v, .refused => [⟨refusedWords v, place⟩]
  | depth + 1, place, v, .keywords ks =>
    ks.flatMap (Keyword.violations (violations targets depth) targets depth place v)

namespace Document

/-- What is wrong with a value. Between two steps into the value no schema is entered twice, unless
references go round in a circle. -/
def violations (d : Document) (v : Json) : List Violation :=
  Schema.violations d.targets ((v.size + 1) * (d.size + 1)) [] v d.root

end Document
end Schema
end CallCheck
