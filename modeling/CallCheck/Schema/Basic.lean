import CallCheck.Json.Writer
import CallCheck.Regex.Expr
import CallCheck.Schema.Pointer

/-!
# JSON schemas

A schema allows everything, allows nothing, or is a list of keywords, each of which constrains
values of some kind and says nothing about the others. A reference names another schema of the same
document by a pointer; `Schema.Document` holds a schema with all that it refers to.
-/

namespace CallCheck
namespace Schema

inductive Kind where
  | array
  | boolean
  | integer
  | null
  | number
  | object
  | string
  deriving DecidableEq, Inhabited

namespace Kind

/-- The kinds in the order of their names. -/
def all : List Kind := [.array, .boolean, .integer, .null, .number, .object, .string]

def name : Kind → String
  | .array => "array"
  | .boolean => "boolean"
  | .integer => "integer"
  | .null => "null"
  | .number => "number"
  | .object => "object"
  | .string => "string"

def ofName? (name : String) : Option Kind := all.find? (·.name == name)

/-- Whether a value is of the kind; every whole number is an integer. -/
def holds : Json → Kind → Bool
  | .null, .null | .bool _, .boolean | .text _, .string | .list _, .array | .object _, .object
  | .number _, .number => true
  | .number (.int _), .integer => true
  | .number (.real b), .integer => b.isWhole
  | _, _ => false

end Kind

/-- What is counted of a value. -/
inductive Measure where
  | characters
  | items
  | properties
  deriving DecidableEq, Inhabited

inductive Bound where
  | maximum
  | exclusiveMaximum
  | minimum
  | exclusiveMinimum
  deriving DecidableEq, Inhabited

structure Pattern where
  text : String
  regex : Regex
  deriving Inhabited

end Schema

mutual

inductive Schema where
  | allowed
  | refused
  | keywords (keywords : List Schema.Keyword)

inductive Schema.Keyword where
  | kinds (kinds : List Schema.Kind)
  | oneOfValues (values : List Json)
  | value (value : Json)
  | atLeast (measure : Schema.Measure) (limit : Nat)
  | atMost (measure : Schema.Measure) (limit : Nat)
  | bound (bound : Schema.Bound) (limit : Number)
  | multipleOf (divisor : Number)
  | pattern (pattern : Schema.Pattern)
  | uniqueItems
  | required (names : List String)
  | properties (properties : List (String × Schema))
  | patternProperties (patterns : List (Schema.Pattern × Schema))
  | otherProperties (properties : Option (List (String × Schema)))
      (patterns : Option (List (Schema.Pattern × Schema))) (others : Schema)
  | propertyNames (names : Schema)
  | items (skipped : Nat) (item : Schema)
  | prefixItems (items : List Schema)
  | contains (least most : Option Nat) (item : Schema)
  | allOf (schemas : List Schema)
  | anyOf (schemas : List Schema)
  | oneOf (schemas : List Schema)
  | not (written : Json) (schema : Schema)
  | conditional (condition : Schema) (yes no : Schema)
  | requiredWith (name : String) (names : List String)
  | schemaWith (name : String) (schema : Schema)
  | reference (target : Pointer)
  | unevaluatedProperties (siblings : List Schema.Keyword) (others : Schema)
  | unevaluatedItems (siblings : List Schema.Keyword) (others : Schema)

end

instance : Inhabited Schema := ⟨.allowed⟩

namespace Schema

/-- A schema with the schemas that references name, and the number of values it was written
with. -/
structure Document where
  root : Schema
  targets : List (Pointer × Schema)
  size : Nat
  deriving Inhabited

/-- Why a value is no schema. -/
inductive Fault where
  | version (name : String)
  | invalid (message : String)
  | regex (written : Json)
  | pointer (written : String)
  | percent (written : String)
  | index (step written : String)
  | anchor (name : String)
  | anchorSyntax (name : String)
  | foreign (reference : String)
  deriving Inhabited

def Fault.message : Fault → String
  | .version name => "Unknown specification: " ++ name
  | .invalid message => message
  | .regex written => written.compact ++ " is not a \"regex\""
  | .pointer written => "Pointer '" ++ written ++ "' does not exist"
  | .percent written =>
    "Invalid percent encoding in pointer '" ++ written ++
      "': the decoded bytes do not represent valid UTF-8"
  | .index step written =>
    "Failed to parse array index '" ++ step ++ "' in pointer '" ++ written ++ "'"
  | .anchor name => "Anchor '" ++ name ++ "' does not exist"
  | .anchorSyntax name => "Anchor '" ++ name ++ "' is invalid"
  | .foreign reference =>
    "Resource '" ++ reference ++ "' is not present in a registry and retrieving it failed"

/-- A constraint that a part of a value does not satisfy. -/
structure Violation where
  message : String
  place : Pointer
  deriving DecidableEq, Inhabited

def Violation.words (v : Violation) : String := v.message ++ " at " ++ v.place.written

end Schema
end CallCheck
