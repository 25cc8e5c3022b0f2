import CallCheck.Schema.Validation

/-!
# Schemas as values of a schema

`Meta.schema` describes the values that are schemas: a vocabulary after the other, each with the
shapes of its keywords. `Schema.ofJson` reads a value as a schema; a value that is none is refused
with the first violation of the description.
-/

namespace CallCheck
namespace Schema
namespace Meta

def object (fields : List (String × Json)) : Json := .ofFields fields

def names (ss : List String) : Json := .list (ss.map .text)

def kind (name : String) : Json := object [("type", .text name)]

/-- A schema for what has a name in the description. -/
def named (name : String) : Json := object [("$ref", .text ("#/$defs/" ++ name))]

def schemas : Json := object [("$ref", .text "#")]

/-- A schema for objects with values of one schema. -/
def mapTo (values : Json) : Json :=
  object [("additionalProperties", values), ("type", .text "object")]

/-- A vocabulary: the shapes of its keywords. -/
def vocabulary (keywords : List (String × Json)) : Json :=
  object [("properties", object keywords), ("type", names ["object", "boolean"])]

/-- The keywords that name schemas and refer to them. -/
def core : Json := vocabulary [
  ("$anchor", named "anchor"),
  ("$comment", kind "string"),
  ("$defs", mapTo schemas),
  ("$dynamicAnchor", named "anchor"),
  ("$dynamicRef", kind "string"),
  ("$id", object [("pattern", .text "^[^#]*#?$"), ("$ref", .text "#/$defs/text")]),
  ("$ref", kind "string"),
  ("$schema", kind "string"),
  ("$vocabulary", object [("additionalProperties", kind "boolean"),
    ("propertyNames", kind "string"), ("type", .text "object")])]

/-- The keywords that apply schemas to a value or its parts. -/
def applicator : Json := vocabulary [
  ("additionalProperties", schemas),
  ("allOf", named "schemaArray"),
  ("anyOf", named "schemaArray"),
  ("contains", schemas),
  ("dependentSchemas", mapTo schemas),
  ("else", schemas),
  ("if", schemas),
  ("items", schemas),
  ("not", schemas),
  ("oneOf", named "schemaArray"),
  ("patternProperties", mapTo schemas),
  ("prefixItems", named "schemaArray"),
  ("properties", mapTo schemas),
  ("propertyNames", schemas),
  ("then", schemas)]

/-- The keywords about what others leave unevaluated. -/
def unevaluated : Json := vocabulary [
  ("unevaluatedItems", schemas),
  ("unevaluatedProperties", schemas)]

def validation : Json := vocabulary [
  ("const", .bool true),
  ("dependentRequired", mapTo (named "stringArray")),
  ("enum", kind "array"),
  ("exclusiveMaximum", kind "number"),
  ("exclusiveMinimum", kind "number"),
  ("maxContains", named "count"),
  ("maxItems", named "count"),
  ("maxLength", named "count"),
  ("maxProperties", named "count"),
  ("maximum", kind "number"),
  ("minContains", named "count"),
  ("minItems", named "count"),
  ("minLength", named "count"),
  ("minProperties", named "count"),
  ("minimum", kind "number"),
  ("multipleOf", object [("exclusiveMinimum", .ofInt 0), ("type", .text "number")]),
  ("pattern", kind "string"),
  ("required", named "stringArray"),
  ("type", object [("anyOf", .list [named "simpleType",
    object [("items", named "simpleType"), ("minItems", .ofInt 1), ("type", .text "array"),
      ("uniqueItems", .bool true)]])]),
  ("uniqueItems", kind "boolean")]

/-- The keywords that only describe. -/
def description : Json := vocabulary [
  ("deprecated", kind "boolean"),
  ("description", kind "string"),
  ("examples", kind "array"),
  ("readOnly", kind "boolean"),
  ("title", kind "string"),
  ("writeOnly", kind "boolean")]

def format : Json := vocabulary [("format", kind "string")]

def content : Json := vocabulary [
  ("contentEncoding", kind "string"),
  ("contentMediaType", kind "string"),
  ("contentSchema", schemas)]

def shared : Json := object [
  ("anchor", object [("pattern", .text "^[A-Za-z_][-A-Za-z0-9._]*$"), ("type", .text "string")]),
  ("count", object [("minimum", .ofInt 0), ("type", .text "integer")]),
  ("schemaArray", object [("items", schemas), ("minItems", .ofInt 1), ("type", .text "array")]),
  ("simpleType", object [("enum", names (Kind.all.map Kind.name))]),
  ("stringArray", object [("items", kind "string"), ("type", .text "array"),
    ("uniqueItems", .bool true)]),
  ("text", kind "string")]

/-- The keywords of earlier days. -/
def earlier : Json := object [
  ("$recursiveAnchor", named "anchor"),
  ("$recursiveRef", kind "string"),
  ("definitions", mapTo schemas),
  ("dependencies", mapTo (object [("anyOf", .list [schemas, named "stringArray"])]))]

/-- The description of schemas. -/
def schema : Json := object [
  ("$defs", shared),
  ("allOf", .list [core, applicator, unevaluated, validation, description, format, content]),
  ("properties", earlier),
  ("type", names ["object", "boolean"])]

/-- The description of schemas, ready to check a value. -/
def document : Document := (Document.ofJson schema).toOption.getD default

/-- The names of the versions of the description, as the pieces between their slashes. -/
def versions : List (List String) :=
  [ ["https:", "", "json-schema.org", "draft", "2020-12", "schema"]
  , ["https:", "", "json-schema.org", "draft", "2019-09", "schema"]
  , ["http:", "", "json-schema.org", "draft-07", "schema"]
  , ["http:", "", "json-schema.org", "draft-06", "schema"]
  , ["http:", "", "json-schema.org", "draft-04", "schema"] ]

/-- The version that a schema says it is written for, if there is none of that name. -/
def unknownVersion? (v : Json) : Option String := do
  let name ← v.get? "$schema" >>= Json.text?
  let name := String.ofList (name.toList.reverse.dropWhile (· = '#')).reverse
  if versions.contains (name.splitOn "/") then none else some name

end Meta

/-- Reads a value as a schema, once it satisfies the description of schemas. -/
def ofJson (v : Json) : Except Fault Document :=
  match Meta.unknownVersion? v, (Meta.document.violations v).head? with
  | some name, _ => .error (.version name)
  | none, some found => .error (.invalid found.message)
  | none, none => Document.ofJson v

end Schema
end CallCheck
