import Recast.JsonSchema.Meta.Basic
/-!
The meta-schemas of drafts 4, 6 and 7.

Each is one self-contained document: a subschema position refers to the whole document with
`$ref: "#"`, and shared definitions live under `definitions`. Draft 4 admits only objects as
schemas and writes the exclusive bounds as booleans beside `minimum` and `maximum`; drafts 6 and
7 admit booleans as schemas, write the exclusive bounds as numbers, and check the formats of
identifiers and references.
-/

namespace Recast.JsonSchema

namespace Meta

/-- Any schema of the document. -/
def self : Json := reference "#"

/-- A definition of the document. -/
def definition (name : String) : Json := reference ("#/definitions/" ++ name)

/-- The definitions shared by the three drafts; draft 4 calls non-negative integers positive. -/
def legacyDefinitions (draft4 : Bool) : Json :=
  let count := if draft4 then "positiveInteger" else "nonNegativeInteger"
  .obj [("schemaArray", .obj [("type", .str "array"), ("minItems", .nat 1), ("items", self)]),
    (count, .obj [("type", .str "integer"), ("minimum", .nat 0)]),
    (count ++ "Default0", .obj [("allOf", .arr [definition count, .obj []])]),
    ("simpleTypes", .obj [("enum", .arr typeNames)]),
    ("stringArray", .obj ([("type", .str "array"), ("items", ofType "string")] ++
      (if draft4 then [("minItems", .nat 1)] else []) ++ [("uniqueItems", .bool true)]))]

/-- The draft 4 meta-schema. -/
def draft4 : Json :=
  let count := definition "positiveInteger"
  let countDefault := definition "positiveIntegerDefault0"
  let schemaOrBoolean := .obj [("anyOf", .arr [ofType "boolean", self])]
  .obj [("id", .str "http://json-schema.org/draft-04/schema#"),
    ("$schema", .str "http://json-schema.org/draft-04/schema#"),
    ("definitions", legacyDefinitions true),
    ("type", .str "object"),
    ("properties", .obj [
      ("id", ofType "string"),
      ("$schema", ofType "string"),
      ("title", ofType "string"),
      ("description", ofType "string"),
      ("multipleOf", .obj [("type", .str "number"), ("minimum", .nat 0),
        ("exclusiveMinimum", .bool true)]),
      ("maximum", ofType "number"),
      ("exclusiveMaximum", ofType "boolean"),
      ("minimum", ofType "number"),
      ("exclusiveMinimum", ofType "boolean"),
      ("maxLength", count),
      ("minLength", countDefault),
      ("pattern", formatted "regex"),
      ("additionalItems", schemaOrBoolean),
      ("items", .obj [("anyOf", .arr [self, definition "schemaArray"])]),
      ("maxItems", count),
      ("minItems", countDefault),
      ("uniqueItems", ofType "boolean"),
      ("maxProperties", count),
      ("minProperties", countDefault),
      ("required", definition "stringArray"),
      ("additionalProperties", schemaOrBoolean),
      ("definitions", mapOf self),
      ("properties", mapOf self),
      ("patternProperties", mapOf self),
      ("dependencies", mapOf (.obj [("anyOf", .arr [self, definition "stringArray"])])),
      ("enum", .obj [("type", .str "array"), ("minItems", .nat 1), ("uniqueItems", .bool true)]),
      ("type", typeKeyword "#/definitions/simpleTypes"),
      ("allOf", definition "schemaArray"),
      ("anyOf", definition "schemaArray"),
      ("oneOf", definition "schemaArray"),
      ("not", self)]),
    ("dependencies", .obj [("exclusiveMaximum", .arr [.str "maximum"]),
      ("exclusiveMinimum", .arr [.str "minimum"])])]

/-- The keywords of drafts 6 and 7 that check numbers, strings and arrays, from `multipleOf`
to `uniqueItems`. -/
def legacyAssertions : List (String × Json) :=
  let count := definition "nonNegativeInteger"
  let countDefault := definition "nonNegativeIntegerDefault0"
  [("multipleOf", .obj [("type", .str "number"), ("exclusiveMinimum", .nat 0)]),
    ("maximum", ofType "number"),
    ("exclusiveMaximum", ofType "number"),
    ("minimum", ofType "number"),
    ("exclusiveMinimum", ofType "number"),
    ("maxLength", count),
    ("minLength", countDefault),
    ("pattern", formatted "regex"),
    ("additionalItems", self),
    ("items", .obj [("anyOf", .arr [self, definition "schemaArray"])]),
    ("maxItems", count),
    ("minItems", countDefault),
    ("uniqueItems", ofType "boolean"),
    ("contains", self),
    ("maxProperties", count),
    ("minProperties", countDefault),
    ("required", definition "stringArray"),
    ("additionalProperties", self),
    ("definitions", mapOf self),
    ("properties", mapOf self)]

/-- The draft 6 meta-schema. -/
def draft6 : Json :=
  .obj [("$schema", .str "http://json-schema.org/draft-06/schema#"),
    ("$id", .str "http://json-schema.org/draft-06/schema#"),
    ("definitions", legacyDefinitions false),
    ("type", .arr [.str "object", .str "boolean"]),
    ("properties", .obj ([
      ("$id", formatted "uri-reference"),
      ("$schema", formatted "uri"),
      ("$ref", formatted "uri-reference"),
      ("title", ofType "string"),
      ("description", ofType "string"),
      ("examples", .obj [("type", .str "array"), ("items", .obj [])])] ++
      legacyAssertions ++ [
      ("patternProperties", mapOf self),
      ("dependencies", mapOf (.obj [("anyOf", .arr [self, definition "stringArray"])])),
      ("propertyNames", self),
      ("enum", .obj [("type", .str "array"), ("minItems", .nat 1), ("uniqueItems", .bool true)]),
      ("type", typeKeyword "#/definitions/simpleTypes"),
      ("format", ofType "string"),
      ("allOf", definition "schemaArray"),
      ("anyOf", definition "schemaArray"),
      ("oneOf", definition "schemaArray"),
      ("not", self)]))]

/-- The draft 7 meta-schema. -/
def draft7 : Json :=
  .obj [("$schema", .str "http://json-schema.org/draft-07/schema#"),
    ("$id", .str "http://json-schema.org/draft-07/schema#"),
    ("definitions", legacyDefinitions false),
    ("type", .arr [.str "object", .str "boolean"]),
    ("properties", .obj ([
      ("$id", formatted "uri-reference"),
      ("$schema", formatted "uri"),
      ("$ref", formatted "uri-reference"),
      ("$comment", ofType "string"),
      ("title", ofType "string"),
      ("description", ofType "string"),
      ("readOnly", ofType "boolean"),
      ("writeOnly", ofType "boolean"),
      ("examples", .obj [("type", .str "array"), ("items", .bool true)])] ++
      legacyAssertions ++ [
      ("patternProperties", .obj [("type", .str "object"), ("additionalProperties", self),
        ("propertyNames", .obj [("format", .str "regex")])]),
      ("dependencies", mapOf (.obj [("anyOf", .arr [self, definition "stringArray"])])),
      ("propertyNames", self),
      ("enum", .obj [("type", .str "array"), ("items", .bool true)]),
      ("type", typeKeyword "#/definitions/simpleTypes"),
      ("format", ofType "string"),
      ("contentMediaType", ofType "string"),
      ("contentEncoding", ofType "string"),
      ("if", self),
      ("then", self),
      ("else", self),
      ("allOf", definition "schemaArray"),
      ("anyOf", definition "schemaArray"),
      ("oneOf", definition "schemaArray"),
      ("not", self)]))]

end Meta

end Recast.JsonSchema
