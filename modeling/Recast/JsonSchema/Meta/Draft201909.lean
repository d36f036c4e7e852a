import Recast.JsonSchema.Meta.Basic
/-!
The draft 2019-09 meta-schema.

The meta-schema gathers six vocabulary documents with `allOf`. Every one of them sets
`$recursiveAnchor`, and a subschema position is written `$recursiveRef: "#"`, so that it is
checked against the outermost of them that the check entered, the whole meta-schema.
-/

namespace Recast.JsonSchema

namespace Meta

namespace Draft201909

/-- The URI of the meta-schema. -/
def rootUri : String := "https://json-schema.org/draft/2019-09/schema"

/-- The URI of a vocabulary document. -/
def vocabularyUri (name : String) : String :=
  "https://json-schema.org/draft/2019-09/meta/" ++ name

/-- A subschema position. -/
def anySchema : Json := .obj [("$recursiveRef", .str "#")]

/-- A vocabulary document: its identity, its `properties` and its `$defs`. -/
def vocabulary (name : String) (properties : List (String × Json))
    (definitions : List (String × Json)) : Json :=
  .obj ([("$schema", .str rootUri), ("$id", .str (vocabularyUri name)),
    ("$recursiveAnchor", .bool true), ("type", .arr [.str "object", .str "boolean"]),
    ("properties", .obj properties)] ++
    (if definitions.isEmpty then [] else [("$defs", .obj definitions)]))

/-- The core vocabulary. -/
def core : Json :=
  vocabulary "core"
    [("$id", .obj [("type", .str "string"), ("format", .str "uri-reference"),
       ("pattern", .str "^[^#]*#?$")]),
     ("$schema", formatted "uri"),
     ("$anchor", .obj [("type", .str "string"), ("pattern", .str "^[A-Za-z][-A-Za-z0-9.:_]*$")]),
     ("$ref", formatted "uri-reference"),
     ("$recursiveRef", formatted "uri-reference"),
     ("$recursiveAnchor", ofType "boolean"),
     ("$vocabulary", .obj [("type", .str "object"),
       ("propertyNames", formatted "uri"), ("additionalProperties", ofType "boolean")]),
     ("$comment", ofType "string"),
     ("$defs", mapOf anySchema)] []

/-- The applicator vocabulary. -/
def applicator : Json :=
  vocabulary "applicator"
    [("additionalItems", anySchema),
     ("unevaluatedItems", anySchema),
     ("items", .obj [("anyOf", .arr [anySchema, reference "#/$defs/schemaArray"])]),
     ("contains", anySchema),
     ("additionalProperties", anySchema),
     ("unevaluatedProperties", anySchema),
     ("properties", mapOf anySchema),
     ("patternProperties", .obj [("type", .str "object"), ("additionalProperties", anySchema),
       ("propertyNames", .obj [("format", .str "regex")])]),
     ("dependentSchemas", mapOf anySchema),
     ("propertyNames", anySchema),
     ("if", anySchema),
     ("then", anySchema),
     ("else", anySchema),
     ("allOf", reference "#/$defs/schemaArray"),
     ("anyOf", reference "#/$defs/schemaArray"),
     ("oneOf", reference "#/$defs/schemaArray"),
     ("not", anySchema)]
    [("schemaArray", .obj [("type", .str "array"), ("minItems", .nat 1), ("items", anySchema)])]

/-- The validation vocabulary. -/
def validation : Json :=
  vocabulary "validation"
    [("multipleOf", .obj [("type", .str "number"), ("exclusiveMinimum", .nat 0)]),
     ("maximum", ofType "number"),
     ("exclusiveMaximum", ofType "number"),
     ("minimum", ofType "number"),
     ("exclusiveMinimum", ofType "number"),
     ("maxLength", reference "#/$defs/nonNegativeInteger"),
     ("minLength", reference "#/$defs/nonNegativeIntegerDefault0"),
     ("pattern", formatted "regex"),
     ("maxItems", reference "#/$defs/nonNegativeInteger"),
     ("minItems", reference "#/$defs/nonNegativeIntegerDefault0"),
     ("uniqueItems", ofType "boolean"),
     ("maxContains", reference "#/$defs/nonNegativeInteger"),
     ("minContains", reference "#/$defs/nonNegativeInteger"),
     ("maxProperties", reference "#/$defs/nonNegativeInteger"),
     ("minProperties", reference "#/$defs/nonNegativeIntegerDefault0"),
     ("required", reference "#/$defs/stringArray"),
     ("dependentRequired", mapOf (reference "#/$defs/stringArray")),
     ("const", .bool true),
     ("enum", .obj [("type", .str "array"), ("items", .bool true)]),
     ("type", typeKeyword "#/$defs/simpleTypes")]
    [("nonNegativeInteger", .obj [("type", .str "integer"), ("minimum", .nat 0)]),
     ("nonNegativeIntegerDefault0", reference "#/$defs/nonNegativeInteger"),
     ("simpleTypes", .obj [("enum", .arr typeNames)]),
     ("stringArray", .obj [("type", .str "array"), ("items", ofType "string"),
       ("uniqueItems", .bool true)])]

/-- The meta-data vocabulary. -/
def metaData : Json :=
  vocabulary "meta-data"
    [("title", ofType "string"),
     ("description", ofType "string"),
     ("default", .bool true),
     ("deprecated", ofType "boolean"),
     ("readOnly", ofType "boolean"),
     ("writeOnly", ofType "boolean"),
     ("examples", .obj [("type", .str "array"), ("items", .bool true)])] []

/-- The format vocabulary. -/
def format : Json :=
  vocabulary "format" [("format", ofType "string")] []

/-- The content vocabulary. -/
def content : Json :=
  vocabulary "content"
    [("contentMediaType", ofType "string"),
     ("contentEncoding", ofType "string"),
     ("contentSchema", anySchema)] []

/-- The meta-schema. -/
def root : Json :=
  .obj [("$schema", .str rootUri), ("$id", .str rootUri), ("$recursiveAnchor", .bool true),
    ("allOf", .arr (["core", "applicator", "validation", "meta-data", "format", "content"].map
      fun name => reference ("meta/" ++ name))),
    ("type", .arr [.str "object", .str "boolean"]),
    ("properties", .obj [
      ("definitions", mapOf anySchema),
      ("dependencies", mapOf (.obj [("anyOf", .arr [anySchema,
        reference "meta/validation#/$defs/stringArray"])]))])]

/-- Every document of the meta-schema, by URI. -/
def documents : List (String × Json) :=
  [(rootUri, root), (vocabularyUri "core", core), (vocabularyUri "applicator", applicator),
    (vocabularyUri "validation", validation), (vocabularyUri "meta-data", metaData),
    (vocabularyUri "format", format), (vocabularyUri "content", content)]

end Draft201909

end Meta

end Recast.JsonSchema
