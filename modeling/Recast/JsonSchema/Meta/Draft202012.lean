import Recast.JsonSchema.Meta.Basic
/-!
The draft 2020-12 meta-schema, which every schema is checked against before it is used.

The meta-schema is a document that gathers seven vocabulary documents with `allOf`; each of
them, and the gathering document, declares the dynamic anchor `meta`, so a subschema position
(`$dynamicRef: "#meta"`) is checked against the whole meta-schema. Only the keywords that
constrain a schema are kept here, in their published order, since the order decides which
failure is found first; annotations such as `$comment`, `default` and `deprecated` are left out.
-/

namespace Recast.JsonSchema

namespace Meta

namespace Draft202012

/-- The URI of the meta-schema. -/
def rootUri : String := "https://json-schema.org/draft/2020-12/schema"

/-- The URI of a vocabulary document. -/
def vocabularyUri (name : String) : String :=
  "https://json-schema.org/draft/2020-12/meta/" ++ name

/-- A subschema position: any schema the meta-schema admits. -/
def anySchema : Json := .obj [("$dynamicRef", .str "#meta")]

/-- A map whose values are all schemas. -/
def schemaMap : Json := .obj [("type", .str "object"), ("additionalProperties", anySchema)]

/-- A vocabulary document: its identity, its title, its `properties` and its `$defs`. -/
def vocabulary (name title : String) (properties : List (String × Json))
    (definitions : List (String × Json)) : Json :=
  .obj ([("$schema", .str rootUri), ("$id", .str (vocabularyUri name)),
    ("$dynamicAnchor", .str "meta"), ("title", .str title),
    ("type", .arr [.str "object", .str "boolean"]), ("properties", .obj properties)] ++
    (if definitions.isEmpty then [] else [("$defs", .obj definitions)]))

/-- The core vocabulary: identifiers, references, anchors and definitions. -/
def core : Json :=
  vocabulary "core" "Core vocabulary meta-schema"
    [("$id", .obj [("$ref", .str "#/$defs/uriReferenceString"), ("pattern", .str "^[^#]*#?$")]),
     ("$schema", reference "#/$defs/uriString"),
     ("$ref", reference "#/$defs/uriReferenceString"),
     ("$anchor", reference "#/$defs/anchorString"),
     ("$dynamicRef", reference "#/$defs/uriReferenceString"),
     ("$dynamicAnchor", reference "#/$defs/anchorString"),
     ("$vocabulary", .obj [("type", .str "object"),
       ("propertyNames", reference "#/$defs/uriString"),
       ("additionalProperties", ofType "boolean")]),
     ("$comment", ofType "string"),
     ("$defs", schemaMap)]
    [("anchorString", .obj [("type", .str "string"),
       ("pattern", .str "^[A-Za-z_][-A-Za-z0-9._]*$")]),
     ("uriString", .obj [("type", .str "string"), ("format", .str "uri")]),
     ("uriReferenceString", .obj [("type", .str "string"), ("format", .str "uri-reference")])]

/-- The applicator vocabulary: keywords that apply subschemas. -/
def applicator : Json :=
  vocabulary "applicator" "Applicator vocabulary meta-schema"
    [("prefixItems", reference "#/$defs/schemaArray"),
     ("items", anySchema),
     ("contains", anySchema),
     ("additionalProperties", anySchema),
     ("properties", schemaMap),
     ("patternProperties", .obj [("type", .str "object"), ("additionalProperties", anySchema),
       ("propertyNames", .obj [("format", .str "regex")])]),
     ("dependentSchemas", schemaMap),
     ("propertyNames", anySchema),
     ("if", anySchema),
     ("then", anySchema),
     ("else", anySchema),
     ("allOf", reference "#/$defs/schemaArray"),
     ("anyOf", reference "#/$defs/schemaArray"),
     ("oneOf", reference "#/$defs/schemaArray"),
     ("not", anySchema)]
    [("schemaArray", .obj [("type", .str "array"), ("minItems", .nat 1), ("items", anySchema)])]

/-- The unevaluated vocabulary. -/
def unevaluated : Json :=
  vocabulary "unevaluated" "Unevaluated applicator vocabulary meta-schema"
    [("unevaluatedItems", anySchema), ("unevaluatedProperties", anySchema)] []

/-- The validation vocabulary: assertions about instances. -/
def validation : Json :=
  vocabulary "validation" "Validation vocabulary meta-schema"
    [("type", .obj [("anyOf", .arr [reference "#/$defs/simpleTypes",
       .obj [("type", .str "array"), ("items", reference "#/$defs/simpleTypes"),
         ("minItems", .nat 1), ("uniqueItems", .bool true)]])]),
     ("const", .bool true),
     ("enum", .obj [("type", .str "array"), ("items", .bool true)]),
     ("multipleOf", .obj [("type", .str "number"), ("exclusiveMinimum", .nat 0)]),
     ("maximum", ofType "number"),
     ("exclusiveMaximum", ofType "number"),
     ("minimum", ofType "number"),
     ("exclusiveMinimum", ofType "number"),
     ("maxLength", reference "#/$defs/nonNegativeInteger"),
     ("minLength", reference "#/$defs/nonNegativeIntegerDefault0"),
     ("pattern", .obj [("type", .str "string"), ("format", .str "regex")]),
     ("maxItems", reference "#/$defs/nonNegativeInteger"),
     ("minItems", reference "#/$defs/nonNegativeIntegerDefault0"),
     ("uniqueItems", ofType "boolean"),
     ("maxContains", reference "#/$defs/nonNegativeInteger"),
     ("minContains", reference "#/$defs/nonNegativeInteger"),
     ("maxProperties", reference "#/$defs/nonNegativeInteger"),
     ("minProperties", reference "#/$defs/nonNegativeIntegerDefault0"),
     ("required", reference "#/$defs/stringArray"),
     ("dependentRequired", .obj [("type", .str "object"),
       ("additionalProperties", reference "#/$defs/stringArray")])]
    [("nonNegativeInteger", .obj [("type", .str "integer"), ("minimum", .nat 0)]),
     ("nonNegativeIntegerDefault0", reference "#/$defs/nonNegativeInteger"),
     ("simpleTypes", .obj [("enum", .arr ([
       "array", "boolean", "integer", "null", "number", "object", "string"].map .str))]),
     ("stringArray", .obj [("type", .str "array"), ("items", ofType "string"),
       ("uniqueItems", .bool true)])]

/-- The meta-data vocabulary: annotations about a schema. -/
def metaData : Json :=
  vocabulary "meta-data" "Meta-data vocabulary meta-schema"
    [("title", ofType "string"),
     ("description", ofType "string"),
     ("default", .bool true),
     ("deprecated", ofType "boolean"),
     ("readOnly", ofType "boolean"),
     ("writeOnly", ofType "boolean"),
     ("examples", .obj [("type", .str "array"), ("items", .bool true)])] []

/-- The format annotation vocabulary. -/
def formatAnnotation : Json :=
  vocabulary "format-annotation" "Format vocabulary meta-schema for annotation results"
    [("format", ofType "string")] []

/-- The content vocabulary: encoded content in strings. -/
def content : Json :=
  vocabulary "content" "Content vocabulary meta-schema"
    [("contentEncoding", ofType "string"),
     ("contentMediaType", ofType "string"),
     ("contentSchema", anySchema)] []

/-- The meta-schema: every vocabulary, plus the keywords of earlier drafts it still checks. -/
def root : Json :=
  .obj [("$schema", .str rootUri), ("$id", .str rootUri), ("$dynamicAnchor", .str "meta"),
    ("title", .str "Core and Validation specifications meta-schema"),
    ("allOf", .arr ([ "core", "applicator", "unevaluated", "validation", "meta-data",
      "format-annotation", "content"].map fun name => reference ("meta/" ++ name))),
    ("type", .arr [.str "object", .str "boolean"]),
    ("properties", .obj [
      ("definitions", schemaMap),
      ("dependencies", .obj [("type", .str "object"), ("additionalProperties",
        .obj [("anyOf", .arr [anySchema, reference "meta/validation#/$defs/stringArray"])])]),
      ("$recursiveAnchor", reference "meta/core#/$defs/anchorString"),
      ("$recursiveRef", reference "meta/core#/$defs/uriReferenceString")])]

/-- Every document of the meta-schema, by URI. -/
def documents : List (String × Json) :=
  [(rootUri, root), (vocabularyUri "core", core), (vocabularyUri "applicator", applicator),
    (vocabularyUri "unevaluated", unevaluated), (vocabularyUri "validation", validation),
    (vocabularyUri "meta-data", metaData), (vocabularyUri "format-annotation", formatAnnotation),
    (vocabularyUri "content", content)]

end Draft202012

end Meta

end Recast.JsonSchema
