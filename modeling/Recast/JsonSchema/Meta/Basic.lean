import Recast.Json.Basic
/-!
Building blocks of the meta-schemas.

Each edition of JSON Schema publishes a meta-schema: a schema that every schema of that edition
must satisfy. The meta-schemas are kept here as values, keyword by keyword in their published
order, since the order decides which failure is found first. Only keywords that constrain a
schema are kept; annotations such as `default`, `$comment` and `title` are left out, as they
never fail.
-/

namespace Recast.JsonSchema

namespace Meta

/-- A schema that is only a reference. -/
def reference (target : String) : Json := .obj [("$ref", .str target)]

/-- A schema demanding one type. -/
def ofType (name : String) : Json := .obj [("type", .str name)]

/-- A schema demanding one of several types. -/
def ofTypes (names : List String) : Json := .obj [("type", .arr (names.map .str))]

/-- A string with a format. -/
def formatted (format : String) : Json :=
  .obj [("type", .str "string"), ("format", .str format)]

/-- A map whose values all satisfy a schema. -/
def mapOf (schema : Json) : Json :=
  .obj [("type", .str "object"), ("additionalProperties", schema)]

/-- The names of the primitive types. -/
def typeNames : List Json :=
  ["array", "boolean", "integer", "null", "number", "object", "string"].map .str

/-- The `type` keyword's schema: one type name, or a non-empty array of distinct names. -/
def typeKeyword (simpleTypes : String) : Json :=
  .obj [("anyOf", .arr [reference simpleTypes,
    .obj [("type", .str "array"), ("items", reference simpleTypes), ("minItems", .nat 1),
      ("uniqueItems", .bool true)]])]

end Meta

end Recast.JsonSchema
