import Recast.Json.Basic
/-!
The editions of JSON Schema.

Five editions are told apart, by the `$schema` of a schema's root: draft 4, draft 6, draft 7,
draft 2019-09 and draft 2020-12. A schema that names none is read as draft 2020-12, and one
that names another URI is refused. An edition decides which keywords act, how a few of them
act, where subschemas stand, what identifies a schema and what declares an anchor, and whether
`format` is an assertion (drafts 4, 6 and 7) or only an annotation.
-/

namespace Recast.JsonSchema

/-- An edition of JSON Schema, oldest first. -/
inductive Draft where
  | draft4
  | draft6
  | draft7
  | draft201909
  | draft202012
  deriving DecidableEq, Inhabited, Repr

namespace Draft

/-- The position of an edition in time. -/
def rank : Draft → Nat
  | .draft4 => 4
  | .draft6 => 6
  | .draft7 => 7
  | .draft201909 => 2019
  | .draft202012 => 2020

/-- Whether an edition is at least as recent as another. -/
def atLeast (draft other : Draft) : Bool :=
  other.rank ≤ draft.rank

/-- The URI of an edition's meta-schema, as documents name it. -/
def metaUri : Draft → String
  | .draft4 => "http://json-schema.org/draft-04/schema"
  | .draft6 => "http://json-schema.org/draft-06/schema"
  | .draft7 => "http://json-schema.org/draft-07/schema"
  | .draft201909 => "https://json-schema.org/draft/2019-09/schema"
  | .draft202012 => "https://json-schema.org/draft/2020-12/schema"

/-- Every edition. -/
def all : List Draft := [.draft4, .draft6, .draft7, .draft201909, .draft202012]

/-- Drops the `#` marks that end a URI. -/
def trimFragmentMarks (uri : String) : String :=
  String.ofList ((uri.toList.reverse.dropWhile (· == '#')).reverse)

/-- The edition a `$schema` URI names, once the `#` marks that end it are dropped. -/
def ofUri? (uri : String) : Option Draft :=
  all.find? fun draft => draft.metaUri == trimFragmentMarks uri

/-- The edition of a schema: the one its `$schema` names, or `fallback` when it names none.
`.error` carries the URI of an unknown edition. -/
def detect (fallback : Draft) (schema : Json) : Except String Draft :=
  match schema.field? "$schema" with
  | some (.str uri) =>
    match ofUri? uri with
    | some draft => .ok draft
    | none => .error (trimFragmentMarks uri)
  | _ => .ok fallback

/-- Whether `format` asserts, rather than only annotates. -/
def assertsFormat : Draft → Bool
  | .draft4 | .draft6 | .draft7 => true
  | _ => false

/-- Whether a `$ref` makes the other keywords beside it inert. -/
def refOverrides : Draft → Bool
  | .draft4 | .draft6 | .draft7 => true
  | _ => false

/-- Whether a number with no fractional part written as a binary64 value is an integer. -/
def wholeFloatsAreIntegers : Draft → Bool
  | .draft4 => false
  | _ => true

/-- The keyword that gives a schema its identity. -/
def idKeyword : Draft → String
  | .draft4 => "id"
  | _ => "$id"

/-- Whether a keyword acts in an edition. Keywords that only annotate, and names an edition does
not know, act in none. -/
def knows (draft : Draft) (keyword : String) : Bool :=
  if ["$ref", "additionalItems", "additionalProperties", "allOf", "anyOf", "dependencies", "enum",
      "format", "items", "maxItems", "maxLength", "maxProperties", "maximum", "minItems",
      "minLength", "minProperties", "minimum", "multipleOf", "not", "oneOf", "pattern",
      "patternProperties", "properties", "required", "type", "uniqueItems"].contains keyword then
    true
  else if ["const", "contains", "exclusiveMaximum", "exclusiveMinimum",
      "propertyNames"].contains keyword then
    draft.atLeast .draft6
  else if ["contentMediaType", "contentEncoding"].contains keyword then
    draft == .draft6 || draft == .draft7
  else if keyword == "if" then draft.atLeast .draft7
  else if ["dependentRequired", "dependentSchemas", "unevaluatedItems",
      "unevaluatedProperties"].contains keyword then
    draft.atLeast .draft201909
  else if keyword == "$recursiveRef" then draft == .draft201909
  else if keyword == "$dynamicRef" || keyword == "prefixItems" then draft == .draft202012
  else false

/-- The keywords whose value is one subschema. -/
def singleSubschemaKeywords : Draft → List String
  | .draft4 => ["additionalItems", "additionalProperties", "not"]
  | .draft6 => ["additionalItems", "additionalProperties", "contains", "not", "propertyNames"]
  | .draft7 => ["additionalItems", "additionalProperties", "contains", "else", "if", "not",
      "propertyNames", "then"]
  | .draft201909 => ["additionalItems", "additionalProperties", "contains", "contentSchema",
      "else", "if", "not", "propertyNames", "then", "unevaluatedItems", "unevaluatedProperties"]
  | .draft202012 => ["additionalProperties", "contains", "contentSchema", "else", "if", "items",
      "not", "propertyNames", "then", "unevaluatedItems", "unevaluatedProperties"]

/-- The keywords whose value is an array of subschemas. -/
def subschemaArrayKeywords : Draft → List String
  | .draft202012 => ["allOf", "anyOf", "oneOf", "prefixItems"]
  | _ => ["allOf", "anyOf", "oneOf"]

/-- The keywords whose value maps names to subschemas. -/
def subschemaMapKeywords : Draft → List String
  | .draft4 | .draft6 | .draft7 => ["definitions", "patternProperties", "properties"]
  | _ => ["$defs", "definitions", "dependentSchemas", "patternProperties", "properties"]

/-- The subschemas that stand directly in a schema, in the order its keywords are written.
Before draft 2020-12 `items` holds one subschema or an array of them; before draft 2019-09 the
values of `dependencies` that are objects are subschemas too. -/
def subschemas (draft : Draft) (schema : Json) : List Json :=
  match schema with
  | .obj fields =>
    fields.flatMap fun (key, value) =>
      if (draft.singleSubschemaKeywords).contains key then [value]
      else if (draft.subschemaArrayKeywords).contains key then (value.items?).getD []
      else if (draft.subschemaMapKeywords).contains key then
        ((value.fields?).getD []).map Prod.snd
      else if key == "items" && draft != .draft202012 then
        match value with
        | .arr items => items
        | other => [other]
      else if key == "dependencies" && !draft.atLeast .draft201909 then
        ((value.fields?).getD []).filterMap fun (_, dependency) =>
          if dependency.isObject then some dependency else none
      else []
  | _ => []

end Draft

end Recast.JsonSchema
