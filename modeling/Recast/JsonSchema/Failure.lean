import Recast.Json.Printer
import Recast.JsonSchema.Uri
/-!
Why an instance fails a JSON Schema, and how each reason is worded.

Values inside the words are compact JSON. A count is singular or plural as the limit asks
("1 item", "2 items", "1 property", "2 properties"). A `multipleOf` divisor is written as a
plain decimal, never in scientific notation and without a trailing `.0`. The failures of the
last group concern the schema rather than an instance: a reference that leads nowhere, a URI
that cannot be read or resolved, an unknown edition.
-/

namespace Recast.JsonSchema

/-- The reason an instance fails a schema, or a schema cannot be used. -/
inductive Failure where
  | falseSchema (value : Json)
  | type (value : Json) (expected : String)
  | types (value : Json) (expected : List String)
  | required (property : String)
  | additionalProperties (unexpected : List String)
  | unevaluatedProperties (unexpected : List String)
  | unevaluatedItems (unexpected : List Json)
  | minimum (value limit : Json)
  | maximum (value limit : Json)
  | exclusiveMinimum (value limit : Json)
  | exclusiveMaximum (value limit : Json)
  | multipleOf (value : Json) (divisor : Float)
  | minLength (value : Json) (limit : Nat)
  | maxLength (value : Json) (limit : Nat)
  | minItems (value : Json) (limit : Nat)
  | maxItems (value : Json) (limit : Nat)
  | minProperties (value : Json) (limit : Nat)
  | maxProperties (value : Json) (limit : Nat)
  | pattern (value : Json) (pattern : String)
  | format (value : Json) (format : String)
  | enumeration (value options : Json)
  | constant (expected : Json)
  | negation (value schema : Json)
  | anyOf (value : Json)
  | oneOfNone (value : Json)
  | oneOfMany (value : Json)
  | contains (value : Json)
  | uniqueItems (value : Json)
  | additionalItems (value : Json) (limit : Nat)
  | contentMediaType (value : Json) (mediaType : String)
  | contentEncoding (value : Json) (encoding : String)
  | contentUtf8 (reason : String)
  | backtrackLimit (reason : String)
  | pointerToNowhere (pointer : String)
  | invalidPercentEncoding (pointer : String)
  | invalidArrayIndex (pointer index : String)
  | noSuchAnchor (anchor : String)
  | invalidAnchor (anchor : String)
  | unretrievable (uri reason : String)
  | invalidUriReference (uri : String) (fault : UriFault)
  | unresolvable (uri base : String) (fault : ResolveFault)
  | unknownSpecification (uri : String)
  deriving Inhabited

/-- Decimal text written positionally, as divisors are shown. -/
def plainLayout : Decimal.Layout :=
  { positional := none, wholeSuffix := "" }

/-- `word` with the ending for one or for several. -/
def counted (limit : Nat) (one several : String) : String :=
  toString limit ++ " " ++ (if limit = 1 then one else several)

namespace Failure

/-- The words of a failure. -/
def message : Failure → String
  | .falseSchema value => "False schema does not allow " ++ value.compact
  | .type value expected => value.compact ++ " is not of type \"" ++ expected ++ "\""
  | .types value expected =>
    value.compact ++ " is not of types " ++ ", ".intercalate (expected.map fun t => "\"" ++ t ++ "\"")
  | .required property => Json.quote property ++ " is a required property"
  | .additionalProperties unexpected =>
    "Additional properties are not allowed (" ++ ", ".intercalate (unexpected.map fun k => "'" ++ k ++ "'") ++
      (if unexpected.length = 1 then " was" else " were") ++ " unexpected)"
  | .unevaluatedProperties unexpected =>
    "Unevaluated properties are not allowed (" ++ ", ".intercalate (unexpected.map fun k => "'" ++ k ++ "'") ++
      (if unexpected.length = 1 then " was" else " were") ++ " unexpected)"
  | .unevaluatedItems unexpected =>
    "Unevaluated items are not allowed (" ++
      ", ".intercalate (unexpected.map fun item => "'" ++ item.compact ++ "'") ++
      (if unexpected.length = 1 then " was" else " were") ++ " unexpected)"
  | .minimum value limit => value.compact ++ " is less than the minimum of " ++ limit.compact
  | .maximum value limit => value.compact ++ " is greater than the maximum of " ++ limit.compact
  | .exclusiveMinimum value limit =>
    value.compact ++ " is less than or equal to the minimum of " ++ limit.compact
  | .exclusiveMaximum value limit =>
    value.compact ++ " is greater than or equal to the maximum of " ++ limit.compact
  | .multipleOf value divisor =>
    value.compact ++ " is not a multiple of " ++ plainLayout.format divisor.toBits
  | .minLength value limit =>
    value.compact ++ " is shorter than " ++ counted limit "character" "characters"
  | .maxLength value limit =>
    value.compact ++ " is longer than " ++ counted limit "character" "characters"
  | .minItems value limit => value.compact ++ " has less than " ++ counted limit "item" "items"
  | .maxItems value limit => value.compact ++ " has more than " ++ counted limit "item" "items"
  | .minProperties value limit =>
    value.compact ++ " has less than " ++ counted limit "property" "properties"
  | .maxProperties value limit =>
    value.compact ++ " has more than " ++ counted limit "property" "properties"
  | .pattern value regex => value.compact ++ " does not match \"" ++ regex ++ "\""
  | .format value name => value.compact ++ " is not a \"" ++ name ++ "\""
  | .enumeration value options => value.compact ++ " is not one of " ++ options.compact
  | .constant expected => expected.compact ++ " was expected"
  | .negation value schema => schema.compact ++ " is not allowed for " ++ value.compact
  | .anyOf value =>
    value.compact ++ " is not valid under any of the schemas listed in the 'anyOf' keyword"
  | .oneOfNone value =>
    value.compact ++ " is not valid under any of the schemas listed in the 'oneOf' keyword"
  | .oneOfMany value =>
    value.compact ++ " is valid under more than one of the schemas listed in the 'oneOf' keyword"
  | .contains value => "None of " ++ value.compact ++ " are valid under the given schema"
  | .uniqueItems value => value.compact ++ " has non-unique elements"
  | .additionalItems value limit =>
    let extra := (value.items?.getD []).drop limit
    "Additional items are not allowed (" ++ ", ".intercalate (extra.map Json.compact) ++
      (if extra.length = 1 then " was" else " were") ++ " unexpected)"
  | .contentMediaType value mediaType =>
    value.compact ++ " is not compliant with \"" ++ mediaType ++ "\" media type"
  | .contentEncoding value encoding =>
    value.compact ++ " is not compliant with \"" ++ encoding ++ "\" content encoding"
  | .contentUtf8 reason => reason
  | .backtrackLimit reason => "Error executing regex: " ++ reason
  | .pointerToNowhere pointer => "Pointer '" ++ pointer ++ "' does not exist"
  | .invalidPercentEncoding pointer =>
    "Invalid percent encoding in pointer '" ++ pointer ++
      "': the decoded bytes do not represent valid UTF-8"
  | .invalidArrayIndex pointer index =>
    "Failed to parse array index '" ++ index ++ "' in pointer '" ++ pointer ++ "'"
  | .noSuchAnchor anchor => "Anchor '" ++ anchor ++ "' does not exist"
  | .invalidAnchor anchor => "Anchor '" ++ anchor ++ "' is invalid"
  | .unretrievable uri reason =>
    "Resource '" ++ uri ++ "' is not present in a registry and retrieving it failed: " ++ reason
  | .invalidUriReference uri fault => "Invalid URI reference '" ++ uri ++ "': " ++ fault.message
  | .unresolvable uri base fault =>
    "Failed to resolve '" ++ uri ++ "' against '" ++ base ++ "': " ++ fault.message
  | .unknownSpecification uri => "Unknown specification: " ++ uri

end Failure

end Recast.JsonSchema
