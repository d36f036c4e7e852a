import Recast.JsonSchema.Registry
import Recast.JsonSchema.Equality
import Recast.JsonSchema.Format
import Recast.JsonSchema.Content
/-!
Checking an instance against a schema, in the edition each subschema is read in.

A boolean schema admits everything (`true`) or nothing (`false`). A schema object's keywords are
checked in the order they are written, and the first failure is the answer; only the keywords
its edition knows take part, and before draft 2019-09 a `$ref` makes the keywords beside it
inert. A few keywords read their siblings: `items` skips the positions `prefixItems` covers,
`additionalItems` the positions an array of `items` covers, `contains` counts against
`minContains` and `maxContains` from draft 2019-09 on, `if` chooses between `then` and `else`,
draft 4's `minimum` and `maximum` turn exclusive when `exclusiveMinimum` or `exclusiveMaximum` is
`true`, and when `additionalProperties` is `false` or a schema it also does the work of
`properties` and `patternProperties`, which then check nothing on their own. In that case the
members are checked in their own order, and the members that nothing lists or matches are
reported together at the end when `additionalProperties` is `false`.

`unevaluatedProperties` accepts a member that some neighbouring keyword evaluated and found
valid, and `unevaluatedItems` an item that one evaluated; which keywords count is spelled out
at `propertyVerdict` and `markItems`.

Evaluation is written as one step over an `Evaluator` for subschemas (`keyword`), tied into a
recursion by `evaluate`, whose fuel bounds the depth of subschemas entered.
-/

namespace Recast.JsonSchema

/-- Checks an instance against a schema read in a scope: the first failure, if any. -/
abbrev Evaluator := Scope → Json → Json → Option Failure

/-- What evaluation needs besides the schema: the documents references reach, and the sites of
the schemas whose reference preparation left out (see `Recast.JsonSchema.prepare`). -/
structure Context where
  registry : Registry
  skipped : List (List String)

/-! ### Types and limits -/

/-- The primitive types, in the order a failure lists them. -/
def typeOrder : List String := ["array", "boolean", "integer", "null", "number", "object", "string"]

/-- Whether an instance has a primitive type. An integer is a number written without fraction or
exponent that fits 64 bits, or, from draft 6 on, any number with no fractional part. -/
def hasType (draft : Draft) (value : Json) (name : String) : Bool :=
  match name, value with
  | "array", .arr _ => true
  | "boolean", .bool _ => true
  | "integer", .num (.int _) => true
  | "integer", .num number => draft.wholeFloatsAreIntegers && number.isWhole
  | "null", .null => true
  | "number", .num _ => true
  | "object", .obj _ => true
  | "string", .str _ => true
  | _, _ => false

/-- The largest count a limit can give. -/
def countMax : Nat := Nat.pow 2 64 - 1

/-- A count limit: a non-negative integer, or a number with no fractional part, which is cut to
the range of 64-bit counts. -/
def limitOf? : Json → Option Nat
  | .num (.int value) => if 0 ≤ value then some (min value.toNat countMax) else none
  | .num number =>
    let (numerator, shift) := number.toDyadic
    if numerator % (Nat.pow 2 shift : Int) != 0 then none
    else if numerator < 0 then some 0
    else some (min (numerator.toNat / Nat.pow 2 shift) countMax)
  | _ => none

/-! ### Single keywords -/

/-- `type`: one name or a list of names. -/
def checkType (draft : Draft) (value : Json) : Json → Option Failure
  | .str name => if hasType draft value name then none else some (.type value name)
  | .arr [.str name] => if hasType draft value name then none else some (.type value name)
  | .arr names =>
    let names := names.filterMap Json.str?
    if names.any (hasType draft value) then none
    else some (.types value (typeOrder.filter names.contains))
  | _ => none

/-- A bound on a number: fails when the comparison of instance to limit is one `rejects`. -/
def checkBound (value limit : Json) (rejects : Ordering → Bool) (failure : Failure) :
    Option Failure :=
  match value, limit with
  | .num number, .num bound =>
    if rejects (Number.compareExact number bound) then some failure else none
  | _, _ => none

/-- `multipleOf`. -/
def checkMultipleOf (value divisor : Json) : Option Failure :=
  match value, divisor with
  | .num number, .num step =>
    if Number.isMultipleOf number step then none else some (.multipleOf value step.toFloat)
  | _, _ => none

/-- A size bound: `fails size limit` tells whether the size breaks the limit. -/
def checkSize (size : Option Nat) (limit : Json) (fails : Nat → Nat → Bool)
    (failure : Nat → Failure) : Option Failure :=
  match size, limitOf? limit with
  | some size, some limit => if fails size limit then some (failure limit) else none
  | _, _ => none

/-- The number of characters of a string instance. -/
def textLength : Json → Option Nat
  | .str text => some text.length
  | _ => none

/-- The number of items of an array instance. -/
def itemCount : Json → Option Nat
  | .arr items => some items.length
  | _ => none

/-- The number of members of an object instance. -/
def memberCount : Json → Option Nat
  | .obj fields => some fields.length
  | _ => none

/-- `pattern`: the pattern must occur somewhere in a string instance; a search that gives up is
a failure of its own. -/
def checkPattern (value : Json) (pattern : String) : Option Failure :=
  match value, Pattern.compile? pattern with
  | .str text, some regex =>
    match regex.search text with
    | .matched => none
    | .failed => some (.pattern value pattern)
    | .gaveUp reason => some (.backtrackLimit reason)
  | _, _ => none

/-- The patterns of a `patternProperties` map, each compiled once, with their texts and
subschemas. -/
def compiledPatterns (patterns : List (String × Json)) :
    List (Option Regex.Compiled × String × Json) :=
  patterns.map fun (pattern, schema) => (Pattern.compile? pattern, pattern, schema)

/-- Whether a property name matches a compiled pattern; a pattern that does not compile, or a
search that gives up, is no match. -/
def nameMatches (regex : Option Regex.Compiled) (name : String) : Bool :=
  match regex with
  | some regex => regex.search name == .matched
  | none => false

/-- `required`: the first listed property the object lacks. -/
def checkRequired (value : Json) (names : Json) : Option Failure :=
  match value, names with
  | .obj fields, .arr names =>
    names.findSome? fun
      | .str name => if Table.contains fields name then none else some (.required name)
      | _ => none
  | _, _ => none

/-- The member list of a schema keyword's value, or none. -/
def membersOf : Option Json → List (String × Json)
  | some (.obj fields) => fields
  | _ => []

/-- `format`, when it asserts and the edition knows the format. -/
def checkFormat (draft : Draft) (value : Json) (name : Json) : Option Failure :=
  match value, name with
  | .str text, .str format =>
    match Format.check? draft format with
    | some holds => if holds text then none else some (.format value format)
    | none => none
  | _, _ => none

/-- `contentMediaType`, with the `contentEncoding` beside it when there is one. -/
def checkMediaType (schema : List (String × Json)) (value : Json) (mediaType : Json) :
    Option Failure :=
  match value, mediaType with
  | .str text, .str media =>
    if !Content.knowsMediaType media then none
    else
      match Table.get? schema "contentEncoding" with
      | some (.str encoding) =>
        if !Content.knowsEncoding encoding then none
        else
          match Content.decode encoding text with
          | .error none => some (.contentEncoding value encoding)
          | .error (some words) => some (.contentUtf8 words)
          | .ok decoded =>
            if Content.isMediaType media decoded then none else some (.contentMediaType value media)
      | _ => if Content.isMediaType media text then none else some (.contentMediaType value media)
  | _, _ => none

/-- `contentEncoding` alone; beside `contentMediaType` it is checked there. -/
def checkEncoding (schema : List (String × Json)) (value : Json) (encoding : Json) :
    Option Failure :=
  match value, encoding with
  | .str text, .str name =>
    if Table.contains schema "contentMediaType" || !Content.knowsEncoding name then none
    else if Content.isEncoded name text then none
    else some (.contentEncoding value name)
  | _, _ => none

/-! ### Property keywords -/

/-- Whether `additionalProperties` takes over `properties` and `patternProperties`. -/
def additionalTakesOver (schema : List (String × Json)) : Bool :=
  match Table.get? schema "additionalProperties" with
  | some (.bool false) | some (.obj _) => true
  | _ => false

/-- `properties` alone: each listed property present, in the schema's order. -/
def checkProperties (eval : Evaluator) (scope : Scope) (value : Json)
    (properties : List (String × Json)) : Option Failure :=
  match value with
  | .obj fields =>
    properties.findSome? fun (name, schema) =>
      (Table.get? fields name).bind (eval (scope.into ("properties/" ++ name) schema) schema)
  | _ => none

/-- `patternProperties` alone: each pattern in turn, against every member it matches. -/
def checkPatternProperties (eval : Evaluator) (scope : Scope) (value : Json)
    (patterns : List (String × Json)) : Option Failure :=
  match value with
  | .obj fields =>
    (compiledPatterns patterns).findSome? fun (regex, pattern, schema) =>
      fields.findSome? fun (name, member) =>
        if nameMatches regex name then
          eval (scope.into ("patternProperties/" ++ pattern) schema) schema member
        else none
  | _ => none

/-- One member under `additionalProperties`: checked by its listed schema and the patterns it
matches; when neither applies, by the additional schema, or, when that is `false`, kept for
the report (`.ok false`). -/
def checkMember (eval : Evaluator) (scope : Scope) (properties : List (String × Json))
    (patterns : List (Option Regex.Compiled × String × Json)) (additional : Json) (name : String)
    (member : Json) : Except Failure Bool :=
  let sub (step : String) (schema : Json) := eval (scope.into step schema) schema member
  let matched := patterns.filter fun (regex, _) => nameMatches regex name
  let listed := Table.get? properties name
  match listed.bind (sub ("properties/" ++ name)) with
  | some failure => .error failure
  | none =>
    match matched.findSome? fun (_, pattern, schema) => sub ("patternProperties/" ++ pattern) schema with
    | some failure => .error failure
    | none =>
      if listed.isSome || !matched.isEmpty then .ok true
      else
        match additional with
        | .bool false => .ok false
        | schema =>
          match sub "additionalProperties" schema with
          | some failure => .error failure
          | none => .ok true

/-- `additionalProperties` when it takes over: the first member, in the object's order, that
fails its listed schema, a pattern's schema or the additional schema, or that nothing admits
when that is `false`. With no `properties` and no `patternProperties`, `false` refuses the
first member's value. -/
def checkAdditional (eval : Evaluator) (scope : Scope) (schema : List (String × Json))
    (value additional : Json) : Option Failure :=
  match value with
  | .obj fields =>
    let plain := !Table.contains schema "properties" && !Table.contains schema "patternProperties"
    match additional, fields with
    | .bool false, (_, first) :: _ =>
      if plain then some (.falseSchema first) else checkEach fields
    | _, _ => checkEach fields
  | _ => none
where
  /-- The first member that fails, or that nothing admits. -/
  checkEach (fields : List (String × Json)) : Option Failure :=
    let properties := membersOf (Table.get? schema "properties")
    let patterns := compiledPatterns (membersOf (Table.get? schema "patternProperties"))
    fields.findSome? fun (name, member) =>
      match checkMember eval scope properties patterns additional name member with
      | .error failure => some failure
      | .ok true => none
      | .ok false => some (.additionalProperties [name])

/-- `dependentRequired`: for each listed property present, the properties it demands. -/
def checkDependentRequired (value : Json) (dependencies : Json) : Option Failure :=
  match value with
  | .obj fields =>
    (membersOf (some dependencies)).findSome? fun (name, names) =>
      if Table.contains fields name then checkRequired value names else none
  | _ => none

/-- `dependencies`: for each listed property present, the properties it demands (an array) or
the schema the whole object must meet. -/
def checkDependencies (eval : Evaluator) (scope : Scope) (value : Json) (dependencies : Json) :
    Option Failure :=
  match value with
  | .obj fields =>
    (membersOf (some dependencies)).findSome? fun (name, dependency) =>
      if !Table.contains fields name then none
      else
        match dependency with
        | .arr _ => checkRequired value dependency
        | schema => eval (scope.into ("dependencies/" ++ name) schema) schema value
  | _ => none

/-! ### Array keywords -/

/-- `contains`; from draft 2019-09 on with its sibling bounds. -/
def checkContains (eval : Evaluator) (scope : Scope) (schema : List (String × Json))
    (value contained : Json) : Option Failure :=
  match value with
  | .arr items =>
    let found := (items.filter fun item =>
      (eval (scope.into "contains" contained) contained item).isNone).length
    if !scope.draft.atLeast .draft201909 then
      if found == 0 then some (.contains value) else none
    else
      let least := (Table.get? schema "minContains").bind limitOf?
      let most := (Table.get? schema "maxContains").bind limitOf?
      match least with
      | some least =>
        if (most.map fun most => decide (most < found)).getD false then some (.contains value)
        else if found < least then some (.contains value) else none
      | none =>
        match most with
        | some most => if found == 0 || most < found then some (.contains value) else none
        | none => if found == 0 then some (.contains value) else none
  | _ => none

/-- `items`: an array of schemas for the leading positions, or one schema for every position
past those `prefixItems` covers. -/
def checkItems (eval : Evaluator) (scope : Scope) (schema : List (String × Json))
    (value argument : Json) : Option Failure :=
  match value, argument with
  | .arr items, .arr schemas =>
    ((items.zip schemas).zipIdx).findSome? fun ((item, itemSchema), index) =>
      eval (scope.into ("items/" ++ toString index) itemSchema) itemSchema item
  | _, .bool true => none
  | .arr items, _ =>
    let skipped := match Table.get? schema "prefixItems" with
      | some (.arr leading) => leading.length
      | _ => 0
    (items.drop skipped).findSome? (eval (scope.into "items" argument) argument)
  | _, _ => none

/-- `additionalItems`: the positions past an array of `items`; beside `items: false` it refuses
every instance, arrays or not. -/
def checkAdditionalItems (eval : Evaluator) (scope : Scope) (schema : List (String × Json))
    (value argument : Json) : Option Failure :=
  match Table.get? schema "items", value with
  | some (.arr schemas), .arr items =>
    match argument with
    | .bool false =>
      if schemas.length < items.length then some (.additionalItems value schemas.length) else none
    | .obj _ =>
      (items.drop schemas.length).findSome? (eval (scope.into "additionalItems" argument) argument)
    | _ => none
  | some (.bool false), _ => some (.falseSchema value)
  | _, _ => none

/-- `propertyNames`: `false` refuses every non-empty object; a schema checks every name. -/
def checkPropertyNames (eval : Evaluator) (scope : Scope) (value argument : Json) :
    Option Failure :=
  match value, argument with
  | .obj (_ :: _), .bool false => some (.falseSchema value)
  | .obj fields, .obj _ =>
    fields.findSome? fun (name, _) => eval (scope.into "propertyNames" argument) argument (.str name)
  | _, _ => none

/-! ### References -/

/-- The dynamic scope, outermost first: the resources references passed through, then the
current one. -/
def Scope.outward (scope : Scope) : List UriRef :=
  scope.trail.reverse ++ [scope.base]

/-- Where a `$dynamicRef` leads. A reference to an anchor that the statically reached schema
declares as dynamic goes to the outermost resource in the dynamic scope that declares the same
dynamic anchor. -/
def dynamicTarget (registry : Registry) (scope : Scope) (reference : String) :
    Except Failure (Json × Scope) := do
  let (target, inner) ← registry.lookup scope reference
  let name := String.ofList ((reference.toList.dropWhile (· != '#')).drop 1)
  let declares := match target.field? "$dynamicAnchor" with
    | some (.str anchor) => anchor == name
    | _ => false
  if name.isEmpty || name.startsWith "/" || !declares then pure (target, inner)
  else
    let outermost := scope.outward.find? fun uri =>
      match registry.anchors.lookup (uri.text, name) with
      | some anchor => anchor.dynamic
      | none => false
    match outermost with
    | some uri => registry.lookup scope (uri.text ++ "#" ++ name)
    | none => pure (target, inner)

/-- Whether a schema declares `$recursiveAnchor: true`. -/
def recursiveAnchor (schema : Json) : Bool :=
  match schema.field? "$recursiveAnchor" with
  | some (.bool true) => true
  | _ => false

/-- Where a `$recursiveRef` leads: the current resource, or, while it and the resources the
references passed through declare `$recursiveAnchor`, the outermost of them in a row. -/
def recursiveTarget (registry : Registry) (scope : Scope) : Except Failure (Json × Scope) := do
  let start ← registry.lookup scope "#"
  if !recursiveAnchor start.1 then pure start
  else
    let rec outward : List UriRef → Json × Scope → Json × Scope
      | [], found => found
      | uri :: rest, found =>
        match registry.lookup scope uri.text with
        | .ok next => if recursiveAnchor next.1 then outward rest next else found
        | .error _ => found
    pure (outward scope.trail start)

/-! ### Evaluated properties and items -/

/-- The members of an array keyword of a schema object, each with the step that leads to it. -/
def branchesOf (schema : List (String × Json)) (key : String) : List (String × Json) :=
  (((Table.get? schema key).bind Json.items?).getD []).zipIdx.map fun (s, index) =>
    (key ++ "/" ++ toString index, s)

/-- How the keywords of a schema object judge one member of an object instance for
`unevaluatedProperties`: accepted (`some true`) or refused (`some false`) by the first that
evaluates the member, or `none` when none does. The member's own `properties` entry comes
first, then the patterns it matches; then, when `if` is an object, the `if` schema itself and
`then` when the instance meets it, `else` when it does not; the `dependentSchemas` entries whose
property is present; the target of `$ref`, `$dynamicRef` or `$recursiveRef`, read in the scope
of the schema that refers to it, so references inside it resolve as if they stood there; the
members of `allOf` when the instance meets all of them, which accept the member when one of them
does, all those of `anyOf`, and the one member of `oneOf` that the instance meets; last
`additionalProperties` and
`unevaluatedProperties`, which accept the member when it is valid against them. Only members of
these keywords that are objects take part. -/
def propertyVerdict (ctx : Context) (eval : Evaluator) : Nat → Scope → List (String × Json) →
    Json → String → Json → Option Bool
  | 0, _, _, _, _, _ => none
  | fuel + 1, scope, schema, whole, name, member =>
    let valid (step : String) (subschema : Json) : Bool :=
      (eval (scope.into step subschema) subschema member).isNone
    let holds (step : String) (subschema : Json) : Bool :=
      (eval (scope.into step subschema) subschema whole).isNone
    let inner (inScope : Scope) (subschema : Json) : Option Bool :=
      match subschema with
      | .obj fields => propertyVerdict ctx eval fuel inScope fields whole name member
      | _ => none
    let nested (step : String) (subschema : Json) : Option Bool :=
      inner (scope.into step subschema) subschema
    let objects (key : String) : List (String × Json) :=
      ((branchesOf schema key).filter fun (_, s) => s.isObject)
    let listed : Option Bool := match Table.get? schema "properties" with
      | some (.obj properties) => (Table.get? properties name).map (valid ("properties/" ++ name))
      | _ => none
    let byPattern : Option Bool := match Table.get? schema "patternProperties" with
      | some (.obj patterns) =>
        let matched := (compiledPatterns patterns).filter fun (regex, _) => nameMatches regex name
        if matched.isEmpty then none
        else some (matched.all fun (_, pattern, s) => valid ("patternProperties/" ++ pattern) s)
      | _ => none
    let conditional : Option Bool :=
      match Table.get? schema "if" with
      | some (.obj condition) =>
        if holds "if" (.obj condition) then
          (nested "if" (.obj condition)).orElse fun _ => (Table.get? schema "then").bind (nested "then")
        else (Table.get? schema "else").bind (nested "else")
      | _ => none
    let dependent : Option Bool :=
      match whole with
      | .obj fields =>
        (membersOf (Table.get? schema "dependentSchemas")).findSome? fun (key, s) =>
          if Table.contains fields key && s.isObject then nested ("dependentSchemas/" ++ key) s
          else none
      | _ => none
    let followed (step : String) (target : Except Failure (Json × Scope)) : Option Bool :=
      match target with
      | .ok (target, _) => inner (scope.via step scope) target
      | .error _ => none
    let referenced : Option Bool :=
      (match Table.get? schema "$ref" with
        | some (.str reference) => followed "$ref" (ctx.registry.lookup scope reference)
        | _ => none).orElse fun _ =>
      (match Table.get? schema "$dynamicRef" with
        | some (.str reference) => followed "$dynamicRef" (dynamicTarget ctx.registry scope reference)
        | _ => none).orElse fun _ =>
      if Table.contains schema "$recursiveRef" then
        followed "$recursiveRef" (recursiveTarget ctx.registry scope)
      else none
    let allOf : Option Bool :=
      let branches := objects "allOf"
      if !branches.isEmpty && branches.all (fun (step, s) => holds step s)
          && branches.any (fun (step, s) => nested step s == some true) then
        some true
      else none
    let anyOf : Option Bool := (objects "anyOf").findSome? fun (step, s) => nested step s
    let oneOf : Option Bool :=
      let rec pick : List (String × Json) → Option Bool → Option Bool
        | [], found => found
        | (step, branch) :: rest, found =>
          match nested step branch with
          | some verdict =>
            if holds step branch then
              if found.isSome then none else pick rest (some verdict)
            else pick rest found
          | none => pick rest found
      pick (objects "oneOf") none
    let trailing (key : String) : Option Bool :=
      (Table.get? schema key).bind fun s => if valid key s then some true else none
    listed.orElse fun _ => byPattern.orElse fun _ => conditional.orElse fun _ =>
      dependent.orElse fun _ => referenced.orElse fun _ => allOf.orElse fun _ =>
      anyOf.orElse fun _ => oneOf.orElse fun _ => (trailing "additionalProperties").orElse fun _ =>
      trailing "unevaluatedProperties"

/-- Marks the items of an array instance that the keywords of a schema object evaluate, for
`unevaluatedItems`: every item under `items` as one schema, or `additionalItems` beside an array
of `items`; the leading items under an array of `items` or under `prefixItems`; the items valid
against `contains` or a nested `unevaluatedItems`; and, recursively, those the target of `$ref`,
`$dynamicRef` or `$recursiveRef` (read in the scope of the schema that refers to it), the `if`
schema and `then` when the instance meets it or `else` when it does not, the members of `allOf`
and of `anyOf` when the instance meets all the members of that keyword, and every member of
`oneOf`, evaluate. -/
def markItems (ctx : Context) (eval : Evaluator) : Nat → Scope → List (String × Json) → Json →
    List Json → List Bool → List Bool
  | 0, _, _, _, _, marks => marks
  | fuel + 1, scope, schema, whole, items, marks =>
    let holds (step : String) (subschema : Json) : Bool :=
      (eval (scope.into step subschema) subschema whole).isNone
    let inner (inScope : Scope) (subschema : Json) (marks : List Bool) : List Bool :=
      match subschema with
      | .obj fields => markItems ctx eval fuel inScope fields whole items marks
      | _ => marks
    let nested (step : String) (subschema : Json) (marks : List Bool) : List Bool :=
      inner (scope.into step subschema) subschema marks
    let leading (count : Nat) (marks : List Bool) : List Bool :=
      (marks.take count).map (fun _ => true) ++ marks.drop count
    let everything (marks : List Bool) : List Bool := marks.map fun _ => true
    let validOnes (step : String) (subschema : Json) (marks : List Bool) : List Bool :=
      (marks.zip items).map fun (mark, item) =>
        mark || (eval (scope.into step subschema) subschema item).isNone
    let marks := match Table.get? schema "items" with
      | some (.arr schemas) => leading schemas.length marks
      | some (.bool false) => marks
      | some _ => everything marks
      | none => marks
    let marks := match Table.get? schema "items", Table.get? schema "additionalItems" with
      | some (.arr _), some (.bool false) => marks
      | some (.arr _), some _ => everything marks
      | _, _ => marks
    let marks := match Table.get? schema "prefixItems" with
      | some (.arr schemas) => leading schemas.length marks
      | _ => marks
    let marks := match Table.get? schema "contains" with
      | some contained => validOnes "contains" contained marks
      | none => marks
    let marks := match Table.get? schema "unevaluatedItems" with
      | some unevaluated => validOnes "unevaluatedItems" unevaluated marks
      | none => marks
    let followed (step : String) (target : Except Failure (Json × Scope)) (marks : List Bool) :
        List Bool :=
      match target with
      | .ok (target, _) => inner (scope.via step scope) target marks
      | .error _ => marks
    let marks := match Table.get? schema "$ref" with
      | some (.str reference) => followed "$ref" (ctx.registry.lookup scope reference) marks
      | _ => marks
    let marks := match Table.get? schema "$dynamicRef" with
      | some (.str reference) =>
        followed "$dynamicRef" (dynamicTarget ctx.registry scope reference) marks
      | _ => marks
    let marks := if Table.contains schema "$recursiveRef" then
        followed "$recursiveRef" (recursiveTarget ctx.registry scope) marks
      else marks
    let marks := match Table.get? schema "if" with
      | some condition =>
        if holds "if" condition then
          let marks := nested "if" condition marks
          ((Table.get? schema "then").map (nested "then" · marks)).getD marks
        else ((Table.get? schema "else").map (nested "else" · marks)).getD marks
      | none => marks
    let fold (schemas : List (String × Json)) (marks : List Bool) : List Bool :=
      schemas.foldl (fun m (step, b) => nested step b m) marks
    let all (key : String) : Bool := (branchesOf schema key).all fun (step, b) => holds step b
    let marks := if all "allOf" then fold (branchesOf schema "allOf") marks else marks
    let marks := if all "anyOf" then fold (branchesOf schema "anyOf") marks else marks
    fold (branchesOf schema "oneOf") marks

/-- The nesting the evaluated-property and evaluated-item rules look through at most. -/
def verdictDepth : Nat := 128

/-! ### One keyword -/

/-- Whether a keyword is present with the value `true`. -/
def flagSet : Option Json → Bool
  | some (.bool true) => true
  | _ => false

/-- The failure of one keyword of a schema object read in a scope, subschemas checked by
`eval`. -/
def keyword (ctx : Context) (eval : Evaluator) (scope : Scope) (schema : List (String × Json))
    (key : String) (argument value : Json) : Option Failure :=
  let sub (step : String) (subschema : Json) (target : Json) : Option Failure :=
    eval (scope.into step subschema) subschema target
  let indexed (schemas : List Json) : List (String × Json) :=
    schemas.zipIdx.map fun (s, index) => (key ++ "/" ++ toString index, s)
  let draft := scope.draft
  match key with
  | "type" => checkType draft value argument
  | "enum" =>
    match argument with
    | .arr options => if options.any (Json.equal value) then none else some (.enumeration value argument)
    | _ => none
  | "const" => if Json.matchesConst argument value then none else some (.constant argument)
  | "minimum" =>
    if draft == .draft4 && flagSet (Table.get? schema "exclusiveMinimum") then
      checkBound value argument (· != .gt) (.exclusiveMinimum value argument)
    else checkBound value argument (· == .lt) (.minimum value argument)
  | "maximum" =>
    if draft == .draft4 && flagSet (Table.get? schema "exclusiveMaximum") then
      checkBound value argument (· != .lt) (.exclusiveMaximum value argument)
    else checkBound value argument (· == .gt) (.maximum value argument)
  | "exclusiveMinimum" => checkBound value argument (· != .gt) (.exclusiveMinimum value argument)
  | "exclusiveMaximum" => checkBound value argument (· != .lt) (.exclusiveMaximum value argument)
  | "multipleOf" => checkMultipleOf value argument
  | "minLength" => checkSize (textLength value) argument (· < ·) (.minLength value)
  | "maxLength" => checkSize (textLength value) argument (· > ·) (.maxLength value)
  | "pattern" =>
    match argument with
    | .str pattern => checkPattern value pattern
    | _ => none
  | "format" => if draft.assertsFormat then checkFormat draft value argument else none
  | "contentMediaType" => checkMediaType schema value argument
  | "contentEncoding" => checkEncoding schema value argument
  | "minItems" => checkSize (itemCount value) argument (· < ·) (.minItems value)
  | "maxItems" => checkSize (itemCount value) argument (· > ·) (.maxItems value)
  | "uniqueItems" =>
    match argument, value with
    | .bool true, .arr items => if hasRepeat items.length items then some (.uniqueItems value) else none
    | _, _ => none
  | "minProperties" => checkSize (memberCount value) argument (· < ·) (.minProperties value)
  | "maxProperties" => checkSize (memberCount value) argument (· > ·) (.maxProperties value)
  | "required" => checkRequired value argument
  | "dependentRequired" => checkDependentRequired value argument
  | "dependencies" => checkDependencies eval scope value argument
  | "properties" =>
    if additionalTakesOver schema then none
    else checkProperties eval scope value (membersOf (some argument))
  | "patternProperties" =>
    if additionalTakesOver schema then none
    else checkPatternProperties eval scope value (membersOf (some argument))
  | "additionalProperties" =>
    match argument with
    | .bool true => none
    | _ => checkAdditional eval scope schema value argument
  | "propertyNames" => checkPropertyNames eval scope value argument
  | "dependentSchemas" =>
    match value with
    | .obj fields =>
      (membersOf (some argument)).findSome? fun (name, dependent) =>
        if Table.contains fields name then sub ("dependentSchemas/" ++ name) dependent value
        else none
    | _ => none
  | "prefixItems" =>
    match value, argument with
    | .arr items, .arr schemas =>
      (items.zip (indexed schemas)).findSome? fun (item, step, itemSchema) => sub step itemSchema item
    | _, _ => none
  | "items" => checkItems eval scope schema value argument
  | "additionalItems" => checkAdditionalItems eval scope schema value argument
  | "contains" => checkContains eval scope schema value argument
  | "allOf" =>
    match argument with
    | .arr schemas => (indexed schemas).findSome? fun (step, s) => sub step s value
    | _ => none
  | "anyOf" =>
    match argument with
    | .arr schemas =>
      if (indexed schemas).any fun (step, branch) => (sub step branch value).isNone then none
        else some (.anyOf value)
    | _ => none
  | "oneOf" =>
    match argument with
    | .arr schemas =>
      match ((indexed schemas).filter fun (step, branch) => (sub step branch value).isNone).length with
      | 0 => some (.oneOfNone value)
      | 1 => none
      | _ => some (.oneOfMany value)
    | _ => none
  | "not" => if (sub "not" argument value).isNone then some (.negation value argument) else none
  | "if" =>
    if (sub "if" argument value).isNone then (Table.get? schema "then").bind (sub "then" · value)
    else (Table.get? schema "else").bind (sub "else" · value)
  | "unevaluatedProperties" =>
    match value with
    | .obj fields =>
      let unexpected := fields.filterMap fun (name, member) =>
        if propertyVerdict ctx eval verdictDepth scope schema value name member == some true then
          none
        else some name
      if unexpected.isEmpty then none else some (.unevaluatedProperties unexpected)
    | _ => none
  | "unevaluatedItems" =>
    match value with
    | .arr items =>
      let marks := markItems ctx eval verdictDepth scope schema value items (items.map fun _ => false)
      let unexpected := (items.zip marks).filterMap fun (item, mark) => if mark then none else some item
      if unexpected.isEmpty then none else some (.unevaluatedItems unexpected)
    | _ => none
  | "$ref" =>
    match argument with
    | .str reference =>
      if ctx.skipped.contains scope.site then none
      else
        match ctx.registry.lookup scope reference with
        | .ok (target, targetScope) => eval (targetScope.via key scope) target value
        | .error _ => none
    | _ => none
  | "$dynamicRef" =>
    match argument with
    | .str reference =>
      if ctx.skipped.contains scope.site then none
      else
        match dynamicTarget ctx.registry scope reference with
        | .ok (target, targetScope) => eval (targetScope.via key scope) target value
        | .error _ => none
    | _ => none
  | "$recursiveRef" =>
    if ctx.skipped.contains scope.site then none
    else
      match recursiveTarget ctx.registry scope with
      | .ok (target, targetScope) => eval (targetScope.via key scope) target value
      | .error _ => none
  | _ => none

/-- The keywords that act without any vocabulary: the references. -/
def coreKeywords : List String := ["$ref", "$dynamicRef", "$recursiveRef"]

/-- The keywords of a schema object read in a scope that act, in order: those its edition
knows; before draft 2019-09 a `$ref` stands alone, and from draft 2019-09 on, without the
vocabularies of those editions in force, only the references act. -/
def actingKeywords (scope : Scope) (schema : List (String × Json)) : List (String × Json) :=
  let draft := scope.draft
  if draft.refOverrides then
    match Table.get? schema "$ref" with
    | some reference => [("$ref", reference)]
    | none => schema.filter fun (key, _) => draft.knows key
  else if scope.vocabularies then schema.filter fun (key, _) => draft.knows key
  else schema.filter fun (key, _) => draft.knows key && coreKeywords.contains key

/-- Checks an instance against a schema read in a scope, entering at most `fuel` nested
subschemas. -/
def evaluate (ctx : Context) : Nat → Evaluator
  | 0 => fun _ _ _ => none
  | fuel + 1 => fun scope schema value =>
    match schema with
    | .bool false => some (.falseSchema value)
    | .obj members =>
      (actingKeywords scope members).findSome? fun (key, argument) =>
        keyword ctx (evaluate ctx fuel) scope members key argument value
    | _ => none

end Recast.JsonSchema
