import Recast.JsonSchema.Validate
import Recast.JsonSchema.Meta.Catalog
/-!
Preparing a schema for use.

A schema is read in the edition its `$schema` names, draft 2020-12 when it names none; an
unknown one refuses it. It is registered under its identity, or `json-schema:///`, and crawled
for the documents it reaches, which refuses malformed references and documents that cannot be
found. Then the meta-schema of its edition must admit it, with `format` asserting for drafts 4,
6 and 7. Last, everything its keywords apply is prepared in the order the keywords are written:
each `pattern` and each name of `patternProperties` must be a valid regular expression (for the
latter the failure shows the subschema the name leads to), and each reference must lead
somewhere, whose target is prepared in turn the first time a reference leads to it. A later
reference to a target already met, whose own reference reads as the same text, is left out of
checking: preparation records the site of the schema that holds it. Subschemas that no keyword
applies (those under `$defs`, or `then` without `if`) are prepared only when a reference leads
to them.
-/

namespace Recast.JsonSchema

/-- The number of nested subschemas evaluation and preparation enter at most. -/
def schemaFuel : Nat := 2048

/-- The registry of the meta-schemas of every edition, as crawling them builds it. Each document
is filed under its URI when the crawl starts and again when its identity is read, the most recent
first; the only anchors are the dynamic anchors `meta` of the draft 2020-12 documents, and every
reference the documents make leads into one of them. -/
def metaRegistry : Registry :=
  let entries := Meta.documents.reverse.map fun (uri, contents, draft) =>
    (uri, (⟨contents, draft⟩ : Resource))
  ⟨entries ++ entries, (entries.filter fun entry => entry.2.draft == .draft202012).map
    fun (uri, resource) => ((uri, "meta"), ⟨resource, true⟩)⟩

/-- The first failure of a schema, seen as an instance, against its edition's meta-schema. -/
def metaFailure (draft : Draft) (schema : Json) : Option Failure :=
  let base := (documentUri draft.metaUri).toOption.getD defaultRoot
  evaluate ⟨metaRegistry, []⟩ schemaFuel ⟨base, draft, [], draft.atLeast .draft201909, []⟩
    (Meta.schemaOf draft)
    schema

/-- The values of a map keyword. -/
def memberSchemas (argument : Json) : List Json :=
  (membersOf (some argument)).map Prod.snd

/-- The failure of a `patternProperties` entry whose name is no regular expression: it shows
the entry's subschema. -/
def patternFault (pattern : String) (subschema : Json) : Option Failure :=
  if Pattern.isValid pattern then none else some (.format subschema "regex")

/-- What preparation has learned so far: the identities of the targets references have led to,
and the sites of the schemas whose reference is left out. -/
structure Preparation where
  seen : List String
  skipped : List (List String)

/-- Preparation: it carries what it has learned and stops at the first fault. -/
abbrev PrepareM := StateT Preparation (Except Failure)

/-- Whether a schema's own reference keyword reads exactly as a reference. -/
def refersAs (schema : Json) (keyword reference : String) : Bool :=
  match schema with
  | .obj fields =>
    match Table.get? fields keyword with
    | some (.str text) => text == reference
    | _ => false
  | _ => false

/-- Prepares a schema read in a scope. A reference leads to its target, prepared in turn, the
first time preparation meets that target's identity; a later reference to it is followed only
when checking, and is left out altogether when the target's own reference of that keyword reads
as the same text, since following it would only come back to the target. -/
def prepare (ctx : Context) : Nat → Scope → Json → PrepareM Unit
  | 0, _, _ => pure ()
  | fuel + 1, scope, .obj members =>
    let sub (step : String) (schema : Json) : PrepareM Unit :=
      prepare ctx fuel (scope.into step schema) schema
    let each (steps : List (String × Json)) : PrepareM Unit :=
      steps.forM fun (step, schema) => sub step schema
    let named (key : String) (argument : Json) : List (String × Json) :=
      (membersOf (some argument)).map fun (name, schema) => (key ++ "/" ++ name, schema)
    let patterns (argument : Json) : PrepareM Unit :=
      (membersOf (some argument)).forM fun (pattern, schema) =>
        match patternFault pattern schema with
        | some fault => throw fault
        | none => sub ("patternProperties/" ++ pattern) schema
    let follow (keyword reference : String) : PrepareM Unit := do
      let (target, targetScope) ← StateT.lift (ctx.registry.lookup scope reference)
      let uri := Registry.referenceKey scope reference
      let state ← get
      if state.seen.contains uri then
        if refersAs target keyword reference then
          set { state with skipped := scope.site :: state.skipped }
      else
        set { state with seen := uri :: state.seen }
        prepare ctx fuel (targetScope.via keyword scope) target
    (actingKeywords scope members).forM fun (key, argument) =>
      match key, argument with
      | "pattern", .str pattern =>
        if Pattern.isValid pattern then pure () else throw (.format argument "regex")
      | "patternProperties", _ =>
        if additionalTakesOver members then pure () else patterns argument
      | "properties", _ =>
        if additionalTakesOver members then pure () else each (named "properties" argument)
      | "additionalProperties", _ =>
        if additionalTakesOver members then do
          ((Table.get? members "patternProperties").elim (pure ()) patterns : PrepareM Unit)
          each (((Table.get? members "properties").map (named "properties")).getD [])
          if argument.isObject then sub key argument
        else pure ()
      | "additionalItems", _ =>
        match Table.get? members "items" with
        | some (.arr _) => if argument.isObject then sub key argument else pure ()
        | _ => pure ()
      | "items", .arr _ => each (branchesOf members key)
      | "items", .bool true => pure ()
      | "items", _ => sub key argument
      | "prefixItems", .arr _ | "allOf", .arr _ | "anyOf", .arr _ | "oneOf", .arr _ =>
        each (branchesOf members key)
      | "contains", _ | "propertyNames", _ | "not", _ => sub key argument
      | "if", _ => do
        sub key argument
        ((Table.get? members "then").elim (pure ()) (sub "then") : PrepareM Unit)
        ((Table.get? members "else").elim (pure ()) (sub "else") : PrepareM Unit)
      | "dependencies", _ =>
        (named key argument).forM fun (step, dependency) =>
          if dependency.isArray then pure () else sub step dependency
      | "dependentSchemas", _ => each (named key argument)
      | "unevaluatedProperties", _ => do
        sub key argument
        ((Table.get? members "patternProperties").elim (pure ()) patterns : PrepareM Unit)
        match Table.get? members "$ref" with
        | some (.str reference) =>
          match ctx.registry.lookup scope reference with
          | .error fault => throw fault
          | .ok _ => pure ()
        | _ => pure ()
      | "unevaluatedItems", _ => sub key argument
      | "$ref", .str reference => follow key reference
      | "$dynamicRef", .str reference => follow key reference
      | "$recursiveRef", _ => follow key "#"
      | _, _ => pure ()
  | _ + 1, _, _ => pure ()

/-- A schema that has been prepared for checking instances. -/
structure Validator where
  schema : Json
  context : Context
  scope : Scope

namespace Validator

/-- Prepares a schema: the first fault of its edition, its registration, the meta-schema, or
its preparation. -/
def compile (schema : Json) : Except Failure Validator := do
  let draft ← Draft.detectResource .draft202012 schema
  let base ← documentUri ((draft.idOf schema).getD "json-schema:///")
  let root : Resource := ⟨schema, draft⟩
  let registry ← Registry.crawl metaRegistry [(base, root)]
  match metaFailure draft schema with
  | some failure => throw failure
  | none =>
    let scope ← Scope.inSubresource ⟨base, draft, [], draft.atLeast .draft201909, []⟩ root
    let ((), learned) ← prepare ⟨registry, []⟩ schemaFuel scope schema ⟨[], []⟩
    pure ⟨schema, ⟨registry, learned.skipped⟩, scope⟩

/-- The first failure of an instance against a prepared schema. -/
def check (validator : Validator) (value : Json) : Option Failure :=
  evaluate validator.context schemaFuel validator.scope validator.schema value

/-- Whether a prepared schema admits an instance. -/
def admits (validator : Validator) (value : Json) : Bool :=
  (validator.check value).isNone

end Validator

end Recast.JsonSchema
