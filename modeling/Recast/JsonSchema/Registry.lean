import Recast.JsonSchema.Draft
import Recast.JsonSchema.Failure
/-!
The documents references can reach, and how a reference finds its target.

A registry holds schema resources by URI, and anchors by the URI of the resource that declares
them and their name. It is filled by a crawl: starting from a document and its URI, each schema
that an edition counts as a subresource is visited breadth first; one that carries an identity
(`$id`, or `id` in draft 4) is registered under that identity resolved against its parent's,
and the anchors it declares are registered under it. A later registration of the same key wins.
The `$ref` and `$schema` of every visited schema are resolved on the way, so a malformed
reference is refused at once; once the crawl is done, a reference to a document that is still
unknown has to be retrieved, which fails here with the reason its scheme gives. References to
the published meta-schemas are left to those, which every registry knows.

A reference is looked up against a scope, the URI of the schema it stands in. The part before
the last `#` names a resource; a fragment that starts with `/` is a JSON pointer into it, which
is percent-decoded first, whose tokens are unescaped (`~1` is `/`, `~0` is `~`, and a tilde
keeps any other character after it) and whose tokens into arrays are decimal indices; any other
non-empty fragment names an anchor. Walking a pointer through subschemas with identities moves
the scope as the crawl did.
-/

namespace Recast.JsonSchema

/-- A schema together with the edition it is read in. -/
structure Resource where
  contents : Json
  draft : Draft
  deriving Inhabited

/-- Where a schema is read: the URI of the resource it belongs to, its edition, the URIs of
the resources that references passed through on the way, innermost first, whether the
vocabularies of draft 2019-09 and later are in force, and its site. Those vocabularies are set
where reading starts, by the root schema or the target of a reference: an edition from 2019-09
on brings them, an earlier one brings none, and a subschema that names a later edition than the
one that set them keeps only the core keywords. The site is the way from the root schema to this
one, the last step first: each step names the keyword entered, with the property name or the
position for keywords that hold several subschemas, and a reference followed is a step too. -/
structure Scope where
  base : UriRef
  draft : Draft
  trail : List UriRef
  vocabularies : Bool
  site : List String
  deriving Inhabited

/-- An anchor: the resource it marks, and whether it is a dynamic anchor. -/
structure Anchor where
  resource : Resource
  dynamic : Bool
  deriving Inhabited

/-- Resources by URI text and anchors by URI text and name, the most recent first. -/
structure Registry where
  resources : List (String × Resource)
  anchors : List ((String × String) × Anchor)
  deriving Inhabited

/-- The URI of a schema that does not name one. -/
def defaultRoot : UriRef :=
  { scheme := some "json-schema", authority := some "", path := "/", query := none,
    fragment := none }

/-- Resolves reference text against a base, in normal form. -/
def resolveAgainst (base : UriRef) (reference : String) : Except Failure UriRef :=
  match Uri.parse reference with
  | .error fault => .error (.invalidUriReference reference fault)
  | .ok relative =>
    match Uri.resolve base relative with
    | .error fault => .error (.unresolvable reference base.text fault)
    | .ok uri => .ok uri.normalize

/-- The URI a document's identity stands for: without the `#` marks that end it, an absolute
URI as it is, and anything else resolved against `json-schema:///`. -/
def documentUri (identity : String) : Except Failure UriRef :=
  let trimmed := Draft.trimFragmentMarks identity
  match Uri.parseAbsolute trimmed with
  | .ok uri => .ok uri.normalize
  | .error _ => resolveAgainst defaultRoot trimmed

namespace Draft

/-- The identity a schema declares in an edition, as written. Before draft 2019-09 an identity
beside `$ref` is ignored, and one that starts with `#` is an anchor instead. -/
def writtenId (draft : Draft) (schema : Json) : Option String :=
  match schema with
  | .obj fields =>
    match draft with
    | .draft201909 | .draft202012 => (Table.get? fields "$id").bind Json.str?
    | _ =>
      if Table.contains fields "$ref" then none
      else
        match (Table.get? fields draft.idKeyword).bind Json.str? with
        | some id => if id.startsWith "#" then none else some id
        | none => none
  | _ => none

/-- The identity a schema declares in an edition, without the empty fragments it ends with. -/
def idOf (draft : Draft) (schema : Json) : Option String :=
  (draft.writtenId schema).map trimFragmentMarks

/-- The anchors a schema declares in an edition, with whether each is dynamic. -/
def anchorsOf (draft : Draft) (schema : Json) : List (String × Bool) :=
  match schema with
  | .obj fields =>
    match draft with
    | .draft202012 =>
      (((Table.get? fields "$anchor").bind Json.str?).map fun name => (name, false)).toList ++
        (((Table.get? fields "$dynamicAnchor").bind Json.str?).map fun name => (name, true)).toList
    | .draft201909 => (((Table.get? fields "$anchor").bind Json.str?).map fun name => (name, false)).toList
    | _ =>
      match (Table.get? fields draft.idKeyword).bind Json.str? with
      | some id => if id.startsWith "#" then [(id.drop 1 |>.toString, false)] else []
      | none => []
  | _ => []

/-- The edition a subschema is read in: the one its `$schema` names, else its parent's. -/
def detectResource (draft : Draft) (schema : Json) : Except Failure Draft :=
  match draft.detect schema with
  | .ok found => .ok found
  | .error uri => .error (.unknownSpecification uri)

/-- Keywords whose value is itself a subresource, for pointer walks. -/
def pointerValueKeywords : Draft → List String
  | .draft4 => ["additionalItems", "additionalProperties", "not"]
  | .draft6 => ["additionalItems", "additionalProperties", "contains", "not", "propertyNames"]
  | .draft7 => ["additionalItems", "additionalProperties", "contains", "else", "if", "not",
      "propertyNames", "then"]
  | .draft201909 => ["additionalItems", "additionalProperties", "contentSchema", "contains",
      "else", "if", "not", "propertyNames", "then", "unevaluatedItems", "unevaluatedProperties"]
  | .draft202012 => ["additionalProperties", "contains", "contentSchema", "else", "if", "items",
      "not", "propertyNames", "then", "unevaluatedItems", "unevaluatedProperties"]

/-- Keywords whose members are subresources, for pointer walks. -/
def pointerChildKeywords : Draft → List String
  | .draft4 | .draft6 | .draft7 => ["allOf", "anyOf", "oneOf", "definitions", "patternProperties",
      "properties"]
  | .draft201909 => ["allOf", "anyOf", "oneOf", "$defs", "definitions", "dependentSchemas",
      "patternProperties", "properties"]
  | .draft202012 => ["allOf", "anyOf", "oneOf", "prefixItems", "$defs", "definitions",
      "dependentSchemas", "patternProperties", "properties"]

/-- Whether the keys walked since the last subresource lead to a subresource: each key is a
keyword whose value is one, or a keyword with members followed by the member's key. Before
draft 2020-12, `items` and `dependencies` lead into one whenever the value reached is an
object. Indices into arrays are passed over. -/
def leadsToSubresource (draft : Draft) (reached : Json) : List (Option String) → Bool
  | [] => true
  | none :: rest => leadsToSubresource draft reached rest
  | some key :: rest =>
    if draft != .draft202012 && (key == "items" || key == "dependencies") && reached.isObject then
      true
    else if (draft.pointerValueKeywords).contains key then leadsToSubresource draft reached rest
    else if (draft.pointerChildKeywords).contains key then
      match rest with
      | [] => false
      | _ :: more => leadsToSubresource draft reached more
    else false

end Draft

namespace Scope

/-- The scope of a resource reached by a reference: the current base joins the trail unless it
is empty, or the trail is not empty and the base stays. -/
def evolve (scope : Scope) (uri : UriRef) : Scope :=
  if !scope.base.text.isEmpty && (scope.trail.isEmpty || uri != scope.base) then
    { scope with base := uri, trail := scope.base :: scope.trail }
  else { scope with base := uri }

/-- The scope inside a subresource: its identity, if it declares one, resolved against the
base. -/
def inSubresource (scope : Scope) (resource : Resource) : Except Failure Scope :=
  match resource.draft.idOf resource.contents with
  | some id => do
    let base ← resolveAgainst scope.base id
    pure { scope with base, draft := resource.draft }
  | none => pure { scope with draft := resource.draft }

/-- The scope a subschema is read in: its own edition, or the parent's, or draft 2020-12 when it
names an unknown one; and its identity, when one resolves. -/
def enter (scope : Scope) (schema : Json) : Scope :=
  let draft := (scope.draft.detect schema).toOption.getD .draft202012
  match inSubresource scope ⟨schema, draft⟩ with
  | .ok inner => inner
  | .error _ => { scope with draft }

/-- The scope of a subschema reached by a step from the schema read in `scope`. -/
def into (scope : Scope) (step : String) (schema : Json) : Scope :=
  { scope.enter schema with site := step :: scope.site }

/-- The scope a reference's target is read in, as lookup gives it, reached from the schema read
in `origin` by the reference keyword `step`. -/
def via (target : Scope) (step : String) (origin : Scope) : Scope :=
  { target with site := step :: origin.site }

end Scope

/-- Why a document that a reference names cannot be read: only schemes with a reader are tried,
and none of their documents exist. -/
def retrievalReason (uri : UriRef) : String :=
  match uri.scheme with
  | some "http" | some "https" =>
    let shown := if uri.authority.isSome && uri.path.isEmpty then { uri with path := "/" } else uri
    "error sending request for url (" ++ shown.text ++ ")"
  | some "file" => "No such file or directory (os error 2)"
  | some scheme => "Unknown scheme " ++ scheme
  | none => "Unknown scheme "

namespace Registry

/-- The empty registry. -/
def empty : Registry := ⟨[], []⟩

/-- The resource registered under a URI. -/
def resource? (registry : Registry) (uri : UriRef) : Option Resource :=
  registry.resources.lookup uri.text

/-- Registers a resource. -/
def addResource (registry : Registry) (uri : UriRef) (resource : Resource) : Registry :=
  { registry with resources := (uri.text, resource) :: registry.resources }

/-- Registers an anchor. -/
def addAnchor (registry : Registry) (uri : UriRef) (name : String) (anchor : Anchor) :
    Registry :=
  { registry with anchors := ((uri.text, name), anchor) :: registry.anchors }

/-- The anchor a name finds in a resource: registered under the resource's URI, or under the
identity the resource declares. -/
def anchor (registry : Registry) (uri : UriRef) (name : String) : Except Failure Anchor :=
  match registry.anchors.lookup (uri.text, name) with
  | some found => .ok found
  | none =>
    let byIdentity : Except Failure (Option Anchor) :=
      match (registry.resource? uri).bind fun resource => resource.draft.idOf resource.contents with
      | some id => do
        let other ← documentUri id
        pure (registry.anchors.lookup (other.text, name))
      | none => pure none
    match byIdentity with
    | .error failure => .error failure
    | .ok (some found) => .ok found
    | .ok none => .error (if name.contains '/' then .invalidAnchor name else .noSuchAnchor name)

/-! ### Crawling -/

/-- What a crawl carries: the registry so far, the references seen (by base and text), and the
documents still to be found, in the order they were first named. -/
structure Crawl where
  registry : Registry
  seen : List (String × String)
  wanted : List UriRef

/-- Notes one reference made in a schema whose URI is `base`. -/
def Crawl.note (crawl : Crawl) (base : UriRef) (reference : String) : Except Failure Crawl :=
  if reference.startsWith "https://json-schema.org/draft/" ||
      reference.startsWith "http://json-schema.org/draft-" ||
      base.text.startsWith "https://json-schema.org/draft/" || reference == "#" ||
      crawl.seen.contains (base.text, reference) then
    .ok crawl
  else do
    let resolved ← resolveAgainst base reference
    let wanted := if crawl.wanted.contains resolved then crawl.wanted else crawl.wanted ++ [resolved]
    pure { crawl with seen := (base.text, reference) :: crawl.seen, wanted }

/-- The references of a schema that name other documents: `$ref` and `$schema`, in the order
they are written when the schema has fewer than three keywords, else `$ref` first. -/
def referencesOf (schema : Json) : List String :=
  match schema with
  | .obj fields =>
    if fields.length < 3 then
      fields.filterMap fun (key, value) =>
        if key == "$ref" || key == "$schema" then value.str? else none
    else
      ((Table.get? fields "$ref").bind Json.str?).toList ++
        ((Table.get? fields "$schema").bind Json.str?).toList
  | _ => []

/-- Visits one resource: registers its identity and anchors, notes its references, and returns
its subresources with the URI they stand under. -/
def Crawl.visit (crawl : Crawl) (base : UriRef) (resource : Resource) :
    Except Failure (Crawl × List (UriRef × Resource)) := do
  let (base, registry) ← match resource.draft.idOf resource.contents with
    | some id => do
      let uri ← resolveAgainst base id
      pure (uri, crawl.registry.addResource uri resource)
    | none => pure (base, crawl.registry)
  let registry := (resource.draft.anchorsOf resource.contents).foldl
    (fun registry (name, dynamic) => registry.addAnchor base name ⟨resource, dynamic⟩) registry
  let crawl ← (referencesOf resource.contents).foldlM (fun crawl reference => crawl.note base reference)
    { crawl with registry }
  let children ← (resource.draft.subschemas resource.contents).mapM fun schema => do
    let draft ← resource.draft.detectResource schema
    pure (base, (⟨schema, draft⟩ : Resource))
  pure (crawl, children)

mutual

/-- The values a JSON value holds, itself included. Every resource a crawl visits is one of them,
so their number bounds the visits of a crawl. -/
def nodeCount : Json → Nat
  | .arr items => itemsNodeCount items + 1
  | .obj fields => fieldsNodeCount fields + 1
  | _ => 1

def itemsNodeCount : List Json → Nat
  | [] => 0
  | item :: rest => nodeCount item + itemsNodeCount rest

def fieldsNodeCount : List (String × Json) → Nat
  | [] => 0
  | (_, value) :: rest => nodeCount value + fieldsNodeCount rest

end

/-- Visits queued resources breadth first, at most `fuel` of them. -/
def Crawl.run : Nat → Crawl → List (UriRef × Resource) → Except Failure Crawl
  | 0, crawl, _ => .ok crawl
  | _ + 1, crawl, [] => .ok crawl
  | fuel + 1, crawl, (base, resource) :: queue => do
    let (crawl, children) ← crawl.visit base resource
    Crawl.run fuel crawl (queue ++ children)

/-- Registers documents and everything they hold. A document that a reference names and that is
neither among them nor already known cannot be retrieved. -/
def crawl (known : Registry) (documents : List (UriRef × Resource)) : Except Failure Registry := do
  let start := documents.foldl (fun registry (uri, resource) => registry.addResource uri resource)
    known
  let fuel := documents.foldl (fun total (_, resource) => total + nodeCount resource.contents) 1
  let done ← Crawl.run fuel ⟨start, [], []⟩ documents
  match done.wanted.find? fun uri => (done.registry.resource? uri.withoutFragment).isNone with
  | some missing =>
    .error (.unretrievable missing.withoutFragment.text (retrievalReason missing.withoutFragment))
  | none => .ok done.registry

/-! ### Looking up -/

/-- The bytes of `%HH` escapes, and of every other character as UTF-8. -/
def percentBytes : List Char → List UInt8
  | '%' :: a :: b :: rest =>
    match Uri.hexDigit? a, Uri.hexDigit? b with
    | some high, some low => (high * 16 + low).toUInt8 :: percentBytes rest
    | _, _ => '%'.toUInt8 :: percentBytes (a :: b :: rest)
  | c :: rest => (String.singleton c).toUTF8.toList ++ percentBytes rest
  | [] => []

/-- Decodes the percent escapes of a text, when the bytes they give are UTF-8. -/
def percentDecode (text : String) : Option String :=
  String.fromUTF8? ⟨(percentBytes text.toList).toArray⟩

/-- Unescapes one pointer token: `~1` is `/`, `~0` is `~`, and a tilde before any other
character keeps both, so the character after it starts no escape. -/
def unescapeToken : List Char → List Char
  | '~' :: '1' :: rest => '/' :: unescapeToken rest
  | '~' :: '0' :: rest => '~' :: unescapeToken rest
  | '~' :: c :: rest => '~' :: c :: unescapeToken rest
  | c :: rest => c :: unescapeToken rest
  | [] => []

/-- An array index: decimal digits after an optional `+`, below 2^64. -/
def arrayIndex? (token : String) : Option Nat :=
  let digits := match token.toList with
    | '+' :: rest => rest
    | chars => chars
  if !digits.isEmpty && digits.all Char.isDigit then
    let value := digits.foldl (fun acc d => acc * 10 + (d.toNat - '0'.toNat)) 0
    if value < Nat.pow 2 64 then some value else none
  else none

/-- Follows pointer tokens from a resource's root, moving the scope at each subresource with an
identity. `walked` holds the keys passed since the scope last moved. -/
def walkPointer (pointer : String) (draft : Draft) :
    List String → List (Option String) → Json → Scope → Except Failure (Json × Scope)
  | [], _, here, scope => .ok (here, scope)
  | token :: rest, walked, here, scope => do
    let (next, step) ← match here with
      | .arr items =>
        match arrayIndex? token with
        | none => .error (.invalidArrayIndex pointer token)
        | some index =>
          match items[index]? with
          | some item => pure (item, none)
          | none => .error (.pointerToNowhere pointer)
      | .obj fields =>
        let key := String.ofList (unescapeToken token.toList)
        match Table.get? fields key with
        | some member => pure (member, some key)
        | none => .error (.pointerToNowhere pointer)
      | _ => .error (.pointerToNowhere pointer)
    let walked := walked ++ [step]
    let moved ← if draft.leadsToSubresource next walked then
        scope.inSubresource ⟨next, draft⟩
      else pure scope
    let walked := if moved.base != scope.base then [] else walked
    walkPointer pointer draft rest walked next { moved with draft }

/-- Where a reference made in a scope leads: the subschema and the scope it is read in. -/
def locate (registry : Registry) (scope : Scope) (reference : String) :
    Except Failure (Json × Scope) := do
  let (uri, fragment) ← match reference.toList with
    | '#' :: rest => pure (scope.base, String.ofList rest)
    | chars =>
      match chars.reverse.findIdx? (· == '#') with
      | some fromEnd =>
        let uri ← resolveAgainst scope.base (String.ofList (chars.take (chars.length - fromEnd - 1)))
        pure (uri, String.ofList (chars.drop (chars.length - fromEnd)))
      | none => do
        let uri ← resolveAgainst scope.base reference
        pure (uri, "")
  match registry.resource? uri with
  | none =>
    .error (.unretrievable uri.text
      "Retrieving external resources is not supported once the registry is populated")
  | some resource =>
    let scope := { scope.evolve uri with draft := resource.draft }
    if fragment.startsWith "/" then
      match percentDecode (fragment.drop 1).toString with
      | none => .error (.invalidPercentEncoding fragment)
      | some decoded =>
        walkPointer fragment resource.draft ((Uri.splitChars '/' decoded.toList).map String.ofList) []
          resource.contents scope
    else if !fragment.isEmpty then do
      let found ← registry.anchor uri fragment
      let inner ← scope.inSubresource found.resource
      pure (found.resource.contents, inner)
    else pure (resource.contents, scope)

/-- The URI a reference names from a scope, fragment included; the text itself when it does not
resolve. -/
def referenceKey (scope : Scope) (reference : String) : String :=
  match resolveAgainst scope.base reference with
  | .ok uri => uri.text
  | .error _ => reference

/-- Where a reference leads from a scope, as `locate` finds it, with the vocabularies that the
target's edition brings. -/
def lookup (registry : Registry) (scope : Scope) (reference : String) :
    Except Failure (Json × Scope) := do
  let (target, inner) ← registry.locate scope reference
  let draft := (inner.draft.detect target).toOption.getD inner.draft
  pure (target, { inner with vocabularies := draft.atLeast .draft201909 })

end Registry

end Recast.JsonSchema
