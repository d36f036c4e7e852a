import Recast.JsonSchema.Draft
import Recast.JsonSchema.Meta.Legacy
import Recast.JsonSchema.Meta.Draft201909
import Recast.JsonSchema.Meta.Draft202012
/-!
The meta-schemas of every edition, as documents a registry holds from the start.

Each document is filed under its URI without fragment, with the edition that reads it. An
edition's meta-schema is the document a schema of that edition is checked against before use.
-/

namespace Recast.JsonSchema

namespace Meta

/-- Every meta-schema document: its URI, its contents and the edition that reads it. -/
def documents : List (String × Json × Draft) :=
  [(Draft.draft4.metaUri, draft4, .draft4), (Draft.draft6.metaUri, draft6, .draft6),
    (Draft.draft7.metaUri, draft7, .draft7)] ++
    Draft201909.documents.map (fun (uri, doc) => (uri, doc, .draft201909)) ++
    Draft202012.documents.map (fun (uri, doc) => (uri, doc, .draft202012))

/-- The meta-schema of an edition. -/
def schemaOf : Draft → Json
  | .draft4 => draft4
  | .draft6 => draft6
  | .draft7 => draft7
  | .draft201909 => Draft201909.root
  | .draft202012 => Draft202012.root

end Meta

end Recast.JsonSchema
