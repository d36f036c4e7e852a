import Recast.Path.Basic
import Recast.Schema.Assumption
/-!
Walking a relation path through a model, and how far it fans out.

A hop can be walked when the class it arrives at from the relation's side exists, the holder
class declares the relation, and the relation points at that class. The path's multiplicity
says whether one source may reach several targets (`target`) and whether one target may be
reached from several sources (`origin`): an active hop fans out forwards when its relation
allows several targets and backwards when it allows several origins, a passive hop the other
way round, and a path fans out in a direction when any of its hops does.
-/

namespace Recast

namespace Hop

/-- The relation a hop follows, checked against the model: the class it points at, the holder
and the relation must exist, and the relation must point at that class. -/
def relation (hop : Hop) (pack : SchemaPack) : Except AssumptionError RelationSpec := do
  let _ ← pack.requireClass hop.referenced
  let spec ← pack.requireRelation hop.holder hop.property
  if spec.targetClass ≠ hop.referenced then
    throw (.targetClassMismatch hop.holder hop.property hop.referenced spec.targetClass)
  pure spec

/-- A hop is walked alike in two packs with the same classes that give its holder the same
answer for its relation. -/
theorem relation_congr {hop : Hop} {pack other : SchemaPack}
    (classes : ∀ name, (other.cls? name).isSome = (pack.cls? name).isSome)
    (declared : other.requireRelation hop.holder hop.property =
      pack.requireRelation hop.holder hop.property) :
    hop.relation other = hop.relation pack := by
  simp only [relation, declared]
  exact SchemaPack.requireClass_bind_congr (classes hop.referenced) _

/-- A hop that can be walked follows a relation its holder declares. -/
theorem requireRelation_of_relation_eq_ok {hop : Hop} {pack : SchemaPack} {spec : RelationSpec}
    (walked : hop.relation pack = .ok spec) :
    pack.requireRelation hop.holder hop.property = .ok spec := by
  simp only [relation] at walked
  cases present : pack.requireClass hop.referenced with
  | error problem => simp [present, bind, Except.bind] at walked
  | ok found =>
    cases declared : pack.requireRelation hop.holder hop.property with
    | error problem => simp [present, declared, bind, Except.bind] at walked
    | ok result =>
      simp only [present, declared, bind, Except.bind] at walked
      split at walked
      · simp [throw, throwThe, MonadExceptOf.throw] at walked
      · simp only [pure, Except.pure, Except.ok.injEq] at walked
        rw [walked]

/-- How a hop over a relation fans out: `target` forwards, `origin` backwards. -/
def fans (hop : Hop) (spec : RelationSpec) : Sides :=
  match hop.direction with
  | .active => spec.multiple
  | .passive => ⟨spec.multiple.target, spec.multiple.origin⟩

end Hop

/-- Either flag of either pair. -/
def Sides.join (left right : Sides) : Sides :=
  ⟨left.origin || right.origin, left.target || right.target⟩

namespace RelationPath

/-- Joins the fans of hops, stopping at the first hop that cannot be walked. -/
def fansFrom (pack : SchemaPack) (sofar : Sides) : List Hop → Except AssumptionError Sides
  | [] => .ok sofar
  | hop :: rest => do
    let spec ← hop.relation pack
    fansFrom pack (sofar.join (hop.fans spec)) rest

theorem fansFrom_congr {pack other : SchemaPack} (sofar : Sides) {hops : List Hop}
    (walked : ∀ hop ∈ hops, hop.relation other = hop.relation pack) :
    fansFrom other sofar hops = fansFrom pack sofar hops := by
  induction hops generalizing sofar with
  | nil => rfl
  | cons hop rest inductionHypothesis =>
    simp only [fansFrom, walked hop (List.mem_cons_self ..)]
    congr 1
    funext spec
    exact inductionHypothesis _ fun later member => walked later (List.mem_cons_of_mem _ member)

/-- When the hops can be walked, each of them can. -/
theorem relation_of_fansFrom_eq_ok {pack : SchemaPack} {sofar fans : Sides} {hops : List Hop}
    (walked : fansFrom pack sofar hops = .ok fans) :
    ∀ hop ∈ hops, ∃ spec, hop.relation pack = .ok spec := by
  induction hops generalizing sofar with
  | nil => simp
  | cons hop rest inductionHypothesis =>
    intro each member
    cases step : hop.relation pack with
    | error problem => simp [fansFrom, step, bind, Except.bind] at walked
    | ok spec =>
      simp only [fansFrom, step, bind, Except.bind] at walked
      rcases List.mem_cons.mp member with same | later
      · exact ⟨spec, same ▸ step⟩
      · exact inductionHypothesis walked each later

/-- How far a path fans out in the model, or why it cannot be walked. -/
def multiplicity (path : RelationPath) (pack : SchemaPack) : Except AssumptionError Sides :=
  fansFrom pack Sides.none path.elements

end RelationPath

namespace SchemaPack

/-- Checks that a path starts at an existing class and can be walked, and gives its
multiplicity. -/
def checkPathFrom (pack : SchemaPack) (cls : String) (path : RelationPath) :
    Except AssumptionError Sides := do
  let _ ← pack.requireClass cls
  if path.source ≠ cls then throw (.pathSourceMismatch path.canonical path.source cls)
  path.multiplicity pack

/-- A path is checked alike in two packs with the same classes where each of its hops is
walked alike. -/
theorem checkPathFrom_congr {pack other : SchemaPack} {cls : String} {path : RelationPath}
    (classes : ∀ name, (other.cls? name).isSome = (pack.cls? name).isSome)
    (walked : ∀ hop ∈ path.elements, hop.relation other = hop.relation pack) :
    other.checkPathFrom cls path = pack.checkPathFrom cls path := by
  simp only [checkPathFrom, RelationPath.multiplicity,
    RelationPath.fansFrom_congr Sides.none walked]
  exact requireClass_bind_congr (classes cls) _

/-- A path checked from a class of the model starts at it and can be walked, with the
multiplicity given. -/
theorem checkPathFrom_eq_ok {pack : SchemaPack} {cls : String} {path : RelationPath} {fans : Sides}
    (checked : pack.checkPathFrom cls path = .ok fans) :
    (∃ found, pack.cls? cls = some found) ∧ path.source = cls ∧
      path.multiplicity pack = .ok fans := by
  simp only [checkPathFrom] at checked
  cases present : pack.cls? cls with
  | none => simp [requireClass, present, bind, Except.bind] at checked
  | some found =>
    simp only [requireClass_of_cls? present, bind, Except.bind] at checked
    split at checked
    · simp [throw, throwThe, MonadExceptOf.throw] at checked
    · next starts => exact ⟨⟨found, rfl⟩, Decidable.of_not_not starts, checked⟩

theorem multiplicity_of_checkPathFrom_eq_ok {pack : SchemaPack} {cls : String}
    {path : RelationPath} {fans : Sides} (checked : pack.checkPathFrom cls path = .ok fans) :
    path.multiplicity pack = .ok fans :=
  (checkPathFrom_eq_ok checked).2.2

end SchemaPack

end Recast
