import Recast.Proofs.Path.Resolution
import Recast.Proofs.Path.Syntax
import Recast.Proofs.Table
/-!
Walking a path the other way.

A path walked backwards takes its hops in reverse order, each turned around: the active hop
`S(r)>T` becomes the passive hop `T<(r)S` and the passive hop `S<(r)T` becomes the active hop
`T(r)>S`. A hop turned around follows the same relation of the same holder, so it reaches an id
from exactly the ids the hop reaches it from. Forwards a resource is found by its id, backwards it
is found as a member of its class, and the two agree when the ids of a class are distinct, as in
every data pack (its classes are tables read from JSON objects). Through a whole path, one hop
after the other, what the path resolves from one id to another its reverse resolves back
(`mem_resolve_reverse`), in any data pack, valid or not.

The relation a hop follows and the class it is checked against do not change either, only which
flag of the relation counts forwards. A path can be walked in a model when each of its hops can,
and it fans out on a side when one of its hops does (`fansFrom_eq_ok_iff`); so the reverse can be
walked exactly when the path can, and it fans out backwards where the path fans out forwards
(`multiplicity_reverse`).
-/

namespace Recast

/-! ### Hops turned around -/

namespace Hop

variable {hop : Hop}

@[simp]
theorem holder_reverse (hop : Hop) : hop.reverse.holder = hop.holder := by
  cases direction : hop.direction <;> simp [holder, reverse, direction]

@[simp]
theorem referenced_reverse (hop : Hop) : hop.reverse.referenced = hop.referenced := by
  cases direction : hop.direction <;> simp [referenced, reverse, direction]

/-- A hop turned around is checked against a model exactly as the hop is. -/
@[simp]
theorem relation_reverse (hop : Hop) (pack : SchemaPack) :
    hop.reverse.relation pack = hop.relation pack := by
  simp only [relation, holder_reverse, referenced_reverse]
  rfl

/-- A hop turned around fans out forwards where the hop fans out backwards. -/
theorem fans_reverse (hop : Hop) (spec : RelationSpec) :
    hop.reverse.fans spec = ⟨(hop.fans spec).target, (hop.fans spec).origin⟩ := by
  cases direction : hop.direction <;> simp [fans, reverse, direction]

end Hop

/-- In a class whose ids are distinct, the resource found by an id is the member with that id. -/
theorem DataPack.resource?_eq_some_iff {data : DataPack} {cls id : String} {resource : Resource}
    (distinct : (Table.keys (data.classResources cls)).Nodup) :
    data.resource? cls id = some resource ↔ (id, resource) ∈ data.classResources cls := by
  refine ⟨DataPack.mem_classResources_of_resource?, fun member => ?_⟩
  have found := Table.get?_of_mem distinct member
  cases listed : data.classResources? cls with
  | none => simp [DataPack.classResources, listed] at member
  | some resources =>
    simpa [DataPack.resource?, listed, DataPack.classResources] using found

namespace Hop

variable {data : DataPack} {hop : Hop}

/-- A hop turned around reaches an id from exactly the ids the hop reaches it from, when the ids
of the class holding the relation are distinct: the member of the source class with the id is then
the resource the id finds. -/
theorem reaches_reverse (distinct : (Table.keys (data.classResources hop.holder)).Nodup)
    {id target : String} : hop.reverse.Reaches data target id ↔ hop.Reaches data id target := by
  cases direction : hop.direction with
  | active =>
    rw [holder_of_active direction] at distinct
    have backwards : hop.reverse.direction = .passive := by simp [reverse, direction]
    rw [reaches_of_passive backwards, reaches_of_active direction]
    constructor
    · rintro ⟨⟨key, resource⟩, member, rfl, listed⟩
      exact ⟨resource, (DataPack.resource?_eq_some_iff distinct).mpr member, listed⟩
    · rintro ⟨resource, found, listed⟩
      exact ⟨(id, resource), (DataPack.resource?_eq_some_iff distinct).mp found, rfl, listed⟩
  | passive =>
    rw [holder_of_passive direction] at distinct
    have forwards : hop.reverse.direction = .active := by simp [reverse, direction]
    rw [reaches_of_active forwards, reaches_of_passive direction]
    constructor
    · rintro ⟨resource, found, listed⟩
      exact ⟨(target, resource), (DataPack.resource?_eq_some_iff distinct).mp found, rfl, listed⟩
    · rintro ⟨⟨key, resource⟩, member, rfl, listed⟩
      exact ⟨resource, (DataPack.resource?_eq_some_iff distinct).mpr member, listed⟩

end Hop

/-! ### Paths walked backwards -/

namespace ReachesAlong

variable {data : DataPack}

theorem append (first second : List Hop) (id target : String) :
    ReachesAlong data (first ++ second) id target ↔
      ∃ middle, ReachesAlong data first id middle ∧ ReachesAlong data second middle target := by
  induction first generalizing id with
  | nil => simp [ReachesAlong]
  | cons hop rest inductionHypothesis =>
    simp only [List.cons_append, ReachesAlong, inductionHypothesis]
    constructor
    · rintro ⟨next, reaches, middle, along, later⟩
      exact ⟨middle, ⟨next, reaches, along⟩, later⟩
    · rintro ⟨middle, ⟨next, reaches, along⟩, later⟩
      exact ⟨next, reaches, middle, along, later⟩

theorem singleton (hop : Hop) (id target : String) :
    ReachesAlong data [hop] id target ↔ hop.Reaches data id target := by
  simp [ReachesAlong]

/-- The hops turned around and taken in reverse order lead back from every id a sequence of hops
leads to. The induction is on the hops: the first hop becomes the last one turned around. -/
theorem reverse (distinct : ∀ cls, (Table.keys (data.classResources cls)).Nodup) :
    ∀ (hops : List Hop) (id target : String),
      ReachesAlong data (hops.map Hop.reverse).reverse target id ↔ ReachesAlong data hops id target
  | [], id, target => by
    simp only [List.map_nil, List.reverse_nil, ReachesAlong]
    exact eq_comm
  | hop :: rest, id, target => by
    rw [List.map_cons, List.reverse_cons, append]
    simp only [singleton, Hop.reaches_reverse (distinct hop.holder)]
    constructor
    · rintro ⟨next, along, reaches⟩
      exact ⟨next, reaches, (reverse distinct rest next target).mp along⟩
    · rintro ⟨next, reaches, along⟩
      exact ⟨next, (reverse distinct rest next target).mpr along, reaches⟩

end ReachesAlong

namespace RelationPath

/-- The path walked the other way: its hops in reverse order, each turned around, with the
canonical text they render. -/
def reverse (path : RelationPath) : RelationPath :=
  let elements := (path.elements.map Hop.reverse).reverse
  ⟨elements, render elements⟩

@[simp] theorem elements_reverse (path : RelationPath) :
    path.reverse.elements = (path.elements.map Hop.reverse).reverse := rfl

end RelationPath

/-- What a path resolves from one id to another, its reverse resolves back, in any data pack whose
classes have distinct ids. -/
theorem mem_resolve_reverse {data : DataPack}
    (distinct : ∀ cls, (Table.keys (data.classResources cls)).Nodup) (path : RelationPath)
    (source target : String) :
    target ∈ (Resolver.new data path).resolve source ↔
      source ∈ (Resolver.new data path.reverse).resolve target := by
  rw [mem_resolve, mem_resolve, RelationPath.elements_reverse, ReachesAlong.reverse distinct]

/-! ### Multiplicity walked backwards -/

namespace RelationPath

variable {pack : SchemaPack}

/-- Some hop of a list can be walked in a model and fans out on one side. -/
def FansOut (pack : SchemaPack) (side : Sides → Bool) (hops : List Hop) : Prop :=
  ∃ hop ∈ hops, ∃ spec, hop.relation pack = .ok spec ∧ side (hop.fans spec) = true

theorem fansOut_cons_of_relation {hop : Hop} {spec : RelationSpec}
    (walked : hop.relation pack = .ok spec) (side : Sides → Bool) (rest : List Hop) :
    FansOut pack side (hop :: rest) ↔ side (hop.fans spec) = true ∨ FansOut pack side rest := by
  simp [FansOut, walked]

/-- Hops can be walked, from flags set so far, exactly when each of them can be walked, and the
flags they give are those set so far and those of any hop. -/
theorem fansFrom_eq_ok_iff {sofar fans : Sides} {hops : List Hop} :
    fansFrom pack sofar hops = .ok fans ↔
      (∀ hop ∈ hops, ∃ spec, hop.relation pack = .ok spec) ∧
        (fans.origin = true ↔ sofar.origin = true ∨ FansOut pack Sides.origin hops) ∧
        (fans.target = true ↔ sofar.target = true ∨ FansOut pack Sides.target hops) := by
  induction hops generalizing sofar with
  | nil =>
    obtain ⟨origin, target⟩ := sofar
    obtain ⟨origin', target'⟩ := fans
    simp only [fansFrom, Except.ok.injEq, Sides.mk.injEq, FansOut, List.not_mem_nil]
    cases origin <;> cases target <;> cases origin' <;> cases target' <;> simp
  | cons hop rest inductionHypothesis =>
    cases walked : hop.relation pack with
    | error problem =>
      simp [fansFrom, walked, bind, Except.bind]
    | ok spec =>
      simp only [fansFrom, walked, bind, Except.bind, inductionHypothesis,
        fansOut_cons_of_relation walked, Sides.join, Bool.or_eq_true, List.forall_mem_cons]
      simp only [or_assoc]
      constructor
      · rintro ⟨each, origin, target⟩
        exact ⟨⟨⟨spec, rfl⟩, each⟩, origin, target⟩
      · rintro ⟨⟨-, each⟩, origin, target⟩
        exact ⟨each, origin, target⟩

/-- The hops turned around and reversed fan out on a side where the hops fan out on the other. -/
theorem fansOut_reverse (side other : Sides → Bool)
    (swapped : ∀ (hop : Hop) (spec : RelationSpec),
      side (hop.reverse.fans spec) = other (hop.fans spec))
    (hops : List Hop) :
    FansOut pack side (hops.map Hop.reverse).reverse ↔ FansOut pack other hops := by
  simp only [FansOut, List.mem_reverse, List.mem_map]
  constructor
  · rintro ⟨-, ⟨hop, member, rfl⟩, spec, walked, fanned⟩
    exact ⟨hop, member, spec, (Hop.relation_reverse hop pack).symm.trans walked,
      (swapped hop spec).symm.trans fanned⟩
  · rintro ⟨hop, member, spec, walked, fanned⟩
    exact ⟨hop.reverse, ⟨hop, member, rfl⟩, spec, (Hop.relation_reverse hop pack).trans walked,
      (swapped hop spec).trans fanned⟩

/-- A path walked the other way can be walked in a model exactly when the path can, and its flags
are the path's, swapped. -/
theorem multiplicity_reverse (path : RelationPath) (pack : SchemaPack) (fans : Sides) :
    path.multiplicity pack = .ok fans ↔
      path.reverse.multiplicity pack = .ok ⟨fans.target, fans.origin⟩ := by
  have origin : FansOut pack Sides.origin (path.elements.map Hop.reverse).reverse ↔
      FansOut pack Sides.target path.elements :=
    fansOut_reverse Sides.origin Sides.target (fun hop spec => by rw [Hop.fans_reverse]) path.elements
  have target : FansOut pack Sides.target (path.elements.map Hop.reverse).reverse ↔
      FansOut pack Sides.origin path.elements :=
    fansOut_reverse Sides.target Sides.origin (fun hop spec => by rw [Hop.fans_reverse]) path.elements
  have walkable : (∀ hop ∈ (path.elements.map Hop.reverse).reverse, ∃ spec,
      hop.relation pack = .ok spec) ↔ ∀ hop ∈ path.elements, ∃ spec, hop.relation pack = .ok spec := by
    simp
  simp only [multiplicity, elements_reverse, fansFrom_eq_ok_iff, walkable, origin, target]
  simp only [Sides.none, Bool.false_eq_true, false_or]
  tauto

end RelationPath

/-! ### Reversal -/

/-- Reversing a path inverts what it resolves and swaps its multiplicity. In every data pack whose
classes have distinct ids, valid against any model or not, the path resolves one id to another
exactly when its reverse resolves the second to the first; and in every model, the reverse can be
walked exactly when the path can, with the flags for several origins and several targets
exchanged. -/
theorem reverse_inverts_resolution_and_multiplicity (path : RelationPath) :
    (∀ data : DataPack, (∀ cls, (Table.keys (data.classResources cls)).Nodup) →
      ∀ source target, target ∈ (Resolver.new data path).resolve source ↔
        source ∈ (Resolver.new data path.reverse).resolve target) ∧
    ∀ (pack : SchemaPack) (fans : Sides), path.multiplicity pack = .ok fans ↔
      path.reverse.multiplicity pack = .ok ⟨fans.target, fans.origin⟩ :=
  ⟨fun _ distinct => mem_resolve_reverse distinct path, path.multiplicity_reverse⟩

/-- Datasets and samples holding files: the path from a dataset through its files to the samples
holding them, and its reverse from a sample through its files to the datasets holding them. -/
theorem datasetSamples_reversed :
    let data : DataPack :=
      { resources := [
          ("Dataset", [("d1", { links := [("files", ⟨"File", .many ["f1"]⟩)] })]),
          ("Sample", [("s1", { links := [("files", ⟨"File", .many ["f1", "f2"]⟩)] }),
            ("s2", { links := [("files", ⟨"File", .many ["f2"]⟩)] })]),
          ("File", [("f1", {}), ("f2", {})])] }
    let path : RelationPath :=
      ⟨[⟨.active, "Dataset", "File", "files"⟩, ⟨.passive, "File", "Sample", "files"⟩],
        "Dataset(files)>File<(files)Sample"⟩
    (∀ cls, (Table.keys (data.classResources cls)).Nodup) ∧
      (∀ source target, target ∈ (Resolver.new data path).resolve source ↔
        source ∈ (Resolver.new data path.reverse).resolve target) ∧
      ∀ (pack : SchemaPack) (fans : Sides), path.multiplicity pack = .ok fans ↔
        path.reverse.multiplicity pack = .ok ⟨fans.target, fans.origin⟩ := by
  intro data path
  have distinct : ∀ cls, (Table.keys (data.classResources cls)).Nodup := by
    intro cls
    simp only [data, DataPack.classResources, DataPack.classResources?, Table.get?]
    split_ifs <;> decide
  exact ⟨distinct, (reverse_inverts_resolution_and_multiplicity path).1 data distinct,
    (reverse_inverts_resolution_and_multiplicity path).2⟩

end Recast
