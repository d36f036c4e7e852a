import Mathlib.Data.List.Nodup
import Mathlib.Data.List.Pairwise
import Recast.Path.Multiplicity
import Recast.Path.Resolve
import Recast.Proofs.Data.Invariants
/-!
What resolving a relation path reaches.

A hop reaches, from an id, the targets that the resource with that id holds through the hop's
relation (forwards), or the ids of the resources of the target class that hold the id (backwards).
The resolver keeps an ordered set of ids and replaces it, hop by hop, by everything its members
reach; a referrer index built once answers the backward hops. This file reads the resolver as
that relation: `mem_step` says what one step keeps, and the walk lemmas carry a property of the
ordered set through every hop.

Against a data pack that conforms to its model, the hops of a walkable path behave as the model
declares. A hop whose relation is single in the direction it is walked reaches one target at most
from each id (`reaches_functional`); a hop walked against a relation that is single in the other
direction never reaches one target from two ids (`reaches_injective`). Main statements:
`resolve_subsingleton` and `resolve_disjoint`, the path versions, and `resolve_mem_target`: what a
path reaches exists in the class it ends at.
-/

namespace Recast

/-! ### Ordered sets -/

namespace OrderedSet

theorem mem_add {set : List String} {item other : String} :
    other ∈ add set item ↔ other ∈ set ∨ other = item := by
  unfold add
  by_cases present : item ∈ set
  · simp only [List.contains_iff_mem, present, if_true]
    constructor
    · exact Or.inl
    · rintro (held | rfl)
      · exact held
      · exact present
  · simp [present]

theorem nodup_add {set : List String} (distinct : set.Nodup) (item : String) :
    (add set item).Nodup := by
  unfold add
  by_cases present : item ∈ set
  · simpa [present] using distinct
  · simp only [List.contains_iff_mem, present, if_false]
    refine List.nodup_append.mpr ⟨distinct, by simp, fun first held second listed same => ?_⟩
    simp only [List.mem_singleton] at listed
    rw [same, listed] at held
    exact present held

theorem mem_addAll {set items : List String} {other : String} :
    other ∈ addAll set items ↔ other ∈ set ∨ other ∈ items := by
  induction items generalizing set with
  | nil => simp [addAll]
  | cons item rest inductionHypothesis =>
    show other ∈ addAll (add set item) rest ↔ _
    rw [inductionHypothesis, mem_add, List.mem_cons]
    tauto

theorem nodup_addAll {set : List String} (distinct : set.Nodup) (items : List String) :
    (addAll set items).Nodup := by
  induction items generalizing set with
  | nil => exact distinct
  | cons item rest inductionHypothesis => exact inductionHypothesis (nodup_add distinct item)

end OrderedSet

/-! ### One hop -/

/-- What one hop reaches from one id: forwards, a target the resource with that id holds through
the relation; backwards, the id of a resource of the target class that holds the id. -/
def Hop.Reaches (hop : Hop) (data : DataPack) (id target : String) : Prop :=
  match hop.direction with
  | .active =>
    ∃ resource, data.resource? hop.source id = some resource ∧
      target ∈ resource.targets hop.property
  | .passive =>
    ∃ resource ∈ data.classResources hop.target, resource.1 = target ∧
      id ∈ resource.2.targets hop.property

theorem Hop.reaches_of_active {hop : Hop} (forwards : hop.direction = .active) {data : DataPack}
    {id target : String} :
    hop.Reaches data id target ↔ ∃ resource, data.resource? hop.source id = some resource ∧
      target ∈ resource.targets hop.property := by
  rw [Hop.Reaches, forwards]

theorem Hop.reaches_of_passive {hop : Hop} (backwards : hop.direction = .passive)
    {data : DataPack} {id target : String} :
    hop.Reaches data id target ↔ ∃ resource ∈ data.classResources hop.target,
      resource.1 = target ∧ id ∈ resource.2.targets hop.property := by
  rw [Hop.Reaches, backwards]

namespace Hop

variable {hop : Hop}

theorem holder_of_active (forwards : hop.direction = .active) : hop.holder = hop.source := by
  rw [holder, forwards]

theorem holder_of_passive (backwards : hop.direction = .passive) : hop.holder = hop.target := by
  rw [holder, backwards]

theorem referenced_of_active (forwards : hop.direction = .active) :
    hop.referenced = hop.target := by
  rw [referenced, forwards]

theorem fans_of_active (forwards : hop.direction = .active) (spec : RelationSpec) :
    hop.fans spec = spec.multiple := by
  rw [fans, forwards]

theorem fans_of_passive (backwards : hop.direction = .passive) (spec : RelationSpec) :
    hop.fans spec = ⟨spec.multiple.target, spec.multiple.origin⟩ := by
  rw [fans, backwards]

end Hop

/-- The index a resolver keeps for a hop: none forwards, the relation's referrers backwards. -/
def Resolver.Fits (data : DataPack) (pair : Hop × Option (Table (List String))) : Prop :=
  match pair.1.direction with
  | .active => pair.2 = none
  | .passive => pair.2 = some (referrerIndex data pair.1.holder pair.1.property)

/-- Registering one resource's references adds its id to the referrers of each of its targets. -/
theorem mem_referrers_foldl {index : Table (List String)} {id other target : String}
    {targets : List String} :
    other ∈ (Table.get? (targets.foldl (fun index target =>
        Table.insert index target (OrderedSet.add ((Table.get? index target).getD []) id)) index)
        target).getD [] ↔
      other ∈ (Table.get? index target).getD [] ∨ other = id ∧ target ∈ targets := by
  induction targets generalizing index with
  | nil => simp
  | cons first rest inductionHypothesis =>
    rw [List.foldl_cons, inductionHypothesis, Table.get?_insert]
    by_cases same : target = first
    · subst same
      simp only [if_true, Option.getD_some, OrderedSet.mem_add, List.mem_cons, true_or, and_true]
      tauto
    · simp [same]

/-- The referrers of a target are the resources of the class that hold it through the relation. -/
theorem mem_referrerIndex {data : DataPack} {cls relation other target : String} :
    other ∈ (Table.get? (referrerIndex data cls relation) target).getD [] ↔
      ∃ resource ∈ data.classResources cls, resource.1 = other ∧
        target ∈ resource.2.targets relation := by
  unfold referrerIndex
  suffices registered : ∀ (resources : Table Resource) (index : Table (List String)),
      other ∈ (Table.get? (resources.foldl (fun index entry =>
          (entry.2.targets relation).foldl (fun index target =>
            Table.insert index target (OrderedSet.add ((Table.get? index target).getD []) entry.1))
            index) index) target).getD [] ↔
        other ∈ (Table.get? index target).getD [] ∨
          ∃ resource ∈ resources, resource.1 = other ∧ target ∈ resource.2.targets relation by
    simp [registered, Table.get?]
  intro resources
  induction resources with
  | nil => simp
  | cons entry rest inductionHypothesis =>
    intro index
    rw [List.foldl_cons, inductionHypothesis, mem_referrers_foldl]
    simp only [List.mem_cons, exists_eq_or_imp]
    constructor
    · rintro ((held | ⟨rfl, listed⟩) | later)
      · exact Or.inl held
      · exact Or.inr (Or.inl ⟨rfl, listed⟩)
      · exact Or.inr (Or.inr later)
    · rintro (held | here | later)
      · exact Or.inl (Or.inl held)
      · exact Or.inl (Or.inr ⟨here.1.symm, here.2⟩)
      · exact Or.inr later

/-- Gathering, id by id, what each id leads to keeps what was gathered and adds all of it. -/
theorem mem_foldl_gather {gather : List String → String → List String}
    {leads : String → String → Prop}
    (adds : ∀ reached id other, other ∈ gather reached id ↔ other ∈ reached ∨ leads id other)
    (current start : List String) (other : String) :
    other ∈ current.foldl gather start ↔ other ∈ start ∨ ∃ id ∈ current, leads id other := by
  induction current generalizing start with
  | nil => simp
  | cons id rest inductionHypothesis =>
    rw [List.foldl_cons, inductionHypothesis, adds]
    simp only [List.mem_cons, exists_eq_or_imp]
    tauto

theorem nodup_foldl_gather {gather : List String → String → List String}
    (keeps : ∀ reached id, reached.Nodup → (gather reached id).Nodup) (current : List String)
    {start : List String} (distinct : start.Nodup) : (current.foldl gather start).Nodup := by
  induction current generalizing start with
  | nil => exact distinct
  | cons id rest inductionHypothesis => exact inductionHypothesis (keeps start id distinct)

/-- One step of the walk keeps exactly what the hop reaches from the ids it is given. -/
theorem mem_step {data : DataPack} {hop : Hop} {index : Option (Table (List String))}
    (fits : Resolver.Fits data (hop, index)) (current : List String) (target : String) :
    target ∈ Resolver.step data hop index current ↔ ∃ id ∈ current, hop.Reaches data id target := by
  unfold Resolver.Fits at fits
  cases direction : hop.direction with
  | active =>
    simp only [direction] at fits
    subst fits
    refine (@mem_foldl_gather _ (fun id other => ∃ resource, data.resource? hop.source id =
      some resource ∧ other ∈ resource.targets hop.property) ?adds current [] target).trans ?_
    · intro reached id other
      split
      · simp_all [OrderedSet.mem_addAll]
      · simp_all
    · simp [Hop.reaches_of_active direction]
  | passive =>
    simp only [direction] at fits
    subst fits
    refine (@mem_foldl_gather _ (fun id other => other ∈ (Table.get? (referrerIndex data hop.holder
      hop.property) id).getD []) (fun _ _ _ => OrderedSet.mem_addAll) current [] target).trans ?_
    simp [mem_referrerIndex, Hop.reaches_of_passive direction, Hop.holder, direction]

/-- A step's result never repeats an id. -/
theorem nodup_step (data : DataPack) (hop : Hop) (index : Option (Table (List String)))
    (current : List String) : (Resolver.step data hop index current).Nodup := by
  cases index with
  | none =>
    refine nodup_foldl_gather ?keeps current List.nodup_nil
    intro reached id distinct
    split
    · exact OrderedSet.nodup_addAll distinct _
    · exact distinct
  | some index =>
    exact nodup_foldl_gather (fun reached id distinct => OrderedSet.nodup_addAll distinct _) current
      List.nodup_nil

/-! ### Whole paths -/

/-- What a sequence of hops reaches from an id: the id itself when there are no hops, and
otherwise what the later hops reach from anything the first one reaches. -/
def ReachesAlong (data : DataPack) : List Hop → String → String → Prop
  | [], id, target => target = id
  | hop :: rest, id, target => ∃ next, hop.Reaches data id next ∧ ReachesAlong data rest next target

theorem walk_nil (data : DataPack) (pairs : List (Hop × Option (Table (List String)))) :
    Resolver.walk data pairs [] = [] := by
  cases pairs with
  | nil => rfl
  | cons pair rest =>
    obtain ⟨hop, index⟩ := pair
    cases index <;> rfl

/-- The walk keeps exactly what the hops reach, one after the other, from the ids it starts
with; stopping early loses nothing, since nothing is reached from an empty set. -/
theorem mem_walk {data : DataPack} {pairs : List (Hop × Option (Table (List String)))}
    (fits : ∀ pair ∈ pairs, Resolver.Fits data pair) (current : List String) (target : String) :
    target ∈ Resolver.walk data pairs current ↔
      ∃ id ∈ current, ReachesAlong data (pairs.map Prod.fst) id target := by
  induction pairs generalizing current with
  | nil => simp [Resolver.walk, ReachesAlong]
  | cons pair rest inductionHypothesis =>
    obtain ⟨hop, index⟩ := pair
    have here := mem_step (fits _ List.mem_cons_self)
    have later := inductionHypothesis fun other member => fits other (List.mem_cons_of_mem _ member)
    have through : target ∈ Resolver.walk data rest (Resolver.step data hop index current) ↔
        ∃ id ∈ current, ReachesAlong data (((hop, index) :: rest).map Prod.fst) id target := by
      simp only [later, here, List.map_cons, ReachesAlong]
      constructor
      · rintro ⟨next, ⟨id, member, reaches⟩, along⟩
        exact ⟨id, member, next, reaches, along⟩
      · rintro ⟨id, member, next, reaches, along⟩
        exact ⟨next, ⟨id, member, reaches⟩, along⟩
    rw [← through]
    simp only [Resolver.walk]
    split
    · next empty =>
      rw [List.isEmpty_iff.mp empty, walk_nil]
    · rfl

theorem nodup_walk {data : DataPack} (pairs : List (Hop × Option (Table (List String))))
    {current : List String} (distinct : current.Nodup) :
    (Resolver.walk data pairs current).Nodup := by
  induction pairs generalizing current with
  | nil => exact distinct
  | cons pair rest inductionHypothesis =>
    obtain ⟨hop, index⟩ := pair
    simp only [Resolver.walk]
    split
    · exact nodup_step data hop index current
    · exact inductionHypothesis (nodup_step data hop index current)

/-- Pairing each item with what a function gives for it. -/
theorem snd_eq_of_mem_zip_map {α β : Type} {f : α → β} :
    ∀ {items : List α} {pair : α × β}, pair ∈ items.zip (items.map f) → pair.2 = f pair.1
  | [], _, member => by simp at member
  | item :: rest, pair, member => by
    rcases List.mem_cons.mp member with rfl | later
    · rfl
    · exact snd_eq_of_mem_zip_map later

/-- A resolver built for a path keeps, for each hop, the index the hop needs. -/
theorem Resolver.fits_new (data : DataPack) (path : RelationPath) :
    ∀ pair ∈ path.elements.zip (Resolver.new data path).indexes, Resolver.Fits data pair := by
  rintro ⟨hop, index⟩ member
  dsimp only [Resolver.new] at member
  have indexed := snd_eq_of_mem_zip_map member
  dsimp only at indexed
  unfold Resolver.Fits
  cases direction : hop.direction <;> simp [direction, indexed]

/-- A resolver built for a path walks exactly its hops, each with the index it needs. -/
theorem mem_resolve {data : DataPack} {path : RelationPath} {source target : String} :
    target ∈ (Resolver.new data path).resolve source ↔
      ReachesAlong data path.elements source target := by
  show target ∈ Resolver.walk data (path.elements.zip (Resolver.new data path).indexes) [source] ↔ _
  rw [mem_walk (Resolver.fits_new data path), List.map_fst_zip (by simp [Resolver.new])]
  simp

theorem nodup_resolve (data : DataPack) (path : RelationPath) (source : String) :
    ((Resolver.new data path).resolve source).Nodup :=
  nodup_walk _ (List.nodup_singleton source)

namespace ReachesAlong

variable {data : DataPack}

/-- Hops that each reach one target at most from an id do so one after the other too. -/
theorem functional {hops : List Hop}
    (each : ∀ hop ∈ hops, ∀ id first second,
      hop.Reaches data id first → hop.Reaches data id second → first = second)
    {id first second : String} (toFirst : ReachesAlong data hops id first)
    (toSecond : ReachesAlong data hops id second) : first = second := by
  induction hops generalizing id with
  | nil => exact toFirst.trans toSecond.symm
  | cons hop rest inductionHypothesis =>
    obtain ⟨next, reaches, along⟩ := toFirst
    obtain ⟨other, reachesOther, alongOther⟩ := toSecond
    have same := each hop List.mem_cons_self id next other reaches reachesOther
    subst same
    exact inductionHypothesis (fun later member => each later (List.mem_cons_of_mem _ member))
      along alongOther

/-- Hops that each never reach one target from two ids do so one after the other too. -/
theorem injective {hops : List Hop}
    (each : ∀ hop ∈ hops, ∀ first second target,
      hop.Reaches data first target → hop.Reaches data second target → first = second)
    {first second target : String} (fromFirst : ReachesAlong data hops first target)
    (fromSecond : ReachesAlong data hops second target) : first = second := by
  induction hops generalizing first second with
  | nil => exact fromFirst.symm.trans fromSecond
  | cons hop rest inductionHypothesis =>
    obtain ⟨next, reaches, along⟩ := fromFirst
    obtain ⟨other, reachesOther, alongOther⟩ := fromSecond
    have same := inductionHypothesis
      (fun later member => each later (List.mem_cons_of_mem _ member)) along alongOther
    subst same
    exact each hop List.mem_cons_self first second next reaches reachesOther

/-- What a sequence of hops reaches, its last hop reaches. -/
theorem last {hops : List Hop} {id target : String} (along : ReachesAlong data hops id target)
    (nonempty : hops ≠ []) : ∃ previous, (hops.getLast nonempty).Reaches data previous target := by
  induction hops generalizing id with
  | nil => exact absurd rfl nonempty
  | cons hop rest inductionHypothesis =>
    obtain ⟨next, reaches, along⟩ := along
    cases rest with
    | nil => exact ⟨id, along ▸ reaches⟩
    | cons following more => simpa using inductionHypothesis along (List.cons_ne_nil _ _)

end ReachesAlong

/-- A list without repeats whose members are all equal has one member at most. -/
theorem eq_nil_or_singleton_of_nodup {items : List String} (distinct : items.Nodup)
    (same : ∀ first ∈ items, ∀ second ∈ items, first = second) :
    items = [] ∨ ∃ item, items = [item] := by
  match items, distinct, same with
  | [], _, _ => exact Or.inl rfl
  | [item], _, _ => exact Or.inr ⟨item, rfl⟩
  | first :: second :: rest, distinct, same =>
    have equal := same first List.mem_cons_self second (List.mem_cons_of_mem _ List.mem_cons_self)
    simp [equal] at distinct

/-- Members of two lists of a family that share an item are the same member, when the lists
joined never repeat. -/
theorem eq_of_nodup_flatMap {α β : Type} {f : α → List β} {items : List α}
    (distinct : (items.flatMap f).Nodup) {first second : α} (firstMember : first ∈ items)
    (secondMember : second ∈ items) {shared : β} (inFirst : shared ∈ f first)
    (inSecond : shared ∈ f second) : first = second := by
  have symmetric : Std.Symm (Function.onFun List.Disjoint f) :=
    ⟨fun _ _ apart _ inFirst inSecond => apart inSecond inFirst⟩
  by_contra differ
  exact (List.nodup_flatMap.mp distinct).2.forall firstMember secondMember differ inFirst inSecond

/-! ### Hops through a conforming pack -/

theorem SchemaPack.requireRelation_eq_ok {pack : SchemaPack} {cls name : String}
    {spec : RelationSpec} :
    pack.requireRelation cls name = .ok spec ↔
      ∃ found, pack.cls? cls = some found ∧ found.relation? name = some spec := by
  cases present : pack.cls? cls with
  | none => simp [SchemaPack.requireRelation, SchemaPack.requireClass, present, bind, Except.bind]
  | some found =>
    rw [SchemaPack.requireRelation_of_cls? present]
    cases declared : found.relation? name <;> simp [declared]

/-- A hop that can be walked follows a relation that points at the class it refers to. -/
theorem Hop.targetClass_of_relation_eq_ok {hop : Hop} {pack : SchemaPack} {spec : RelationSpec}
    (walked : hop.relation pack = .ok spec) : spec.targetClass = hop.referenced := by
  simp only [Hop.relation, Except.bind_eq_ok] at walked
  obtain ⟨-, -, found, -, checked⟩ := walked
  split at checked
  · simp [throw, throwThe, MonadExceptOf.throw] at checked
  · next points =>
    simp only [Except.pure_eq_ok] at checked
    subst checked
    exact Decidable.not_not.mp points

theorem DataPack.mem_classResources_of_resource? {data : DataPack} {cls id : String}
    {resource : Resource} (found : data.resource? cls id = some resource) :
    (id, resource) ∈ data.classResources cls := by
  simp only [DataPack.resource?, Option.bind_eq_some_iff] at found
  obtain ⟨resources, present, listed⟩ := found
  simpa [DataPack.classResources, present] using Table.mem_of_get?_eq_some listed

namespace LinkConforms

variable {data : DataPack} {name : String} {spec : RelationSpec} {resource : Resource}

/-- A conforming relation instance targets resources of the relation's target class. -/
theorem mem_keys (linked : LinkConforms data name spec resource) {target : String}
    (listed : target ∈ resource.targets name) :
    target ∈ Table.keys (data.classResources spec.targetClass) := by
  unfold Resource.targets at listed
  unfold LinkConforms at linked
  cases found : Table.get? resource.links name with
  | none => simp [found] at listed
  | some link =>
    simp only [found] at listed linked
    exact linked.2.2.2 target listed

/-- A conforming instance of a relation that is single at its target holds one target at most. -/
theorem eq_of_single (linked : LinkConforms data name spec resource)
    (single : spec.multiple.target = false) {first second : String}
    (firstListed : first ∈ resource.targets name) (secondListed : second ∈ resource.targets name) :
    first = second := by
  unfold Resource.targets at firstListed secondListed
  unfold LinkConforms at linked
  cases found : Table.get? resource.links name with
  | none => simp [found] at firstListed
  | some link =>
    simp only [found] at firstListed secondListed linked
    cases shape : link.targets with
    | single target =>
      simp only [shape, Targets.ids, List.mem_singleton] at firstListed secondListed
      exact firstListed.trans secondListed.symm
    | many targets => simp [shape, Targets.isMany, single] at linked

end LinkConforms

namespace Conforms

variable {model : SchemaPack} {data : DataPack}

/-- A relation the model declares for a class is one the pack's resources of the class keep. -/
theorem relationConforms (conforms : Conforms model data) {cls name : String}
    {spec : RelationSpec} (declared : model.requireRelation cls name = .ok spec) :
    RelationConforms data cls name spec := by
  obtain ⟨found, present, holds⟩ := SchemaPack.requireRelation_eq_ok.mp declared
  exact conforms.relations (cls, found) (Table.mem_of_get?_eq_some present) (name, spec)
    (Table.mem_of_get?_eq_some holds)

end Conforms

namespace Hop

variable {model : SchemaPack} {data : DataPack} {hop : Hop} {spec : RelationSpec}

/-- In a conforming pack, what a hop that can be walked reaches is a resource of the class it
arrives at. -/
theorem mem_keys_of_reaches (conforms : Conforms model data)
    (walked : hop.relation model = .ok spec)
    {id target : String} (reaches : hop.Reaches data id target) :
    target ∈ Table.keys (data.classResources hop.target) := by
  have relation := conforms.relationConforms (requireRelation_of_relation_eq_ok walked)
  have points := targetClass_of_relation_eq_ok walked
  cases direction : hop.direction with
  | active =>
    rw [holder_of_active direction] at relation
    rw [referenced_of_active direction] at points
    obtain ⟨resource, found, listed⟩ := (reaches_of_active direction).mp reaches
    have linked := relation.links _ (DataPack.mem_classResources_of_resource? found)
    exact points ▸ linked.mem_keys listed
  | passive =>
    obtain ⟨entry, member, named, -⟩ := (reaches_of_passive direction).mp reaches
    exact named ▸ List.mem_map_of_mem member

/-- In a conforming pack, a hop that cannot fan out forwards reaches one target at most from an
id: forwards the relation holds one target, backwards no target is held by two resources. -/
theorem reaches_functional (conforms : Conforms model data)
    (walked : hop.relation model = .ok spec) (single : (hop.fans spec).target = false)
    {id first second : String} (toFirst : hop.Reaches data id first)
    (toSecond : hop.Reaches data id second) : first = second := by
  have relation := conforms.relationConforms (requireRelation_of_relation_eq_ok walked)
  cases direction : hop.direction with
  | active =>
    rw [fans_of_active direction] at single
    rw [holder_of_active direction] at relation
    obtain ⟨resource, found, firstListed⟩ := (reaches_of_active direction).mp toFirst
    obtain ⟨other, foundOther, secondListed⟩ := (reaches_of_active direction).mp toSecond
    rw [found, Option.some.injEq] at foundOther
    subst foundOther
    exact (relation.links _ (DataPack.mem_classResources_of_resource? found)).eq_of_single single
      firstListed secondListed
  | passive =>
    rw [fans_of_passive direction] at single
    rw [holder_of_passive direction] at relation
    obtain ⟨entry, member, rfl, holds⟩ := (reaches_of_passive direction).mp toFirst
    obtain ⟨other, otherMember, rfl, otherHolds⟩ := (reaches_of_passive direction).mp toSecond
    exact congrArg Prod.fst
      (eq_of_nodup_flatMap (relation.singleOrigin single) member otherMember holds otherHolds)

/-- In a conforming pack whose resources have distinct ids, a hop that cannot fan out backwards
never reaches one target from two ids: two referrers with the same id are the same resource. -/
theorem reaches_injective (conforms : Conforms model data)
    (walked : hop.relation model = .ok spec)
    (distinct : (Table.keys (data.classResources hop.target)).Nodup)
    (single : (hop.fans spec).origin = false) {first second target : String}
    (fromFirst : hop.Reaches data first target) (fromSecond : hop.Reaches data second target) :
    first = second := by
  have relation := conforms.relationConforms (requireRelation_of_relation_eq_ok walked)
  cases direction : hop.direction with
  | active =>
    rw [fans_of_active direction] at single
    rw [holder_of_active direction] at relation
    obtain ⟨resource, found, listed⟩ := (reaches_of_active direction).mp fromFirst
    obtain ⟨other, foundOther, otherListed⟩ := (reaches_of_active direction).mp fromSecond
    exact congrArg Prod.fst (eq_of_nodup_flatMap (relation.singleOrigin single)
      (DataPack.mem_classResources_of_resource? found)
      (DataPack.mem_classResources_of_resource? foundOther) listed otherListed)
  | passive =>
    rw [fans_of_passive direction] at single
    rw [holder_of_passive direction] at relation
    obtain ⟨entry, member, named, holds⟩ := (reaches_of_passive direction).mp fromFirst
    obtain ⟨other, otherMember, otherNamed, otherHolds⟩ :=
      (reaches_of_passive direction).mp fromSecond
    have same := Table.eq_of_mem_of_fst_eq distinct member otherMember (named.trans otherNamed.symm)
    subst same
    exact (relation.links entry member).eq_of_single single holds otherHolds

end Hop

/-! ### Paths through a conforming pack -/

namespace RelationPath

variable {pack : SchemaPack}

/-- Joining fans never clears a flag. -/
theorem fansFrom_keeps {sofar fans : Sides} {hops : List Hop}
    (walked : fansFrom pack sofar hops = .ok fans) :
    (sofar.origin = true → fans.origin = true) ∧ (sofar.target = true → fans.target = true) := by
  induction hops generalizing sofar with
  | nil =>
    simp only [fansFrom, Except.ok.injEq] at walked
    subst walked
    exact ⟨id, id⟩
  | cons hop rest inductionHypothesis =>
    simp only [fansFrom, Except.bind_eq_ok] at walked
    obtain ⟨spec, -, later⟩ := walked
    have kept := inductionHypothesis later
    simp only [Sides.join, Bool.or_eq_true] at kept
    exact ⟨fun origin => kept.1 (Or.inl origin), fun target => kept.2 (Or.inl target)⟩

/-- Each hop of a path that can be walked follows a relation, and the path fans out wherever
one of its hops does. -/
theorem fans_of_fansFrom {sofar fans : Sides} {hops : List Hop}
    (walked : fansFrom pack sofar hops = .ok fans) :
    ∀ hop ∈ hops, ∃ spec, hop.relation pack = .ok spec ∧
      ((hop.fans spec).origin = true → fans.origin = true) ∧
        ((hop.fans spec).target = true → fans.target = true) := by
  induction hops generalizing sofar with
  | nil => simp
  | cons hop rest inductionHypothesis =>
    simp only [fansFrom, Except.bind_eq_ok] at walked
    obtain ⟨spec, relation, later⟩ := walked
    intro each member
    rcases List.mem_cons.mp member with rfl | inRest
    · have kept := fansFrom_keeps later
      simp only [Sides.join, Bool.or_eq_true] at kept
      exact ⟨spec, relation, fun origin => kept.1 (Or.inr origin),
        fun target => kept.2 (Or.inr target)⟩
    · exact inductionHypothesis later each inRest

/-- A path that takes hops ends at the target of its last hop. -/
theorem target_eq_getLast {path : RelationPath} (nonempty : path.elements ≠ []) :
    path.target = (path.elements.getLast nonempty).target := by
  rw [target, List.getLast_eq_getElem, getElem!_pos]

/-- A path that takes no hops ends where it starts. -/
theorem target_eq_source_of_elements_eq_nil {path : RelationPath} (empty : path.elements = []) :
    path.target = path.source := by
  simp only [target, source, empty, List.length_nil]
  rfl

end RelationPath

section Resolving

variable {model : SchemaPack} {data : DataPack} {path : RelationPath} {fans : Sides}

/-- In a conforming pack, what a path that can be walked reaches from an id is a resource of the
class the path ends at. -/
theorem resolve_mem_target (conforms : Conforms model data)
    (walked : path.multiplicity model = .ok fans) (nonempty : path.elements ≠ [])
    {source target : String} (reached : target ∈ (Resolver.new data path).resolve source) :
    target ∈ Table.keys (data.classResources path.target) := by
  obtain ⟨previous, reaches⟩ := ReachesAlong.last (mem_resolve.mp reached) nonempty
  obtain ⟨spec, relation, -⟩ := RelationPath.fans_of_fansFrom walked _ (List.getLast_mem nonempty)
  rw [RelationPath.target_eq_getLast nonempty]
  exact Hop.mem_keys_of_reaches conforms relation reaches

/-- A path that takes no hops reaches from an id the id itself. -/
theorem mem_resolve_of_elements_eq_nil (empty : path.elements = []) {source target : String} :
    target ∈ (Resolver.new data path).resolve source ↔ target = source := by
  rw [mem_resolve, empty]
  rfl

/-- In a conforming pack, a path that cannot fan out forwards reaches one target at most. -/
theorem resolve_subsingleton (conforms : Conforms model data)
    (walked : path.multiplicity model = .ok fans) (single : fans.target = false) (source : String) :
    (Resolver.new data path).resolve source = [] ∨
      ∃ target, (Resolver.new data path).resolve source = [target] := by
  refine eq_nil_or_singleton_of_nodup (nodup_resolve data path source) ?_
  intro first firstReached second secondReached
  refine ReachesAlong.functional ?_ (mem_resolve.mp firstReached) (mem_resolve.mp secondReached)
  intro hop member id toFirst toSecond
  obtain ⟨spec, relation, -, forwards⟩ := RelationPath.fans_of_fansFrom walked hop member
  have hopSingle : (hop.fans spec).target = false := by
    cases fanned : (hop.fans spec).target
    · rfl
    · simp [fanned, single] at forwards
  exact hop.reaches_functional conforms relation hopSingle

/-- In a conforming pack whose resources have distinct ids, a path that cannot fan out backwards
never reaches one target from two ids. -/
theorem resolve_disjoint (conforms : Conforms model data)
    (walked : path.multiplicity model = .ok fans) (single : fans.origin = false)
    (distinct : ∀ cls, (Table.keys (data.classResources cls)).Nodup) {first second target : String}
    (fromFirst : target ∈ (Resolver.new data path).resolve first)
    (fromSecond : target ∈ (Resolver.new data path).resolve second) : first = second := by
  refine ReachesAlong.injective ?_ (mem_resolve.mp fromFirst) (mem_resolve.mp fromSecond)
  intro hop member one other reached reaches otherReaches
  obtain ⟨spec, relation, backwards, -⟩ := RelationPath.fans_of_fansFrom walked hop member
  have hopSingle : (hop.fans spec).origin = false := by
    cases fanned : (hop.fans spec).origin
    · rfl
    · simp [fanned, single] at backwards
  exact hop.reaches_injective conforms relation (distinct hop.target) hopSingle reaches otherReaches

end Resolving

/-! ### Multiplicity against validated data -/

/-- A path's multiplicity bounds what it reaches in every data pack the model's validator
accepts: a path that cannot fan out forwards reaches one resource at most from any id, and a
path that cannot fan out backwards reaches disjoint sets of resources from two distinct ids. The
ids of each class are distinct, as in every pack read from JSON (`keyed_of_ofText`). -/
theorem resolve_respects_multiplicity {model : SchemaPack} {validator : ModelValidator}
    {data : DataPack} {path : RelationPath} {fans : Sides}
    (built : ModelValidator.new model = .ok validator) (accepted : validator.check data = .ok ())
    (idsDistinct : ∀ cls, (Table.keys (data.classResources cls)).Nodup)
    (walked : path.multiplicity model = .ok fans) :
    (fans.target = false → ∀ source, ((Resolver.new data path).resolve source).length ≤ 1) ∧
    (fans.origin = false → ∀ first second, first ≠ second →
      List.Disjoint ((Resolver.new data path).resolve first)
        ((Resolver.new data path).resolve second)) := by
  have conforms := ModelValidator.conforms_of_check_eq_ok built accepted
  refine ⟨fun single source => ?_, fun single first second differ => ?_⟩
  · rcases resolve_subsingleton conforms walked single source with empty | ⟨target, only⟩
    · simp [empty]
    · simp [only]
  · refine List.disjoint_left.mpr fun target fromFirst fromSecond => differ ?_
    exact resolve_disjoint conforms walked single idsDistinct fromFirst fromSecond

/-- Samples holding files: walked backwards, from files to the samples holding them, the path
reaches one sample at most from each file; walked forwards, two samples reach disjoint files. -/
theorem sampleFiles_respect_multiplicity :
    let anything : Json := .obj [("$schema", .str "http://json-schema.org/draft-04/schema#")]
    let files : RelationSpec := { targetClass := "File", multiple := ⟨false, true⟩ }
    let model : SchemaPack :=
      { classes := [
          ("Sample",
            { id := { propertyName := "id" }, content := anything, relations := [("files", files)] }),
          ("File", { id := { propertyName := "id" }, content := anything })] }
    let data : DataPack :=
      { resources := [
          ("Sample", [("s1", { links := [("files", ⟨"File", .many ["f1", "f2"]⟩)] }),
            ("s2", { links := [("files", ⟨"File", .many ["f3"]⟩)] })]),
          ("File", [("f1", {}), ("f2", {}), ("f3", {}), ("f4", {})])] }
    let heldBy : RelationPath := ⟨[⟨.passive, "File", "Sample", "files"⟩], "File<(files)Sample"⟩
    let holds : RelationPath := ⟨[⟨.active, "Sample", "File", "files"⟩], "Sample(files)>File"⟩
    ∃ validator, ModelValidator.new model = .ok validator ∧ validator.check data = .ok () ∧
      (∀ source, ((Resolver.new data heldBy).resolve source).length ≤ 1) ∧
      ∀ first second, first ≠ second →
        List.Disjoint ((Resolver.new data holds).resolve first)
          ((Resolver.new data holds).resolve second) := by
  intro anything files model data heldBy holds
  obtain ⟨validator, built, computed⟩ := Except.exists_eq_ok_of_toOption_map
    (show ((ModelValidator.new model).toOption.map fun validator =>
      (validator.check data).isOk) = some true by decide +kernel)
  obtain ⟨⟨⟩, accepted⟩ := Except.exists_eq_ok_of_isOk computed
  have idsDistinct : ∀ cls, (Table.keys (data.classResources cls)).Nodup := by
    intro cls
    simp only [data, DataPack.classResources, DataPack.classResources?, Table.get?]
    split_ifs <;> decide
  have backwards : heldBy.multiplicity model = .ok ⟨true, false⟩ := by decide
  have forwards : holds.multiplicity model = .ok ⟨false, true⟩ := by decide
  exact ⟨validator, built, accepted,
    (resolve_respects_multiplicity built accepted idsDistinct backwards).1 rfl,
    (resolve_respects_multiplicity built accepted idsDistinct forwards).2 rfl⟩

end Recast
