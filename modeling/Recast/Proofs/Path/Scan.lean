import Recast.Proofs.Path.Resolution
/-!
Resolving a path is scanning the data, hop by hop, order included.

The resolver answers a backward hop from a referrer index built once per hop, and it stops as
soon as its working set is empty. Neither changes what it returns. A direct scan takes, for each
id of the working set in order, what the hop finds from it (forwards, the targets the resource
with that id holds; backwards, the resources of the target class that hold the id, in class
order) and keeps each id once, where it first appears.

The index lists the holders of an id in class order too: it registers the resources of the class
one after the other, and an ordered set keeps each id where it first arrived
(`referrers_referrerIndex`). What the index drops, a holder listed twice, the ordered set the step
builds would drop anyway (`addAll_ofList`). So each step of the walk is a step of the scan
(`step_eq_scanStep`); a scan of nothing finds nothing, so stopping early loses nothing. Main
statement: `resolve_eq_scan`.
-/

namespace Recast

/-! ### Ordered sets built item by item -/

namespace OrderedSet

theorem add_of_mem {set : List String} {item : String} (present : item ∈ set) :
    add set item = set := by
  simp [add, present]

theorem addAll_append (set first second : List String) :
    addAll set (first ++ second) = addAll (addAll set first) second :=
  List.foldl_append

/-- Adding an item twice in a row adds it once. -/
@[simp]
theorem add_add_self (set : List String) (item : String) : add (add set item) item = add set item :=
  add_of_mem (mem_add.mpr (Or.inr rfl))

/-- Adding the items of an ordered set that has just gained an item adds the old items, then the
new one. -/
theorem addAll_add (set items : List String) (item : String) :
    addAll set (add items item) = add (addAll set items) item := by
  by_cases present : item ∈ items
  · rw [add_of_mem present, add_of_mem (mem_addAll.mpr (Or.inr present))]
  · have appended : add items item = items ++ [item] := by simp [add, present]
    rw [appended, addAll_append]
    rfl

/-- Adding the items of an ordered set built from a list is adding the list's items. -/
theorem addAll_addAll (set items more : List String) :
    addAll set (addAll items more) = addAll (addAll set items) more := by
  induction more generalizing items with
  | nil => rfl
  | cons item rest inductionHypothesis =>
    show addAll set (addAll (add items item) rest) = addAll (addAll (addAll set items) [item]) rest
    rw [inductionHypothesis, addAll_add]
    rfl

/-- Repeats in a list make no difference to the ordered set its items are added to. -/
theorem addAll_ofList (set items : List String) : addAll set (ofList items) = addAll set items :=
  addAll_addAll set [] items

/-- Adding, id by id, what a function gives for it is adding everything it gives, in order. -/
theorem foldl_addAll (gives : String → List String) (current set : List String) :
    current.foldl (fun reached id => addAll reached (gives id)) set =
      addAll set (current.flatMap gives) := by
  induction current generalizing set with
  | nil => rfl
  | cons id rest inductionHypothesis =>
    rw [List.foldl_cons, inductionHypothesis, List.flatMap_cons, addAll_append]

end OrderedSet

/-! ### The scan -/

namespace Hop

/-- What a direct scan of the data finds through a hop from one id: forwards, the targets the
resource of the source class with that id holds through the relation; backwards, the ids of the
resources of the target class that hold the id through the relation, in class order. -/
def scan (hop : Hop) (data : DataPack) (id : String) : List String :=
  match hop.direction with
  | .active =>
    match data.resource? hop.source id with
    | some resource => resource.targets hop.property
    | none => []
  | .passive =>
    ((data.classResources hop.target).filter fun entry =>
      (entry.2.targets hop.property).contains id).map Prod.fst

/-- One step of the scan: what the hop finds from each id of the working set, in order, each id
kept once where it first appears. -/
def scanStep (hop : Hop) (data : DataPack) (current : List String) : List String :=
  OrderedSet.ofList (current.flatMap (hop.scan data))

@[simp]
theorem scanStep_nil (hop : Hop) (data : DataPack) : hop.scanStep data [] = [] :=
  rfl

end Hop

/-- The scan of a path from one id: the steps of its hops, one after the other. -/
def RelationPath.scan (path : RelationPath) (data : DataPack) (source : String) : List String :=
  path.elements.foldl (fun current hop => hop.scanStep data current) [source]

/-- Scanning from nothing finds nothing, whatever the hops. -/
theorem foldl_scanStep_nil (data : DataPack) (hops : List Hop) :
    hops.foldl (fun current hop => hop.scanStep data current) [] = [] := by
  induction hops with
  | nil => rfl
  | cons hop rest inductionHypothesis => exact inductionHypothesis

/-! ### The referrer index -/

/-- Registering one resource's references adds its id to the referrers of each target it holds,
once, and leaves the referrers of every other id alone. -/
theorem referrers_foldl (index : Table (List String)) (id target : String)
    (targets : List String) :
    (Table.get? (targets.foldl (fun index target =>
        Table.insert index target (OrderedSet.add ((Table.get? index target).getD []) id)) index)
        target).getD [] =
      if target ∈ targets then OrderedSet.add ((Table.get? index target).getD []) id
      else (Table.get? index target).getD [] := by
  induction targets generalizing index with
  | nil => simp
  | cons first rest inductionHypothesis =>
    rw [List.foldl_cons, inductionHypothesis, Table.get?_insert]
    by_cases same : target = first
    · -- the id is added at the first occurrence; later occurrences find it there
      subst same
      by_cases again : target ∈ rest <;> simp [again]
    · simp [same]

/-- The referrers of an id, as the index lists them, are the resources of the class that hold the
id through the relation, in class order. -/
theorem referrers_referrerIndex (data : DataPack) (cls relation target : String) :
    (Table.get? (referrerIndex data cls relation) target).getD [] =
      OrderedSet.ofList (((data.classResources cls).filter fun entry =>
        (entry.2.targets relation).contains target).map Prod.fst) := by
  unfold referrerIndex
  suffices registered : ∀ (resources : Table Resource) (index : Table (List String)),
      (Table.get? (resources.foldl (fun index entry =>
          (entry.2.targets relation).foldl (fun index target =>
            Table.insert index target (OrderedSet.add ((Table.get? index target).getD []) entry.1))
            index) index) target).getD [] =
        OrderedSet.addAll ((Table.get? index target).getD [])
          ((resources.filter fun entry => (entry.2.targets relation).contains target).map
            Prod.fst) by
    exact registered _ []
  intro resources
  induction resources with
  | nil => intro index; rfl
  | cons entry rest inductionHypothesis =>
    intro index
    rw [List.foldl_cons, inductionHypothesis, referrers_foldl]
    by_cases holds : target ∈ entry.2.targets relation
    · simp [holds]
      rfl
    · simp [holds]

/-! ### The walk is the scan -/

/-- One step of the walk, with the index the resolver keeps for its hop, is one step of the scan.
A missing resource adds nothing, as the empty list of targets does. -/
theorem step_eq_scanStep {data : DataPack} {hop : Hop} {index : Option (Table (List String))}
    (fits : Resolver.Fits data (hop, index)) (current : List String) :
    Resolver.step data hop index current = hop.scanStep data current := by
  unfold Resolver.Fits at fits
  have scanned : current.foldl (fun reached id => OrderedSet.addAll reached (hop.scan data id)) [] =
      hop.scanStep data current :=
    OrderedSet.foldl_addAll _ current []
  rw [← scanned]
  cases direction : hop.direction with
  | active =>
    simp only [direction] at fits
    subst fits
    simp only [Resolver.step]
    congr 1
    funext reached id
    cases found : data.resource? hop.source id <;> simp [Hop.scan, direction, found, OrderedSet.addAll]
  | passive =>
    simp only [direction] at fits
    subst fits
    simp only [Resolver.step]
    congr 1
    funext reached id
    rw [referrers_referrerIndex, OrderedSet.addAll_ofList, Hop.holder_of_passive direction]
    simp only [Hop.scan, direction]

/-- The walk over hops that each carry the index they need is the scan of the hops; the early stop
on an empty working set returns what the scan would. -/
theorem walk_eq_foldl_scanStep {data : DataPack} {pairs : List (Hop × Option (Table (List String)))}
    (fits : ∀ pair ∈ pairs, Resolver.Fits data pair) (current : List String) :
    Resolver.walk data pairs current =
      (pairs.map Prod.fst).foldl (fun current hop => hop.scanStep data current) current := by
  induction pairs generalizing current with
  | nil => rfl
  | cons pair rest inductionHypothesis =>
    obtain ⟨hop, index⟩ := pair
    have stepped := step_eq_scanStep (fits _ List.mem_cons_self) current
    simp only [Resolver.walk, stepped, List.map_cons, List.foldl_cons]
    split
    · next empty =>
      rw [List.isEmpty_iff.mp empty, foldl_scanStep_nil]
    · exact inductionHypothesis (fun other member => fits other (List.mem_cons_of_mem _ member)) _

/-- The resolver returns exactly what scanning the data hop by hop finds, in the same order: the
referrer indexes and the early stop change nothing, in any data pack. -/
theorem resolve_eq_scan (data : DataPack) (path : RelationPath) (source : String) :
    (Resolver.new data path).resolve source = path.scan data source := by
  show Resolver.walk data (path.elements.zip (Resolver.new data path).indexes) [source] = _
  rw [walk_eq_foldl_scanStep (Resolver.fits_new data path),
    List.map_fst_zip (by simp [Resolver.new])]
  rfl

end Recast
