import Mathlib.Data.List.Forall2
/-!
Reading back computations that succeed.

Every stage of the library reports its first failure in `Except`: a check over a list stops at the
first item it refuses, and a pipeline of stages stops at the first stage that fails. Proofs about
such computations need two directions, the one that reads a success back into what held of every
step, and the one that builds a success from what holds of every step. This file states them
once, for a bind, for `forM` over a list, and for `mapM`, so that later proofs cite them and never
unfold the monad.
-/

namespace Recast

namespace Except

variable {ε α β : Type}

/-- A bind succeeds exactly when its first computation does and the rest succeeds on its value. -/
@[simp]
theorem bind_eq_ok {first : Except ε α} {next : α → Except ε β} {result : β} :
    first >>= next = .ok result ↔ ∃ value, first = .ok value ∧ next value = .ok result := by
  cases first with
  | error failure => simp [bind, Except.bind]
  | ok value => simp [bind, Except.bind]

/-- A bind that fails either failed first or failed in the rest. -/
theorem bind_eq_error {first : Except ε α} {next : α → Except ε β} {failure : ε} :
    first >>= next = .error failure ↔
      first = .error failure ∨ ∃ value, first = .ok value ∧ next value = .error failure := by
  cases first with
  | error problem => simp [bind, Except.bind]
  | ok value => simp [bind, Except.bind]

@[simp]
theorem pure_eq_ok {value result : α} :
    (pure value : Except ε α) = .ok result ↔ value = result := by
  simp [pure, Except.pure]

/-- Relabelling the error of a computation changes none of its successes. -/
theorem mapError_eq_ok {relabel : ε → β} {first : Except ε α} {result : α} :
    first.mapError relabel = .ok result ↔ first = .ok result := by
  cases first <;> simp [Except.mapError]

@[simp]
theorem throw_ne_ok {failure : ε} {result : α} : (throw failure : Except ε α) ≠ .ok result := by
  simp [throw, throwThe, MonadExceptOf.throw]

/-- A guard that fails on a condition lets a success through only when the condition fails. -/
@[simp]
theorem ite_error_eq_ok {condition : Prop} [Decidable condition] {failure : ε} {rest : Except ε α}
    {result : α} :
    (if condition then .error failure else rest) = .ok result ↔ ¬condition ∧ rest = .ok result := by
  by_cases holds : condition <;> simp [holds]

/-- A computation reported as a success has a value, which is how a success is found by
evaluation and then named in a proof. -/
theorem exists_eq_ok_of_isOk {computation : Except ε α} (succeeded : computation.isOk = true) :
    ∃ value, computation = .ok value := by
  cases computation with
  | error failure => simp [Except.isOk, Except.toBool] at succeeded
  | ok value => exact ⟨value, rfl⟩

/-- A computation whose value, read through `read`, evaluates to `reading` has a value that
reads so: one evaluation finds a success and what holds of its value. -/
theorem exists_eq_ok_of_toOption_map {computation : Except ε α} {read : α → β} {reading : β}
    (evaluated : computation.toOption.map read = some reading) :
    ∃ value, computation = .ok value ∧ read value = reading := by
  cases computation with
  | error failure => simp [Except.toOption] at evaluated
  | ok value => exact ⟨value, rfl, by simpa [Except.toOption] using evaluated⟩

end Except

section Lists

variable {ε α β : Type}

/-- A check run over a list succeeds exactly when it succeeds on every item. -/
theorem forM_except_eq_ok {items : List α} {check : α → Except ε PUnit} {done : PUnit} :
    items.forM check = .ok done ↔ ∀ item ∈ items, check item = .ok () := by
  induction items with
  | nil => simp [List.forM, pure, Except.pure]
  | cons item rest inductionHypothesis =>
    show (check item >>= fun _ => rest.forM check) = _ ↔ _
    rw [Except.bind_eq_ok]
    simp only [inductionHypothesis, List.mem_cons, forall_eq_or_imp]
    constructor
    · rintro ⟨⟨⟩, first, later⟩
      exact ⟨first, later⟩
    · rintro ⟨first, later⟩
      exact ⟨(), first, later⟩

/-- A map through a computation that succeeds on every item with a known value returns those
values in order. -/
theorem mapM_except_eq_ok_map {items : List α} {step : α → Except ε β} {value : α → β}
    (succeeds : ∀ item ∈ items, step item = .ok (value item)) :
    items.mapM step = .ok (items.map value) := by
  induction items with
  | nil => rfl
  | cons item rest inductionHypothesis =>
    have later := inductionHypothesis fun other member =>
      succeeds other (List.mem_cons_of_mem _ member)
    simp [List.mapM_cons, succeeds item List.mem_cons_self, later, bind, Except.bind, pure,
      Except.pure]

/-- A map through a computation that succeeds pairs each item with the value it gave. -/
theorem forall₂_of_mapM_eq_ok {step : α → Except ε β} :
    ∀ {items : List α} {results : List β}, items.mapM step = .ok results →
      List.Forall₂ (fun item result => step item = .ok result) items results := by
  intro items
  induction items with
  | nil =>
    intro results mapped
    simp only [List.mapM_nil, pure, Except.pure, Except.ok.injEq] at mapped
    subst mapped
    exact List.Forall₂.nil
  | cons item rest inductionHypothesis =>
    intro results mapped
    simp only [List.mapM_cons, Except.bind_eq_ok, Except.pure_eq_ok] at mapped
    obtain ⟨first, stepped, others, restMapped, rfl⟩ := mapped
    exact List.Forall₂.cons stepped (inductionHypothesis restMapped)

/-- The first failing item of a list, every item before it succeeding, is its head or, once the
head succeeds, the first failing item of its tail. -/
theorem exists_first_failing_cons_iff (succeeds fails : α → Prop) {first : α} {rest : List α} :
    (∃ pre item post, first :: rest = pre ++ item :: post ∧ (∀ earlier ∈ pre, succeeds earlier) ∧
        fails item) ↔
      fails first ∨ succeeds first ∧ ∃ pre item post, rest = pre ++ item :: post ∧
        (∀ earlier ∈ pre, succeeds earlier) ∧ fails item := by
  constructor
  · rintro ⟨pre, item, post, split, earlier, failed⟩
    cases pre with
    | nil =>
      obtain ⟨rfl, -⟩ := List.cons.inj split
      exact Or.inl failed
    | cons head pre =>
      obtain ⟨rfl, rfl⟩ := List.cons.inj split
      exact Or.inr ⟨earlier first List.mem_cons_self, pre, item, post, rfl,
        fun other member => earlier other (List.mem_cons_of_mem _ member), failed⟩
  · rintro (failed | ⟨passed, pre, item, post, rfl, earlier, failed⟩)
    · exact ⟨[], first, rest, rfl, by simp, failed⟩
    · refine ⟨first :: pre, item, post, rfl, ?_, failed⟩
      rintro other (_ | ⟨_, member⟩)
      · exact passed
      · exact earlier other member

/-- A map through a computation fails exactly at its first failing item, with that item's failure,
every item before it succeeding; stated through what success and failure of one item mean. The
map fails at the first item, or passes it and fails later. -/
theorem mapM_except_eq_error_iff (succeeds : α → Prop) (fails : α → ε → Prop)
    {step : α → Except ε β} (succeedsIff : ∀ item, (∃ value, step item = .ok value) ↔ succeeds item)
    (failsIff : ∀ item failure, step item = .error failure ↔ fails item failure)
    {items : List α} {failure : ε} :
    items.mapM step = .error failure ↔
      ∃ pre item post, items = pre ++ item :: post ∧ (∀ earlier ∈ pre, succeeds earlier) ∧
        fails item failure := by
  induction items with
  | nil => simp [pure, Except.pure]
  | cons first rest inductionHypothesis =>
    have unfolded : (first :: rest).mapM step = .error failure ↔ step first = .error failure ∨
        (∃ value, step first = .ok value) ∧ rest.mapM step = .error failure := by
      rw [List.mapM_cons]
      cases step first <;> cases rest.mapM step <;>
        simp [bind, Except.bind, pure, Except.pure]
    rw [unfolded, inductionHypothesis, failsIff, succeedsIff, exists_first_failing_cons_iff]

end Lists

end Recast
