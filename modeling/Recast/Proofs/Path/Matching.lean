import Mathlib.Data.List.Basic
import Recast.Path.Pattern
/-!
What a pattern matches, and which of its matches the engine takes.

`Pattern.Accepts` gives the texts a pattern matches as a whole, constructor by constructor; a
repetition is one or more rounds of its body, each round but the last consuming characters, as
the engine takes them. The matches `Pattern.run` lists at the front of a text are exactly the
splits of the text into a front the pattern accepts and a rest (`exists_mem_run_iff`), whatever
the groups captured, so a pattern anchored at both ends matches exactly the texts it accepts
(`matchesWhole_iff`).

Which match the engine takes is the head of that list. The head lemmas follow it through the
constructors: a sequence goes on from the first match of its first part, an alternative takes
its left side unless that cannot match, a group records what its body's first match consumed,
and a repetition of a set of characters takes the longest run of them
(`head?_run_plus_set`). A search then takes the match at the front of the text when there is one,
and iterating over captures moves on to where the last match ended.
-/

namespace Recast

namespace Pattern

/-! ### The texts a pattern matches -/

/-- The texts a pattern matches whole. A repetition is one or more rounds, each but the last
consuming characters. -/
def Accepts : Pattern → List Char → Prop
  | .set member, chars => ∃ c, chars = [c] ∧ member c = true
  | .char expected, chars => chars = [expected]
  | .seq first second, chars =>
    ∃ front back, chars = front ++ back ∧ first.Accepts front ∧ second.Accepts back
  | .alt first second, chars => first.Accepts chars ∨ second.Accepts chars
  | .plus body, chars =>
    ∃ (rounds : List (List Char)) (last : List Char), chars = rounds.flatten ++ last ∧
      (∀ round ∈ rounds, round ≠ [] ∧ body.Accepts round) ∧ body.Accepts last
  | .group _ body, chars => body.Accepts chars

section Accepts

variable {member : Char → Bool} {expected : Char} {first second body : Pattern} {index : Nat}
  {chars : List Char}

@[simp] theorem accepts_set : (Pattern.set member).Accepts chars ↔
    ∃ c, chars = [c] ∧ member c = true := Iff.rfl

@[simp] theorem accepts_char : (Pattern.char expected).Accepts chars ↔ chars = [expected] :=
  Iff.rfl

@[simp] theorem accepts_seq : (Pattern.seq first second).Accepts chars ↔
    ∃ front back, chars = front ++ back ∧ first.Accepts front ∧ second.Accepts back := Iff.rfl

@[simp] theorem accepts_alt : (Pattern.alt first second).Accepts chars ↔
    first.Accepts chars ∨ second.Accepts chars := Iff.rfl

@[simp] theorem accepts_group : (Pattern.group index body).Accepts chars ↔ body.Accepts chars :=
  Iff.rfl

theorem accepts_plus : (Pattern.plus body).Accepts chars ↔
    ∃ (rounds : List (List Char)) (last : List Char), chars = rounds.flatten ++ last ∧
      (∀ round ∈ rounds, round ≠ [] ∧ body.Accepts round) ∧ body.Accepts last := Iff.rfl

/-- A repetition is one round, or a round that consumes followed by a repetition. -/
theorem accepts_plus_iff : (Pattern.plus body).Accepts chars ↔ body.Accepts chars ∨
    ∃ front back, front ≠ [] ∧ chars = front ++ back ∧ body.Accepts front ∧
      (Pattern.plus body).Accepts back := by
  simp only [accepts_plus]
  constructor
  · rintro ⟨rounds, last, rfl, consumed, accepted⟩
    cases rounds with
    | nil => exact Or.inl (by simpa using accepted)
    | cons round rest =>
      obtain ⟨⟨nonempty, roundAccepted⟩, restConsumed⟩ := List.forall_mem_cons.mp consumed
      exact Or.inr ⟨round, rest.flatten ++ last, nonempty, by simp, roundAccepted,
        rest, last, rfl, restConsumed, accepted⟩
  · rintro (accepted | ⟨front, back, nonempty, rfl, frontAccepted, rounds, last, rfl, consumed,
      accepted⟩)
    · exact ⟨[], chars, by simp, by simp, accepted⟩
    · exact ⟨front :: rounds, last, by simp,
        List.forall_mem_cons.mpr ⟨⟨nonempty, frontAccepted⟩, consumed⟩, accepted⟩

/-- When every match of the body consumes, a repetition is a non-empty list of rounds. -/
theorem accepts_plus_iff_of_ne_nil (consumes : ∀ round, body.Accepts round → round ≠ []) :
    (Pattern.plus body).Accepts chars ↔
      ∃ rounds, rounds ≠ [] ∧ chars = rounds.flatten ∧ ∀ round ∈ rounds, body.Accepts round := by
  simp only [accepts_plus]
  constructor
  · rintro ⟨rounds, last, rfl, consumed, accepted⟩
    refine ⟨rounds ++ [last], by simp, by simp, ?_⟩
    simp only [List.mem_append, List.mem_singleton]
    rintro round (listed | rfl)
    · exact (consumed round listed).2
    · exact accepted
  · rintro ⟨rounds, nonempty, rfl, accepted⟩
    obtain ⟨earlier, last, rfl⟩ := (List.eq_nil_or_concat' rounds).resolve_left nonempty
    refine ⟨earlier, last, by simp, fun round listed => ?_, accepted last (by simp)⟩
    have roundAccepted := accepted round (List.mem_append_left _ listed)
    exact ⟨consumes round roundAccepted, roundAccepted⟩

/-- A repetition of a set of characters matches the non-empty texts of its members. -/
theorem accepts_plus_set_iff :
    (Pattern.plus (.set member)).Accepts chars ↔ chars ≠ [] ∧ ∀ c ∈ chars, member c = true := by
  induction chars with
  | nil =>
    simp only [ne_eq, not_true_eq_false, false_and, iff_false, accepts_plus]
    rintro ⟨rounds, last, split, -, c, rfl, -⟩
    simp at split
  | cons c rest inductionHypothesis =>
    rw [accepts_plus_iff]
    constructor
    · rintro (⟨d, same, accepted⟩ | ⟨front, back, nonempty, split, ⟨d, rfl, accepted⟩, repeated⟩)
      · obtain ⟨rfl, rfl⟩ := List.cons.inj same
        simp [accepted]
      · obtain ⟨rfl, rfl⟩ := List.cons.inj split
        simpa [accepted] using (inductionHypothesis.mp repeated).2
    · rintro ⟨-, members⟩
      have first : member c = true := members c List.mem_cons_self
      cases rest with
      | nil => exact Or.inl ⟨c, rfl, first⟩
      | cons d more =>
        refine Or.inr ⟨[c], d :: more, by simp, rfl, ⟨c, rfl, first⟩, ?_⟩
        exact inductionHypothesis.mpr ⟨by simp, fun e listed => members e (by simp [listed])⟩

end Accepts

/-! ### The matches the engine lists -/

/-- The matches of a repetition, given a body whose matches are the splits its language gives,
are the splits of the text into an accepted front and a rest, as long as the rounds allowed
exceed the length of the text. -/
theorem exists_mem_repeatGreedy_iff {once : Captures → List Char → List (Captures × List Char)}
    {body : Pattern}
    (onceIff : ∀ captures chars after, (∃ found, (found, after) ∈ once captures chars) ↔
      ∃ front, chars = front ++ after ∧ body.Accepts front)
    {rounds : Nat} {captures : Captures} {chars after : List Char} (bounded : chars.length < rounds) :
    (∃ found, (found, after) ∈ repeatGreedy once rounds captures chars) ↔
      ∃ front, chars = front ++ after ∧ (Pattern.plus body).Accepts front := by
  induction rounds generalizing captures chars after with
  | zero => exact absurd bounded (Nat.not_lt_zero _)
  | succ rounds inductionHypothesis =>
    simp only [repeatGreedy, List.mem_flatMap, List.mem_append, List.mem_singleton]
    constructor
    · rintro ⟨found, ⟨midCaptures, mid⟩, stepped, further | same⟩
      · obtain ⟨front, rfl, accepted⟩ := (onceIff captures chars mid).mp ⟨midCaptures, stepped⟩
        split at further
        · next shorter =>
          have nonempty : front ≠ [] := by
            rintro rfl
            simp at shorter
          obtain ⟨back, rfl, repeated⟩ :=
            (inductionHypothesis (by simp at bounded shorter ⊢; omega)).mp ⟨found, further⟩
          exact ⟨front ++ back, by simp,
            accepts_plus_iff.mpr (Or.inr ⟨front, back, nonempty, rfl, accepted, repeated⟩)⟩
        · simp at further
      · obtain ⟨rfl, rfl⟩ := Prod.mk.inj same
        obtain ⟨front, rfl, accepted⟩ := (onceIff captures chars after).mp ⟨found, stepped⟩
        exact ⟨front, rfl, accepts_plus_iff.mpr (Or.inl accepted)⟩
    · rintro ⟨front, rfl, accepted⟩
      rcases accepts_plus_iff.mp accepted with
        single | ⟨round, rest, nonempty, rfl, roundAccepted, repeated⟩
      · obtain ⟨found, stepped⟩ := (onceIff captures (front ++ after) after).mpr ⟨front, rfl, single⟩
        exact ⟨found, (found, after), stepped, Or.inr rfl⟩
      · have shorter : (rest ++ after).length < (round ++ rest ++ after).length := by
          have consumed := List.length_pos_of_ne_nil nonempty
          simp only [List.length_append]
          omega
        obtain ⟨midCaptures, stepped⟩ :=
          (onceIff captures (round ++ rest ++ after) (rest ++ after)).mpr
            ⟨round, by simp, roundAccepted⟩
        obtain ⟨found, further⟩ :=
          (@inductionHypothesis midCaptures (rest ++ after) after (by omega)).mpr
            ⟨rest, rfl, repeated⟩
        exact ⟨found, (midCaptures, rest ++ after), stepped, Or.inl (by rwa [if_pos shorter])⟩

/-- The matches `run` lists at the front of a text are the splits of the text into a front the
pattern accepts and the rest, whatever was captured before. -/
theorem exists_mem_run_iff (pattern : Pattern) (captures : Captures) (chars after : List Char) :
    (∃ found, (found, after) ∈ run pattern captures chars) ↔
      ∃ front, chars = front ++ after ∧ pattern.Accepts front := by
  induction pattern generalizing captures chars after with
  | set member =>
    cases chars with
    | nil => simp
    | cons c rest =>
      by_cases holds : member c = true
      · simpa [holds] using eq_comm
      · simp [holds]
  | char expected =>
    cases chars with
    | nil => simp
    | cons c rest =>
      by_cases same : c = expected
      · simpa [same] using eq_comm
      · simp [same]
  | seq first second firstIff secondIff =>
    simp only [run_seq, List.mem_flatMap, accepts_seq]
    constructor
    · rintro ⟨found, ⟨midCaptures, mid⟩, stepped, further⟩
      obtain ⟨back, rfl, backAccepted⟩ := (secondIff midCaptures mid after).mp ⟨found, further⟩
      obtain ⟨front, rfl, frontAccepted⟩ :=
        (firstIff captures chars (back ++ after)).mp ⟨midCaptures, stepped⟩
      exact ⟨front ++ back, by simp, front, back, rfl, frontAccepted, backAccepted⟩
    · rintro ⟨_, rfl, front, back, rfl, frontAccepted, backAccepted⟩
      obtain ⟨midCaptures, stepped⟩ :=
        (firstIff captures (front ++ back ++ after) (back ++ after)).mpr
          ⟨front, by simp, frontAccepted⟩
      obtain ⟨found, further⟩ :=
        (secondIff midCaptures (back ++ after) after).mpr ⟨back, rfl, backAccepted⟩
      exact ⟨found, (midCaptures, back ++ after), stepped, further⟩
  | alt first second firstIff secondIff =>
    simp only [run_alt, List.mem_append, exists_or, firstIff, secondIff, accepts_alt]
    constructor
    · rintro (⟨front, split, accepted⟩ | ⟨front, split, accepted⟩)
      exacts [⟨front, split, Or.inl accepted⟩, ⟨front, split, Or.inr accepted⟩]
    · rintro ⟨front, split, accepted | accepted⟩
      exacts [Or.inl ⟨front, split, accepted⟩, Or.inr ⟨front, split, accepted⟩]
  | plus body bodyIff =>
    rw [run_plus]
    exact exists_mem_repeatGreedy_iff bodyIff (Nat.lt_succ_self _)
  | group index body bodyIff =>
    simp only [run_group, List.mem_map, Prod.mk.injEq, accepts_group]
    constructor
    · rintro ⟨found, ⟨midCaptures, mid⟩, stepped, -, rfl⟩
      exact (bodyIff captures chars mid).mp ⟨midCaptures, stepped⟩
    · intro accepted
      obtain ⟨found, stepped⟩ := (bodyIff captures chars after).mpr accepted
      exact ⟨_, (found, after), stepped, rfl, rfl⟩

/-- A pattern anchored at both ends matches a text exactly when it accepts it. -/
theorem matchesWhole_iff {pattern : Pattern} {chars : List Char} :
    pattern.matchesWhole chars = true ↔ pattern.Accepts chars := by
  have whole := exists_mem_run_iff pattern Captures.empty chars []
  simp only [List.append_nil, exists_eq_left'] at whole
  rw [← whole, matchesWhole, List.any_eq_true]
  constructor
  · rintro ⟨⟨found, after⟩, member, ended⟩
    obtain rfl : after = [] := List.isEmpty_iff.mp ended
    exact ⟨found, member⟩
  · rintro ⟨found, member⟩
    exact ⟨(found, []), member, rfl⟩

/-! ### The match the engine takes -/

section Head

variable {first second body : Pattern} {captures : Captures} {chars : List Char}

/-- A sequence first matches by going on from its first part's first match, when the second
part matches there. -/
theorem head?_run_seq {middleCaptures : Captures} {middle : List Char}
    {found : Captures × List Char}
    (firstHead : (run first captures chars).head? = some (middleCaptures, middle))
    (secondHead : (run second middleCaptures middle).head? = some found) :
    (run (.seq first second) captures chars).head? = some found := by
  obtain ⟨others, split⟩ := List.head?_eq_some_iff.mp firstHead
  rw [run_seq, split, List.flatMap_cons, List.head?_append, secondHead, Option.some_or]

/-- An alternative first matches as its left side does, when that can match. -/
theorem head?_run_alt_of_head? {found : Captures × List Char}
    (firstHead : (run first captures chars).head? = some found) :
    (run (.alt first second) captures chars).head? = some found := by
  rw [run_alt, List.head?_append, firstHead, Option.some_or]

/-- An alternative whose left side cannot match first matches as its right side does. -/
theorem head?_run_alt_of_eq_nil (refused : run first captures chars = []) :
    (run (.alt first second) captures chars).head? = (run second captures chars).head? := by
  rw [run_alt, refused, List.nil_append]

/-- A group first matches as its body does, capturing what that match consumed. -/
theorem head?_run_group {index : Nat} {found : Captures} {after : List Char}
    (bodyHead : (run body captures chars).head? = some (found, after)) :
    (run (.group index body) captures chars).head? =
      some (found.set index (chars.take (chars.length - after.length)), after) := by
  rw [run_group, List.head?_map, bodyHead]
  rfl

end Head

section Runs

variable {member : Char → Bool} {captures : Captures}

/-- A repetition of a set of characters cannot start on a character outside the set. -/
theorem repeatGreedy_set_of_stops {rounds : Nat} {chars : List Char}
    (stops : ∀ c ∈ chars.head?, member c = false) :
    repeatGreedy (run (.set member)) rounds captures chars = [] := by
  cases rounds with
  | zero => rfl
  | succ rounds =>
    cases chars with
    | nil => rfl
    | cons c rest => simp [repeatGreedy, stops c rfl]

/-- A repetition of a set of characters first matches the longest run of them: the whole run in
front of a character outside the set. -/
theorem head?_repeatGreedy_set {after : List Char} (stops : ∀ c ∈ after.head?, member c = false) :
    ∀ {front : List Char} {rounds : Nat}, front ≠ [] → (∀ c ∈ front, member c = true) →
      (front ++ after).length < rounds →
        (repeatGreedy (run (.set member)) rounds captures (front ++ after)).head? =
          some (captures, after)
  | [], _, nonempty, _, _ => absurd rfl nonempty
  | _ :: _, 0, _, _, bounded => absurd bounded (Nat.not_lt_zero _)
  | c :: rest, rounds + 1, _, members, bounded => by
    have shorter : (rest ++ after).length < (c :: (rest ++ after)).length := by simp
    simp only [List.cons_append, repeatGreedy, run_set_cons, members c List.mem_cons_self,
      if_true, List.flatMap_cons, List.flatMap_nil, List.append_nil]
    rw [if_pos shorter]
    cases rest with
    | nil => rw [List.nil_append, repeatGreedy_set_of_stops stops]; rfl
    | cons d more =>
      have restMembers : ∀ c ∈ d :: more, member c = true :=
        fun e listed => members e (List.mem_cons_of_mem _ listed)
      rw [List.head?_append, head?_repeatGreedy_set stops (List.cons_ne_nil d more) restMembers
        (by simp at bounded ⊢; omega), Option.some_or]

/-- A repetition of a set of characters first matches the longest run of them. -/
theorem head?_run_plus_set {front after : List Char} (nonempty : front ≠ [])
    (members : ∀ c ∈ front, member c = true) (stops : ∀ c ∈ after.head?, member c = false) :
    (run (.plus (.set member)) captures (front ++ after)).head? = some (captures, after) :=
  head?_repeatGreedy_set stops nonempty members (Nat.lt_succ_self _)

end Runs

/-! ### Searching, and iterating over captures -/

/-- A search takes the match at the front of the text when there is one. -/
theorem search_of_findAtStart {pattern : Pattern} {chars after : List Char} {found : Captures}
    (nonempty : chars ≠ []) (atStart : pattern.findAtStart chars = some (found, after)) :
    pattern.search chars = some (found, chars, after) := by
  cases chars with
  | nil => exact absurd rfl nonempty
  | cons c rest => simp [search, atStart]

/-- Iterating over captures goes on after a match that consumed from where it ended. -/
theorem capturesFrom_succ_of_search {pattern : Pattern} {rounds : Nat} {chars start after : List Char}
    {found : Captures} (searched : pattern.search chars = some (found, start, after))
    (consumed : after.length < start.length) :
    pattern.capturesFrom (rounds + 1) chars = found :: pattern.capturesFrom rounds after := by
  simp [capturesFrom, searched, consumed]

/-- Iterating over captures stops where the search finds nothing. -/
theorem capturesFrom_of_search_eq_none {pattern : Pattern} {rounds : Nat} {chars : List Char}
    (missed : pattern.search chars = none) : pattern.capturesFrom rounds chars = [] := by
  cases rounds with
  | zero => rfl
  | succ rounds => simp [capturesFrom, missed]

end Pattern

end Recast
