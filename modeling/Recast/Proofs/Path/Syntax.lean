import Mathlib.Data.List.Chain
import Recast.Path.Basic
import Recast.Proofs.Path.Matching
/-!
The syntax of relation paths, and what the two passes of reading a path recover from it.

Once its blanks are dropped, the text of a path is a name followed by one or more hops, each
written `(relation)>Target` or `<(relation)Target`, names being non-empty runs of ASCII letters,
digits, `_` and `-` (`PathSyntax`). The path pattern accepts exactly these texts
(`accepts_pathPattern_iff`), so the first pass refuses exactly the texts outside the syntax.

The second pass reads the text again with other patterns: the name pattern at the start, then
the hop pattern searched for over and over in what follows. The passes agree because the name
pattern takes the longest name and no name character is a bracket: the leading class stops at
the first hop's bracket, each relation at its closing bracket and each class at the next hop's
bracket, so every search finds the next hop exactly where the last one ended
(`hopsOf_capturesFrom`), and once the first pass accepts, the class at the start is never
missing.

Main statement: `parse_accepts_exactly_pathSyntax`. Reading fails with `empty` exactly when
nothing but blanks is given, with `invalidSyntax` quoting the text exactly when the rest is not in
the syntax, and then always for want of hops, and otherwise gives the one well-formed path whose
canonical text is that rest, taking the hops it writes.
-/

namespace Recast

namespace RelationPath

open Pattern

/-! ### Names -/

/-- A name: one or more name characters. -/
def IsName (chars : List Char) : Prop :=
  chars ≠ [] ∧ ∀ c ∈ chars, isNameChar c = true

/-- What follows a name does not continue it. -/
def Stops (after : List Char) : Prop :=
  ∀ c ∈ after.head?, isNameChar c = false

@[simp] theorem stops_nil : Stops [] := by
  simp [Stops]

theorem stops_cons {c : Char} {rest : List Char} (stop : isNameChar c = false) :
    Stops (c :: rest) := by
  simpa [Stops] using stop

/-- The longest run of name characters in front of a stop is the run itself. -/
theorem takeWhile_append_stops {name after : List Char} (named : ∀ c ∈ name, isNameChar c = true)
    (stops : Stops after) : (name ++ after).takeWhile isNameChar = name := by
  rw [List.takeWhile_append_of_pos named]
  cases after with
  | nil => simp
  | cons c rest =>
    have stop : isNameChar c = false := stops c (by simp)
    rw [List.takeWhile_cons_of_neg (p := isNameChar) (by simp [stop]), List.append_nil]

/-- The name pattern accepts exactly the names. -/
theorem accepts_namePattern_iff {chars : List Char} : namePattern.Accepts chars ↔ IsName chars :=
  accepts_plus_set_iff

/-- The name pattern first matches the whole name in front of what does not continue it. -/
theorem head?_run_namePattern {name after : List Char} (named : IsName name) (stops : Stops after)
    (captures : Captures) :
    (run namePattern captures (name ++ after)).head? = some (captures, after) :=
  head?_run_plus_set named.1 named.2 stops

/-- A group around the name pattern captures the whole name in front of what does not continue
it. -/
theorem head?_run_group_namePattern (index : Nat) (captures : Captures) {name after : List Char}
    (named : IsName name) (stops : Stops after) :
    (run (.group index namePattern) captures (name ++ after)).head? =
      some (captures.set index name, after) := by
  rw [head?_run_group (head?_run_namePattern named stops captures)]
  simp

/-! ### Hops -/

/-- How a hop is spelled after the class it starts at: `(relation)>Target` forwards,
`<(relation)Target` backwards. -/
def hopSpelling : Direction → List Char → List Char → List Char
  | .active, relation, target => '(' :: relation ++ ')' :: '>' :: target
  | .passive, relation, target => '<' :: '(' :: relation ++ ')' :: target

/-- A spelled hop starts with a bracket, which stops the name before it. -/
theorem stops_hopSpelling_append (direction : Direction) (relation target rest : List Char) :
    Stops (hopSpelling direction relation target ++ rest) := by
  cases direction <;> exact stops_cons (by decide)

theorem hopSpelling_ne_nil (direction : Direction) (relation target : List Char) :
    hopSpelling direction relation target ≠ [] := by
  cases direction <;> simp [hopSpelling]

/-- The hops start at `source`, each where the one before it ends. -/
def ChainsFrom : String → List Hop → Prop
  | _, [] => True
  | source, hop :: rest => hop.source = source ∧ ChainsFrom hop.target rest

@[simp] theorem chainsFrom_nil (source : String) : ChainsFrom source [] := trivial

@[simp] theorem chainsFrom_cons {source : String} {hop : Hop} {rest : List Hop} :
    ChainsFrom source (hop :: rest) ↔ hop.source = source ∧ ChainsFrom hop.target rest :=
  Iff.rfl

end RelationPath

namespace Hop

/-- The relation a hop follows and the class it goes to are names. -/
def Named (hop : Hop) : Prop :=
  RelationPath.IsName hop.property.toList ∧ RelationPath.IsName hop.target.toList

/-- What a hop writes after its source: its direction, its relation and the class it goes to. -/
def written (hop : Hop) : Direction × List Char × List Char :=
  (hop.direction, hop.property.toList, hop.target.toList)

/-- A hop's spelling after its source, as characters. -/
def spelling (hop : Hop) : List Char :=
  RelationPath.hopSpelling hop.direction hop.property.toList hop.target.toList

theorem spelling_ne_nil (hop : Hop) : hop.spelling ≠ [] :=
  RelationPath.hopSpelling_ne_nil _ _ _

theorem toList_step (hop : Hop) : hop.step.toList = hop.spelling := by
  cases direction : hop.direction <;>
    simp [step, spelling, RelationPath.hopSpelling, direction]

end Hop

namespace RelationPath

open Pattern

/-! ### The syntax of paths -/

/-- The spellings of paths, as the pattern `N((\(N\)>|<\(N\))N)+` with `N = [A-Za-z0-9_-]+`
gives them: a name, then one or more hops, each a relation and a class written `(relation)>Class`
or `<(relation)Class`. -/
def PathSyntax (chars : List Char) : Prop :=
  ∃ (start : List Char) (written : List (Direction × List Char × List Char)),
    IsName start ∧ written ≠ [] ∧ (∀ hop ∈ written, IsName hop.2.1 ∧ IsName hop.2.2) ∧
      chars = start ++ written.flatMap fun hop => hopSpelling hop.1 hop.2.1 hop.2.2

/-- The hop of the path pattern accepts exactly the spelling of a hop with a named relation and
a named class. -/
theorem accepts_pathHop_iff {chars : List Char} :
    pathHop.Accepts chars ↔ ∃ direction relation target, IsName relation ∧ IsName target ∧
      chars = hopSpelling direction relation target := by
  simp only [pathHop, accepts_seq, accepts_alt, accepts_char, accepts_namePattern_iff]
  constructor
  · rintro ⟨_, target, rfl, (⟨_, _, rfl, rfl, relation, _, rfl, relationName, _, _, rfl, rfl, rfl⟩ |
      ⟨_, _, rfl, rfl, _, _, rfl, rfl, relation, _, rfl, relationName, rfl⟩), targetName⟩
    · exact ⟨.active, relation, target, relationName, targetName, by simp [hopSpelling]⟩
    · exact ⟨.passive, relation, target, relationName, targetName, by simp [hopSpelling]⟩
  · rintro ⟨direction, relation, target, relationName, targetName, rfl⟩
    cases direction with
    | active =>
      exact ⟨_, target, by simp [hopSpelling], Or.inl ⟨['('], _, rfl, rfl, relation, [')', '>'],
        rfl, relationName, [')'], ['>'], rfl, rfl, rfl⟩, targetName⟩
    | passive =>
      exact ⟨_, target, by simp [hopSpelling], Or.inr ⟨['<'], _, rfl, rfl, ['('], _, rfl, rfl,
        relation, [')'], rfl, relationName, rfl⟩, targetName⟩

/-- Rounds that each spell a hop with a named relation and class spell a list of written hops. -/
theorem exists_written_of_rounds : ∀ {rounds : List (List Char)},
    (∀ round ∈ rounds, ∃ direction relation target, IsName relation ∧ IsName target ∧
      round = hopSpelling direction relation target) →
    ∃ written : List (Direction × List Char × List Char),
      rounds = written.map (fun hop => hopSpelling hop.1 hop.2.1 hop.2.2) ∧
        ∀ hop ∈ written, IsName hop.2.1 ∧ IsName hop.2.2
  | [], _ => ⟨[], rfl, by simp⟩
  | _ :: _, spelled => by
    obtain ⟨⟨direction, relation, target, relationName, targetName, rfl⟩, restSpelled⟩ :=
      List.forall_mem_cons.mp spelled
    obtain ⟨written, rfl, named⟩ := exists_written_of_rounds restSpelled
    exact ⟨(direction, relation, target) :: written, rfl,
      List.forall_mem_cons.mpr ⟨⟨relationName, targetName⟩, named⟩⟩

/-- The path pattern accepts exactly the path syntax. -/
theorem accepts_pathPattern_iff {chars : List Char} :
    pathPattern.Accepts chars ↔ PathSyntax chars := by
  have consumes : ∀ round, pathHop.Accepts round → round ≠ [] := by
    intro round accepted
    obtain ⟨direction, relation, target, -, -, rfl⟩ := accepts_pathHop_iff.mp accepted
    exact hopSpelling_ne_nil direction relation target
  simp only [pathPattern, accepts_seq, accepts_namePattern_iff,
    accepts_plus_iff_of_ne_nil consumes, accepts_pathHop_iff]
  constructor
  · rintro ⟨start, _, rfl, startName, rounds, nonempty, rfl, spelled⟩
    obtain ⟨written, rfl, named⟩ := exists_written_of_rounds spelled
    exact ⟨start, written, startName, by simpa using nonempty, named, by rw [List.flatMap_def]⟩
  · rintro ⟨start, written, startName, nonempty, named, rfl⟩
    refine ⟨start, _, rfl, startName, written.map fun hop => hopSpelling hop.1 hop.2.1 hop.2.2,
      by simpa using nonempty, List.flatMap_def, ?_⟩
    simp only [List.mem_map]
    rintro _ ⟨⟨direction, relation, target⟩, listed, rfl⟩
    exact ⟨direction, relation, target, (named _ listed).1, (named _ listed).2, rfl⟩

/-! ### Reading the hops one match after another -/

/-- The hop pattern at the front of a named hop's spelling, followed by what does not continue its
class, matches that spelling, and `hopsOf` reads its captures back as the hop. -/
theorem findAtStart_hopPattern {hop : Hop} (named : hop.Named) {after : List Char}
    (stops : Stops after) :
    ∃ found, hopPattern.findAtStart (hop.spelling ++ after) = some (found, after) ∧
      ∀ more, hopsOf hop.source (found :: more) = hop :: hopsOf hop.target more := by
  obtain ⟨direction, source, target, property⟩ := hop
  obtain ⟨relationName, targetName⟩ := named
  have targetHead (captures : Captures) :=
    head?_run_group_namePattern 3 captures targetName stops
  cases direction with
  | active =>
    have relationHead : (run (.seq (.group 1 namePattern) (.seq (.char ')') (.char '>')))
        Captures.empty (property.toList ++ ')' :: '>' :: (target.toList ++ after))).head? =
        some (Captures.empty.set 1 property.toList, target.toList ++ after) :=
      head?_run_seq (head?_run_group_namePattern 1 _ relationName (stops_cons (by decide)))
        (by simp [run_seq])
    refine ⟨(Captures.empty.set 1 property.toList).set 3 target.toList, ?_, fun more => ?_⟩
    · simp only [Hop.spelling, hopSpelling, List.cons_append, List.append_assoc, findAtStart,
        hopPattern]
      exact head?_run_seq (head?_run_alt_of_head? (head?_run_seq (by simp) relationHead))
        (targetHead _)
    · simp [hopsOf]
  | passive =>
    have bracketHead : (run (.seq (.group 2 namePattern) (.char ')'))
        Captures.empty (property.toList ++ ')' :: (target.toList ++ after))).head? =
        some (Captures.empty.set 2 property.toList, target.toList ++ after) :=
      head?_run_seq (head?_run_group_namePattern 2 _ relationName (stops_cons (by decide)))
        (by simp)
    have relationHead : (run (.seq (.char '(') (.seq (.group 2 namePattern) (.char ')')))
        Captures.empty ('(' :: (property.toList ++ ')' :: (target.toList ++ after)))).head? =
        some (Captures.empty.set 2 property.toList, target.toList ++ after) :=
      head?_run_seq (by simp) bracketHead
    refine ⟨(Captures.empty.set 2 property.toList).set 3 target.toList, ?_, fun more => ?_⟩
    · simp only [Hop.spelling, hopSpelling, List.cons_append, List.append_assoc, findAtStart,
        hopPattern]
      refine head?_run_seq ?_ (targetHead _)
      rw [head?_run_alt_of_eq_nil (by simp [run_seq])]
      exact head?_run_seq (by simp) relationHead
    · simp [hopsOf]

/-- Iterating the hop pattern over the spelling of named hops chained from a class finds one
match per hop, each where the last one ended, and `hopsOf` reads the captures back as the hops.
The induction is on the hops; what is left to search shrinks by one hop's spelling each time. -/
theorem hopsOf_capturesFrom {source : String} {hops : List Hop} {rounds : Nat}
    (chained : ChainsFrom source hops) (named : ∀ hop ∈ hops, hop.Named)
    (bounded : (hops.flatMap Hop.spelling).length < rounds) :
    hopsOf source (hopPattern.capturesFrom rounds (hops.flatMap Hop.spelling)) = hops := by
  induction hops generalizing source rounds with
  | nil =>
    have missed : hopPattern.search [] = none := by
      simp [search, findAtStart, hopPattern, run_seq, run_alt]
    rw [List.flatMap_nil, capturesFrom_of_search_eq_none missed]
    rfl
  | cons hop more inductionHypothesis =>
    obtain ⟨rfl, moreChained⟩ := chainsFrom_cons.mp chained
    obtain ⟨hopNamed, moreNamed⟩ := List.forall_mem_cons.mp named
    have moreStops : Stops (more.flatMap Hop.spelling) := by
      cases more with
      | nil => exact stops_nil
      | cons next rest => exact stops_hopSpelling_append _ _ _ _
    obtain ⟨found, atStart, readBack⟩ := findAtStart_hopPattern hopNamed moreStops
    have consumed : (more.flatMap Hop.spelling).length <
        (hop.spelling ++ more.flatMap Hop.spelling).length := by
      have spelled := List.length_pos_of_ne_nil hop.spelling_ne_nil
      simp only [List.length_append]
      omega
    obtain ⟨rounds, rfl⟩ : ∃ previous, rounds = previous + 1 :=
      Nat.exists_eq_add_one_of_ne_zero (by omega)
    have searched := search_of_findAtStart (List.append_ne_nil_of_left_ne_nil hop.spelling_ne_nil _)
      atStart
    rw [List.flatMap_cons, capturesFrom_succ_of_search searched consumed, readBack,
      inductionHypothesis moreChained moreNamed (by simp only [List.flatMap_cons] at bounded; omega)]

/-- Iterating the hop pattern over the spelling of named hops chained from a class reads back
the hops. -/
theorem hopsOf_capturesIter {source : String} {hops : List Hop} (chained : ChainsFrom source hops)
    (named : ∀ hop ∈ hops, hop.Named) :
    hopsOf source (hopPattern.capturesIter (hops.flatMap Hop.spelling)) = hops :=
  hopsOf_capturesFrom chained named (Nat.lt_succ_self _)

/-! ### Well-formed paths -/

/-- The text of a path taking `elements`: the first hop's source, then every hop written
`(relation)>Target` or `<(relation)Target`. -/
def render : List Hop → String
  | [] => ""
  | first :: rest => first.source ++ String.join ((first :: rest).map Hop.step)

theorem toList_render_cons (first : Hop) (rest : List Hop) :
    (render (first :: rest)).toList = first.source.toList ++ (first :: rest).flatMap Hop.spelling := by
  simp [render, String.toList_join, List.flatMap_map, Hop.toList_step]

@[simp] theorem source_cons (first : Hop) (rest : List Hop) (canonical : String) :
    RelationPath.source ⟨first :: rest, canonical⟩ = first.source := rfl

/-- A well-formed path: it takes at least one hop, the classes and relations it names are names,
each hop starts where the one before it ends, and its canonical text renders its hops. -/
structure WellFormed (path : RelationPath) : Prop where
  nonempty : path.elements ≠ []
  sourceNamed : IsName path.source.toList
  named : ∀ hop ∈ path.elements, hop.Named
  chained : path.elements.IsChain fun hop next => hop.target = next.source
  rendered : path.canonical = render path.elements

namespace WellFormed

variable {path : RelationPath}

/-- The canonical text of a well-formed path is its source followed by the spelling of every
hop. -/
theorem toList_canonical (formed : path.WellFormed) :
    path.canonical.toList = path.source.toList ++ path.elements.flatMap Hop.spelling := by
  obtain ⟨elements, canonical⟩ := path
  obtain ⟨first, rest, rfl⟩ := List.exists_cons_of_ne_nil formed.nonempty
  rw [formed.rendered, toList_render_cons]
  rfl

/-- The hops of a well-formed path start with a bracket. -/
theorem stops_hops (formed : path.WellFormed) : Stops (path.elements.flatMap Hop.spelling) := by
  obtain ⟨first, rest, split⟩ := List.exists_cons_of_ne_nil formed.nonempty
  rw [split, List.flatMap_cons]
  exact stops_hopSpelling_append _ _ _ _

end WellFormed

/-- Hops chained from the first one's source are the hops that each start where the one
before them ends. -/
theorem chainsFrom_iff_isChain {first : Hop} {rest : List Hop} :
    ChainsFrom first.source (first :: rest) ↔
      (first :: rest).IsChain fun hop next => hop.target = next.source := by
  induction rest generalizing first with
  | nil => simp
  | cons next more inductionHypothesis =>
    rw [List.isChain_cons_cons, ← inductionHypothesis]
    simp only [chainsFrom_cons, true_and]
    exact and_congr_left' eq_comm

theorem flatMap_spelling (hops : List Hop) :
    hops.flatMap Hop.spelling =
      (hops.map Hop.written).flatMap fun hop => hopSpelling hop.1 hop.2.1 hop.2.2 := by
  simp only [List.flatMap_map]
  rfl

/-- Written hops, chained from any class, are what as many named hops write. -/
theorem exists_hops_of_written :
    ∀ (source : String) (written : List (Direction × List Char × List Char)),
      (∀ hop ∈ written, IsName hop.2.1 ∧ IsName hop.2.2) →
        ∃ hops : List Hop, ChainsFrom source hops ∧ (∀ hop ∈ hops, hop.Named) ∧
          hops.map Hop.written = written
  | _, [], _ => ⟨[], by simp⟩
  | source, (direction, relation, target) :: rest, named => by
    obtain ⟨⟨relationName, targetName⟩, restNamed⟩ := List.forall_mem_cons.mp named
    obtain ⟨more, moreChained, moreNamed, moreWritten⟩ :=
      exists_hops_of_written (String.ofList target) rest restNamed
    refine ⟨⟨direction, source, String.ofList target, String.ofList relation⟩ :: more,
      ⟨rfl, moreChained⟩, List.forall_mem_cons.mpr ⟨?_, moreNamed⟩, ?_⟩
    · simpa [Hop.Named] using ⟨relationName, targetName⟩
    · simp [Hop.written, moreWritten]

/-- A class followed by written hops is the source and the hops of a well-formed path spelled
as them. -/
theorem exists_wellFormed_of_written {start : List Char}
    {written : List (Direction × List Char × List Char)} (startName : IsName start)
    (someHop : written ≠ []) (named : ∀ hop ∈ written, IsName hop.2.1 ∧ IsName hop.2.2) :
    ∃ path : RelationPath, path.WellFormed ∧ path.source.toList = start ∧
      path.elements.map Hop.written = written ∧
      path.canonical.toList = start ++ written.flatMap fun hop => hopSpelling hop.1 hop.2.1 hop.2.2 := by
  obtain ⟨hops, chained, hopsNamed, rfl⟩ :=
    exists_hops_of_written (String.ofList start) written named
  cases hops with
  | nil => exact absurd List.map_nil someHop
  | cons first more =>
    obtain ⟨startsHere, -⟩ := chainsFrom_cons.mp chained
    have sourceEq : first.source.toList = start := by rw [startsHere, String.toList_ofList]
    have isChain : (first :: more).IsChain fun hop next => hop.target = next.source := by
      rw [← chainsFrom_iff_isChain, startsHere]
      exact chained
    refine ⟨⟨first :: more, render (first :: more)⟩,
      ⟨List.cons_ne_nil _ _, sourceEq ▸ startName, hopsNamed, isChain, rfl⟩, sourceEq, rfl, ?_⟩
    rw [toList_render_cons, sourceEq, flatMap_spelling]

/-- The spellings of paths are exactly the canonical texts of well-formed paths. -/
theorem pathSyntax_iff {chars : List Char} :
    PathSyntax chars ↔ ∃ path : RelationPath, path.WellFormed ∧ path.canonical.toList = chars := by
  constructor
  · rintro ⟨start, written, startName, someHop, named, rfl⟩
    obtain ⟨path, formed, -, -, spelled⟩ := exists_wellFormed_of_written startName someHop named
    exact ⟨path, formed, spelled⟩
  · rintro ⟨path, formed, rfl⟩
    refine ⟨path.source.toList, path.elements.map Hop.written, formed.sourceNamed,
      by simpa using formed.nonempty, ?_, ?_⟩
    · simp only [List.mem_map]
      rintro _ ⟨hop, member, rfl⟩
      exact formed.named hop member
    · rw [formed.toList_canonical, flatMap_spelling]

/-! ### Reading a path -/

/-- The one path a well-formed spelling is read as: the first pass accepts it, the name pattern
finds its source and the hop pattern its hops. -/
theorem parse_of_wellFormed {text : String} {path : RelationPath} (formed : path.WellFormed)
    (spelled : path.canonical.toList = compact text) : parse text = .ok path := by
  obtain ⟨elements, canonical⟩ := path
  obtain ⟨first, rest, rfl⟩ := List.exists_cons_of_ne_nil formed.nonempty
  have compactEq : compact text = first.source.toList ++ (first :: rest).flatMap Hop.spelling := by
    rw [← spelled, formed.toList_canonical]
    rfl
  have notEmpty : (compact text).isEmpty = false := by
    rw [compactEq, List.isEmpty_eq_false_iff]
    exact fun empty => formed.sourceNamed.1 (List.append_eq_nil_iff.mp empty).1
  have whole : pathPattern.matchesWhole (compact text) = true :=
    matchesWhole_iff.mpr (accepts_pathPattern_iff.mpr (pathSyntax_iff.mpr ⟨_, formed, spelled⟩))
  have leading : namePattern.findAtStart (compact text) =
      some (Captures.empty, (first :: rest).flatMap Hop.spelling) := by
    rw [compactEq]
    exact head?_run_namePattern formed.sourceNamed formed.stops_hops Captures.empty
  have leadingText : String.ofList ((compact text).take
      ((compact text).length - ((first :: rest).flatMap Hop.spelling).length)) = first.source := by
    rw [compactEq]
    simp
  have hopsRead : hopsOf first.source
      (hopPattern.capturesIter ((first :: rest).flatMap Hop.spelling)) = first :: rest :=
    hopsOf_capturesIter (chainsFrom_iff_isChain.mpr formed.chained) formed.named
  have canonicalEq : String.ofList (compact text) = canonical := by
    rw [← spelled, String.ofList_toList]
  simp only [parse, notEmpty, whole, leading, Bool.not_true, Bool.false_eq_true, ↓reduceIte]
  rw [leadingText, hopsRead, canonicalEq]

/-- A text read as a path is in the path syntax: the first pass accepted it. -/
theorem pathSyntax_of_parse {text : String} {path : RelationPath} (read : parse text = .ok path) :
    PathSyntax (compact text) := by
  simp only [parse] at read
  split at read
  · cases read
  · split at read
    · cases read
    · next accepted =>
      exact accepts_pathPattern_iff.mp (matchesWhole_iff.mp (by simpa using accepted))

/-- What reading a path gives is well formed, its canonical text the characters it was read
from. -/
theorem wellFormed_of_parse {text : String} {path : RelationPath} (read : parse text = .ok path) :
    path.WellFormed ∧ path.canonical.toList = compact text := by
  obtain ⟨other, formed, spelled⟩ := pathSyntax_iff.mp (pathSyntax_of_parse read)
  have same := (parse_of_wellFormed formed spelled).symm.trans read
  rw [Except.ok.injEq] at same
  exact same ▸ ⟨formed, spelled⟩

/-- Reading a path succeeds exactly with the well-formed path whose canonical text is the
characters that are not blank. -/
theorem parse_eq_ok_iff {text : String} {path : RelationPath} :
    parse text = .ok path ↔ path.WellFormed ∧ path.canonical.toList = compact text :=
  ⟨wellFormed_of_parse, fun ⟨formed, spelled⟩ => parse_of_wellFormed formed spelled⟩

/-- Reading a path fails with `empty` on blanks alone and with `invalidSyntax`, for want of hops,
on the other texts outside the path syntax; the class at the start is never found missing. -/
theorem parse_eq_error_iff {text : String} {failure : PathError} :
    parse text = .error failure ↔
      (compact text = [] ∧ failure = .empty) ∨
        (compact text ≠ [] ∧ ¬PathSyntax (compact text) ∧
          failure = .invalidSyntax text hopsExpected) := by
  by_cases nothing : compact text = []
  · have empty : parse text = .error .empty := by simp [parse, nothing]
    rw [empty]
    simp [nothing, eq_comm]
  · by_cases spelled : PathSyntax (compact text)
    · obtain ⟨path, formed, canonical⟩ := pathSyntax_iff.mp spelled
      rw [parse_of_wellFormed formed canonical]
      simp [nothing, spelled]
    · have refused : pathPattern.matchesWhole (compact text) = false := by
        rw [← Bool.not_eq_true, matchesWhole_iff, accepts_pathPattern_iff]
        exact spelled
      have invalid : parse text = .error (.invalidSyntax text hopsExpected) := by
        simp [parse, nothing, refused]
      rw [invalid]
      simp [nothing, spelled, eq_comm]

/-- A path read from a text starts at the longest name in front of the text. -/
theorem source_of_parse {text : String} {path : RelationPath} (read : parse text = .ok path) :
    path.source.toList = (compact text).takeWhile isNameChar := by
  obtain ⟨formed, spelled⟩ := wellFormed_of_parse read
  rw [← spelled, formed.toList_canonical, takeWhile_append_stops formed.sourceNamed.2 formed.stops_hops]

/-- A path read from a text takes the hops the text writes: however the text is split into a
class and written hops, the path starts at that class and its hops write those hops. -/
theorem written_of_parse {text : String} {path : RelationPath} (read : parse text = .ok path)
    {start : List Char} {written : List (Direction × List Char × List Char)}
    (startName : IsName start) (someHop : written ≠ [])
    (named : ∀ hop ∈ written, IsName hop.2.1 ∧ IsName hop.2.2)
    (split : compact text = start ++ written.flatMap fun hop => hopSpelling hop.1 hop.2.1 hop.2.2) :
    path.source.toList = start ∧ path.elements.map Hop.written = written := by
  obtain ⟨other, formed, sourceEq, writtenEq, spelled⟩ :=
    exists_wellFormed_of_written startName someHop named
  have same := (parse_of_wellFormed formed (spelled.trans split.symm)).symm.trans read
  rw [Except.ok.injEq] at same
  exact same ▸ ⟨sourceEq, writtenEq⟩

/-- Reading a relation path accepts exactly the path syntax, once blanks are dropped, and the two
passes of regular expressions agree. It fails with `empty` exactly when nothing but blanks is
given, with `invalidSyntax` quoting the text as given exactly when the rest is not in the
syntax, and then always because hops were expected, never because the class at the start is
missing. It succeeds exactly when the rest is in the syntax, with the one well-formed path whose
canonical text is that rest: it takes at least one hop, each starting where the one before it
ends, the first at the leading name, and rendering the source and then every hop as
`(relation)>Class` or `<(relation)Class` gives back the rest. Its hops are the ones written,
however the rest is split into a class and hops. -/
theorem parse_accepts_exactly_pathSyntax (text : String) :
    (parse text = .error .empty ↔ compact text = []) ∧
    ((∃ reason, parse text = .error (.invalidSyntax text reason)) ↔
      compact text ≠ [] ∧ ¬PathSyntax (compact text)) ∧
    (∀ failure, parse text = .error failure →
      failure = .empty ∨ failure = .invalidSyntax text hopsExpected) ∧
    ((∃ path, parse text = .ok path) ↔ PathSyntax (compact text)) ∧
    (∀ path, parse text = .ok path ↔ path.WellFormed ∧ path.canonical.toList = compact text) ∧
    ∀ path, parse text = .ok path →
      path.source.toList = (compact text).takeWhile isNameChar ∧
      ∀ start written, IsName start → written ≠ [] →
        (∀ hop ∈ written, IsName hop.2.1 ∧ IsName hop.2.2) →
        compact text = start ++ written.flatMap (fun hop => hopSpelling hop.1 hop.2.1 hop.2.2) →
          path.source.toList = start ∧ path.elements.map Hop.written = written := by
  refine ⟨?_, ?_, ?_, ?_, fun path => parse_eq_ok_iff, fun path read =>
    ⟨source_of_parse read, fun start written startName someHop named split =>
      written_of_parse read startName someHop named split⟩⟩
  · rw [parse_eq_error_iff]
    simp
  · simp only [parse_eq_error_iff]
    constructor
    · rintro ⟨reason, ⟨-, failed⟩ | ⟨something, unspelled, -⟩⟩
      · cases failed
      · exact ⟨something, unspelled⟩
    · rintro ⟨something, unspelled⟩
      exact ⟨hopsExpected, Or.inr ⟨something, unspelled, rfl⟩⟩
  · intro failure failed
    rcases parse_eq_error_iff.mp failed with ⟨-, rfl⟩ | ⟨-, -, rfl⟩
    · exact Or.inl rfl
    · exact Or.inr rfl
  · constructor
    · rintro ⟨path, read⟩
      exact pathSyntax_of_parse read
    · intro spelled
      obtain ⟨path, formed, canonical⟩ := pathSyntax_iff.mp spelled
      exact ⟨path, parse_of_wellFormed formed canonical⟩

/-! ### The canonical text read back -/

/-- A name character is an ASCII letter, digit, `_` or `-`, and no blank. -/
theorem isBlank_eq_false_of_isNameChar {c : Char} (named : isNameChar c = true) :
    Text.isBlank c = false := by
  have ascii : (65 ≤ c.toNat ∧ c.toNat ≤ 90) ∨ (97 ≤ c.toNat ∧ c.toNat ≤ 122) ∨
      (48 ≤ c.toNat ∧ c.toNat ≤ 57) ∨ c.toNat = 95 ∨ c.toNat = 45 := by
    simp only [isNameChar, Bool.or_eq_true, Bool.and_eq_true, decide_eq_true_eq,
      beq_iff_eq] at named
    rcases named with ((((upper | lower) | digit) | underscore) | dash)
    · exact Or.inl ⟨upper.1, upper.2⟩
    · exact Or.inr (Or.inl ⟨lower.1, lower.2⟩)
    · exact Or.inr (Or.inr (Or.inl ⟨digit.1, digit.2⟩))
    · exact Or.inr (Or.inr (Or.inr (Or.inl (by simp [underscore]))))
    · exact Or.inr (Or.inr (Or.inr (Or.inr (by simp [dash]))))
  simp only [Text.isBlank, Text.blankRanges, List.any_cons, List.any_nil, Bool.or_false,
    Bool.or_eq_false_iff, Bool.and_eq_false_iff, decide_eq_false_iff_not, Nat.not_le]
  omega

/-- The canonical text of a well-formed path has no blanks. -/
theorem compact_canonical {path : RelationPath} (formed : path.WellFormed) :
    compact path.canonical = path.canonical.toList := by
  have nameNotBlank : ∀ {name : List Char}, IsName name → ∀ c ∈ name, Text.isBlank c = false :=
    fun named c member => isBlank_eq_false_of_isNameChar (named.2 c member)
  refine List.filter_eq_self.mpr fun c member => ?_
  rw [formed.toList_canonical, List.mem_append, List.mem_flatMap] at member
  rcases member with inSource | ⟨hop, listed, inHop⟩
  · simp [nameNotBlank formed.sourceNamed c inSource]
  · obtain ⟨relationName, targetName⟩ := formed.named hop listed
    simp only [Hop.spelling] at inHop
    cases direction : hop.direction <;>
      simp only [direction, hopSpelling, List.mem_cons, List.mem_append] at inHop
    · rcases inHop with (rfl | inRelation) | rfl | rfl | inTarget
      · decide
      · simp [nameNotBlank relationName c inRelation]
      · decide
      · decide
      · simp [nameNotBlank targetName c inTarget]
    · rcases inHop with (rfl | rfl | inRelation) | rfl | inTarget
      · decide
      · decide
      · simp [nameNotBlank relationName c inRelation]
      · decide
      · simp [nameNotBlank targetName c inTarget]

/-- A well-formed path is read back from its canonical text. -/
theorem parse_canonical {path : RelationPath} (formed : path.WellFormed) :
    parse path.canonical = .ok path :=
  parse_of_wellFormed formed (compact_canonical formed).symm

theorem beq_eq (path other : RelationPath) : (path == other) = (path.canonical == other.canonical) :=
  rfl

/-- Two well-formed paths are equal, comparing their canonical texts, exactly when they take the
same hops. -/
theorem beq_iff_elements_eq {path other : RelationPath} (formed : path.WellFormed)
    (otherFormed : other.WellFormed) : (path == other) = true ↔ path.elements = other.elements := by
  rw [beq_eq, beq_iff_eq]
  constructor
  · intro same
    have read : parse path.canonical = .ok other := by
      rw [same]
      exact parse_canonical otherFormed
    have paths := (parse_canonical formed).symm.trans read
    rw [Except.ok.injEq] at paths
    rw [paths]
  · intro same
    rw [formed.rendered, otherFormed.rendered, same]

end RelationPath

end Recast
