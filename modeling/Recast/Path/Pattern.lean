/-!
Regular expressions as the path reader runs them.

Relation paths are read with three regular expressions built from a pattern for names; the
engine that runs them finds leftmost-first matches. A search takes the first position where the
pattern matches, and there the match that a backtracking engine meets first: the left one of two
alternatives, and in a greedy repetition one more round before stopping. `Pattern.run` lists the
matches of a pattern at the front of a text in that order, each with the texts its groups
captured and the text after it, so the engine's match is the head of the list.

A repetition takes its rounds only while they consume characters, so the number of rounds is
bounded by the length of the text; `run` gives the repetition that bound plus one.
-/

namespace Recast

/-- The texts the numbered groups of a pattern captured; a group that took no part is unset. -/
def Captures := Nat → Option (List Char)

namespace Captures

/-- No group captured yet. -/
def empty : Captures := fun _ => none

/-- What group `index` captured. -/
def get (captures : Captures) (index : Nat) : Option (List Char) :=
  captures index

/-- Group `index` captures `text`; the other groups keep what they captured. -/
def set (captures : Captures) (index : Nat) (text : List Char) : Captures :=
  fun other => if other = index then some text else captures other

instance : Inhabited Captures := ⟨empty⟩

@[simp] theorem get_empty (index : Nat) : empty.get index = none := rfl

@[simp] theorem get_set_self (captures : Captures) (index : Nat) (text : List Char) :
    (captures.set index text).get index = some text := by
  simp [get, set]

@[simp] theorem get_set_of_ne (captures : Captures) {index other : Nat} (text : List Char)
    (differ : other ≠ index) : (captures.set index text).get other = captures.get other := by
  simp [get, set, differ]

end Captures

/-- A regular expression, as far as the path reader needs one. -/
inductive Pattern where
  /-- One character of a set. -/
  | set (member : Char → Bool)
  /-- One given character. -/
  | char (expected : Char)
  /-- One pattern, then the other. -/
  | seq (first second : Pattern)
  /-- Either pattern, the first preferred. -/
  | alt (first second : Pattern)
  /-- One or more rounds of a pattern, as many as possible preferred. -/
  | plus (body : Pattern)
  /-- A numbered group, capturing what its pattern matches. -/
  | group (index : Nat) (body : Pattern)
  deriving Inhabited

namespace Pattern

/-- The matches of a greedy repetition at the front of a text, most preferred first: after each
match of one round come the matches that go on with further rounds, and only then the match that
stops there. A round that consumes nothing ends the repetition, and at most `rounds` rounds are
taken. -/
def repeatGreedy (once : Captures → List Char → List (Captures × List Char)) :
    Nat → Captures → List Char → List (Captures × List Char)
  | 0, _, _ => []
  | rounds + 1, captures, chars =>
    (once captures chars).flatMap fun found =>
      (if found.2.length < chars.length then repeatGreedy once rounds found.1 found.2 else []) ++
        [found]

/-- The matches of a pattern at the front of a text, in the order a backtracking engine meets
them, each with the captures it made and the text after it. -/
def run : Pattern → Captures → List Char → List (Captures × List Char)
  | .set member, captures, chars =>
    match chars with
    | c :: rest => if member c then [(captures, rest)] else []
    | [] => []
  | .char expected, captures, chars =>
    match chars with
    | c :: rest => if c = expected then [(captures, rest)] else []
    | [] => []
  | .seq first second, captures, chars =>
    (run first captures chars).flatMap fun found => run second found.1 found.2
  | .alt first second, captures, chars => run first captures chars ++ run second captures chars
  | .plus body, captures, chars => repeatGreedy (run body) (chars.length + 1) captures chars
  | .group index body, captures, chars =>
    (run body captures chars).map fun found =>
      (found.1.set index (chars.take (chars.length - found.2.length)), found.2)

@[simp] theorem run_set_cons (member : Char → Bool) (captures : Captures) (c : Char)
    (rest : List Char) :
    run (.set member) captures (c :: rest) = if member c then [(captures, rest)] else [] := rfl

@[simp] theorem run_set_nil (member : Char → Bool) (captures : Captures) :
    run (.set member) captures [] = [] := rfl

@[simp] theorem run_char_cons (expected : Char) (captures : Captures) (c : Char)
    (rest : List Char) :
    run (.char expected) captures (c :: rest) = if c = expected then [(captures, rest)] else [] :=
  rfl

@[simp] theorem run_char_nil (expected : Char) (captures : Captures) :
    run (.char expected) captures [] = [] := rfl

theorem run_seq (first second : Pattern) (captures : Captures) (chars : List Char) :
    run (.seq first second) captures chars =
      (run first captures chars).flatMap fun found => run second found.1 found.2 := rfl

theorem run_alt (first second : Pattern) (captures : Captures) (chars : List Char) :
    run (.alt first second) captures chars = run first captures chars ++ run second captures chars :=
  rfl

theorem run_plus (body : Pattern) (captures : Captures) (chars : List Char) :
    run (.plus body) captures chars =
      repeatGreedy (run body) (chars.length + 1) captures chars := rfl

theorem run_group (index : Nat) (body : Pattern) (captures : Captures) (chars : List Char) :
    run (.group index body) captures chars =
      (run body captures chars).map fun found =>
        (found.1.set index (chars.take (chars.length - found.2.length)), found.2) := rfl

/-- Whether the whole text matches, as a pattern anchored at both ends asks. -/
def matchesWhole (pattern : Pattern) (chars : List Char) : Bool :=
  (run pattern Captures.empty chars).any fun found => found.2.isEmpty

/-- The match at the start of the text, as a pattern anchored at the start finds it. -/
def findAtStart (pattern : Pattern) (chars : List Char) : Option (Captures × List Char) :=
  (run pattern Captures.empty chars).head?

/-- The leftmost-first match anywhere in the text: the preferred match at the first position
where the pattern matches, with the text from that position on and the text after the match. -/
def search (pattern : Pattern) : List Char → Option (Captures × List Char × List Char)
  | [] => (findAtStart pattern []).map fun found => (found.1, [], found.2)
  | c :: rest =>
    match findAtStart pattern (c :: rest) with
    | some found => some (found.1, c :: rest, found.2)
    | none => search pattern rest

/-- The captures of successive matches, each search starting where the last match ended, as
iterating over captures gives them. After a match of nothing the next search starts one
character on; `rounds` bounds the matches. -/
def capturesFrom (pattern : Pattern) : Nat → List Char → List Captures
  | 0, _ => []
  | rounds + 1, chars =>
    match search pattern chars with
    | none => []
    | some found =>
      found.1 :: capturesFrom pattern rounds
        (if found.2.2.length < found.2.1.length then found.2.2 else found.2.1.drop 1)

/-- The captures of every match in the text, one after another. Each match starts further on than
the last, so the length of the text plus one bounds them. -/
def capturesIter (pattern : Pattern) (chars : List Char) : List Captures :=
  capturesFrom pattern (chars.length + 1) chars

end Pattern

end Recast
