import Recast.Unicode.Tables
import Recast.Unicode.Data.Idna
import Recast.Unicode.Data.Bidi
/-!
Internationalized domain names: the processing of UTS #46 that turns a domain name into the
ASCII form the domain name system carries, with the rules of IDNA2008 that look at a character's
neighbours.

Processing maps every code point through the IDNA mapping table (Unicode 17.0): valid points
and deviations stay (processing is not transitional), ignored points vanish, mapped points are
replaced, and a disallowed point fails the name. The STD3 rules then allow no ASCII character but
lower-case letters, digits, the hyphen and the dot, which splits the labels. An A-label, one that
starts with `xn--`, is decoded from Punycode (RFC 3492); it must then hold a point beyond ASCII
and only points the table keeps as they are. Each label is checked in its Unicode form:

* no hyphen at its start or end, and none in both its third and fourth places;
* no combining mark at its start;
* a zero width joiner only after a virama, and a zero width non-joiner after a virama or between
  a left- or dual-joining letter and a right- or dual-joining one, with transparent letters
  between;
* in a name that holds a right-to-left letter or an Arabic digit anywhere, the bidi rule of
  RFC 5893 in every label.

A label beyond ASCII is written `xn--` and its Punycode. The name is then held to the lengths of
the domain name system: at most 253 characters, no empty label, no label over 63, and no dot at
the end.

The contextual rules of IDNA2008 are then read on the whole name's Unicode form, with blocks of
code points standing for scripts.
-/

namespace Recast.Unicode

/-! ### Tables by runs -/

/-- A map from code points to values given by the code points where the value changes. -/
structure RunTable (α : Type) where
  starts : Array Nat
  values : Array α

namespace RunTable

/-- The index of the last start at or below `code` among `starts[low, high)`, or `low` when
there is none; each step halves the window, so a fuel of 64 is never the limit. -/
def lastAtOrBelow (starts : Array Nat) (code : Nat) : Nat → Nat → Nat → Nat
  | 0, low, _ => low
  | fuel + 1, low, high =>
    if low + 1 < high then
      let middle := (low + high) / 2
      if code < starts.getD middle 0 then lastAtOrBelow starts code fuel low middle
      else lastAtOrBelow starts code fuel middle high
    else low

/-- The value at a code point. -/
def find {α : Type} [Inhabited α] (table : RunTable α) (code : Nat) : α :=
  table.values.getD (lastAtOrBelow table.starts code 64 0 table.starts.size) default

/-- The table of a map written as code points in hexadecimal, each followed by the value's
name, read by `read`. -/
def parse {α : Type} (read : String → Option α) (text : String) : RunTable α :=
  let pairs := (pairUp (words text)).filterMap fun (start, name) => (read name).map (start, ·)
  ⟨(pairs.map Prod.fst).toArray, (pairs.map Prod.snd).toArray⟩

end RunTable

/-! ### The mapping table -/

/-- What the mapping table does with a code point. -/
inductive IdnaStatus where
  | valid
  | deviation
  | ignored
  | disallowed
  /-- Replaced by these code points. -/
  | mapped (codes : List Nat)
  /-- Replaced by the code point this far away. -/
  | shifted (offset : Int)
  deriving Inhabited

/-- Reads one entry of the mapping table: `start:status`, with the replacement or the offset
after a second colon. -/
def IdnaStatus.read (entry : String) : Option (Nat × IdnaStatus) :=
  match entry.splitOn ":" with
  | [start, "V"] => (hexValue? start).map (·, .valid)
  | [start, "D"] => (hexValue? start).map (·, .deviation)
  | [start, "I"] => (hexValue? start).map (·, .ignored)
  | [start, "X"] => (hexValue? start).map (·, .disallowed)
  | [start, "M", codes] => do
    let start ← hexValue? start
    let codes ← (codes.splitOn ".").mapM hexValue?
    pure (start, .mapped codes)
  | [start, "S", offset] => do
    let start ← hexValue? start
    let offset : Int ← if offset.startsWith "-" then
        (hexValue? (offset.drop 1).toString).map fun n => -(n : Int)
      else (hexValue? offset).map fun n => (n : Int)
    pure (start, .shifted offset)
  | _ => none

/-- The mapping table, read once. -/
def idnaTable : RunTable IdnaStatus :=
  let entries := (words Data.idnaStarts).filterMap IdnaStatus.read
  ⟨(entries.map Prod.fst).toArray, (entries.map Prod.snd).toArray⟩

/-- What a code point becomes: the code points that replace it, or none when it is disallowed. -/
def idnaMap (code : Nat) : Option (List Nat) :=
  match idnaTable.find code with
  | .valid | .deviation => some [code]
  | .ignored => some []
  | .disallowed => none
  | .mapped codes => some codes
  | .shifted offset => some [(code + offset).toNat]

/-! ### Classes the checks use -/

/-- The bidirectional classes that the bidi rule tells apart; every other class is `other`. -/
inductive BidiClass where
  | leftToRight
  | rightToLeft
  | arabicLetter
  | europeanNumber
  | europeanSeparator
  | europeanTerminator
  | arabicNumber
  | commonSeparator
  | nonspacingMark
  | boundaryNeutral
  | otherNeutral
  | other
  deriving Inhabited, BEq

/-- The class a short name stands for. -/
def BidiClass.read : String → Option BidiClass
  | "L" => some .leftToRight
  | "R" => some .rightToLeft
  | "AL" => some .arabicLetter
  | "EN" => some .europeanNumber
  | "ES" => some .europeanSeparator
  | "ET" => some .europeanTerminator
  | "AN" => some .arabicNumber
  | "CS" => some .commonSeparator
  | "NSM" => some .nonspacingMark
  | "BN" => some .boundaryNeutral
  | "ON" => some .otherNeutral
  | _ => some .other

/-- The bidirectional class of every code point, read once. -/
def bidiTable : RunTable BidiClass := RunTable.parse BidiClass.read Data.bidiStarts

/-- The bidirectional class of a code point. -/
def bidiClass (code : Nat) : BidiClass := bidiTable.find code

/-- How a letter joins its neighbours in cursive scripts. -/
inductive JoiningType where
  | nonJoining
  | joinCausing
  | dual
  | left
  | right
  | transparent
  deriving Inhabited, BEq

/-- The joining type a letter stands for. -/
def JoiningType.read : String → Option JoiningType
  | "C" => some .joinCausing
  | "D" => some .dual
  | "L" => some .left
  | "R" => some .right
  | "T" => some .transparent
  | _ => some .nonJoining

/-- The joining type of every code point, read once. -/
def joiningTable : RunTable JoiningType := RunTable.parse JoiningType.read Data.joiningStarts

/-- The joining type of a code point. -/
def joiningType (code : Nat) : JoiningType := joiningTable.find code

/-- The viramas: the code points of canonical combining class 9, which are those that link
graphemes. -/
def viramaTable : CodeTable := (binarySet "Grapheme_Link").table

/-- The combining marks. -/
def markTable : CodeTable := (categorySet ["Mn", "Mc", "Me"]).table

namespace Idna

/-! ### Punycode -/

/-- The threshold of the `k`-th digit under a bias: between 1 and 26. -/
def threshold (k bias : Nat) : Nat :=
  if k ≤ bias then 1 else if bias + 26 ≤ k then 26 else k - bias

theorem threshold_pos (k bias : Nat) : 1 ≤ threshold k bias := by
  unfold threshold
  split
  · omega
  · split <;> omega

theorem threshold_le (k bias : Nat) : threshold k bias ≤ 26 := by
  unfold threshold
  split
  · omega
  · split <;> omega

/-- The letter of a digit: `a` to `z` for 0 to 25, `0` to `9` for 26 to 35. -/
def digitChar (d : Nat) : Char :=
  if d < 26 then Char.ofNat (0x61 + d) else Char.ofNat (0x30 + d - 26)

/-- Divides the delta by 35 until it is at most 455, counting the steps by 36. -/
def scaleDown (delta k : Nat) : Nat × Nat :=
  if 455 < delta then scaleDown (delta / 35) (k + 36) else (delta, k)
termination_by delta
decreasing_by exact Nat.div_lt_self (by omega) (by omega)

/-- The bias after a delta, with `damp` 700 on the first delta and 2 after, `skew` 38. -/
def adapt (delta count : Nat) (first : Bool) : Nat :=
  let delta := if first then delta / 700 else delta / 2
  let (delta, k) := scaleDown (delta + delta / count) 0
  k + 36 * delta / (delta + 38)

/-- The digits of a variable-length integer, least significant first. -/
def encodeDigits (bias k q : Nat) : List Char :=
  let t := threshold k bias
  if q < t then [digitChar q]
  else digitChar (t + (q - t) % (36 - t)) :: encodeDigits bias (k + 36) ((q - t) / (36 - t))
termination_by q
decreasing_by
  have := threshold_pos k bias
  have := threshold_le k bias
  calc (q - threshold k bias) / (36 - threshold k bias)
      ≤ q - threshold k bias := Nat.div_le_self _ _
    _ < q := by omega

/-- The state of encoding: the digits so far, the delta, the bias and the number of code points
handled. -/
structure Encoding where
  digits : List Char
  delta : Nat
  bias : Nat
  handled : Nat

/-- Passes one code point of the input while encoding the code point `m`. -/
def Encoding.pass (basic m : Nat) (state : Encoding) (code : Nat) : Encoding :=
  if code < m then { state with delta := state.delta + 1 }
  else if code == m then
    { digits := state.digits ++ encodeDigits state.bias 36 state.delta, delta := 0,
      bias := adapt state.delta (state.handled + 1) (state.handled == basic),
      handled := state.handled + 1 }
  else state

/-- Encodes the code points beyond ASCII in increasing order; `n` is the code point after the
last one encoded. -/
def encodeFrom (input : List Nat) (basic : Nat) : List Nat → Nat → Encoding → Encoding
  | [], _, state => state
  | m :: rest, n, state =>
    let state := { state with delta := state.delta + (m - n) * (state.handled + 1) }
    let state := input.foldl (Encoding.pass basic m) state
    encodeFrom input basic rest (m + 1) { state with delta := state.delta + 1 }

/-- The distinct code points of a list, in increasing order. -/
def sortedDistinct (codes : List Nat) : List Nat :=
  (codes.mergeSort (· ≤ ·)).eraseDups

/-- The Punycode of a label: its ASCII characters, a hyphen when there are any, and the digits
that place the others. -/
def punycode (label : List Nat) : String :=
  let basic := label.filter (· < 0x80)
  let wide := sortedDistinct (label.filter (0x80 ≤ ·))
  let state := encodeFrom label basic.length wide 0x80
    { digits := [], delta := 0, bias := 72, handled := basic.length }
  String.ofList (basic.map Char.ofNat) ++ (if basic.isEmpty then "" else "-") ++
    String.ofList state.digits

/-- The value of a Punycode digit, a letter of either case or a decimal digit. -/
def digitValue? (code : Nat) : Option Nat :=
  if 0x61 ≤ code && code ≤ 0x7A then some (code - 0x61)
  else if 0x41 ≤ code && code ≤ 0x5A then some (code - 0x41)
  else if 0x30 ≤ code && code ≤ 0x39 then some (code - 0x30 + 26)
  else none

/-- The largest value the decoder's counters hold, `2^32 - 1`; a larger one fails decoding. -/
def counterLimit : Nat := 0xFFFFFFFF

/-- Reads one variable-length integer, least significant digit first, adding it to `i` with
weight `w` from the `k`-th digit on; gives the new `i` and the digits after it. -/
def decodeInteger (bias : Nat) : Nat → Nat → Nat → List Nat → Option (Nat × List Nat)
  | _, _, _, [] => none
  | k, i, w, code :: rest => do
    let digit ← digitValue? code
    let i := i + digit * w
    if counterLimit < i then none
    else
      let t := threshold k bias
      if digit < t then some (i, rest)
      else if counterLimit < w * (36 - t) then none
      else decodeInteger bias (k + 36) i (w * (36 - t)) rest

/-- Whether a number is a scalar value: at most `U+10FFFF` and not a surrogate. -/
def isScalar (code : Nat) : Bool :=
  code ≤ 0x10FFFF && !(0xD800 ≤ code && code ≤ 0xDFFF)

/-- Places the code points the digits encode into `output`; `n` is the code point and `i` the
position reached, and `fuel` bounds the integers read, each of which takes a digit at least. -/
def decodeFrom (fuel n i bias : Nat) (output : List Nat) (digits : List Nat) :
    Option (List Nat) :=
  match fuel, digits with
  | _, [] => some output
  | 0, _ :: _ => none
  | fuel + 1, digits => do
    let (next, rest) ← decodeInteger bias 36 i 1 digits
    let count := output.length + 1
    let bias := adapt (next - i) count (i == 0)
    let n := n + next / count
    let place := next % count
    if isScalar n then
      decodeFrom fuel n (place + 1) bias (output.take place ++ n :: output.drop place) rest
    else none

/-- Decodes Punycode: the ASCII characters before the last hyphen stand as themselves, and the
digits after it place the others. -/
def decodePunycode (text : List Nat) : Option (List Nat) :=
  let (basic, digits) :=
    match text.reverse.findIdx? (· == 0x2D) with
    | some fromEnd => (text.take (text.length - fromEnd - 1), text.drop (text.length - fromEnd))
    | none => ([], text)
  if basic.all (· < 0x80) then decodeFrom digits.length 0x80 0 72 basic digits else none

/-! ### Labels -/

/-- Whether a code point is an ASCII character the STD3 rules allow: a lower-case letter, a
digit, the hyphen or the dot. -/
def isStd3 (code : Nat) : Bool :=
  (0x61 ≤ code && code ≤ 0x7A) || (0x30 ≤ code && code ≤ 0x39) || code == 0x2D || code == 0x2E

/-- The labels of a mapped name, split at its dots. -/
def splitLabels (codes : List Nat) : List (List Nat) :=
  codes.splitOn 0x2E

/-- The labels of a name after mapping, or none when a point is disallowed or breaks the STD3
rules. -/
def mappedLabels (name : String) : Option (List (List Nat)) := do
  let codes := (← (name.toList.map Char.toNat).mapM idnaMap).flatten
  if codes.all fun code => 0x80 ≤ code || isStd3 code then pure (splitLabels codes) else none

/-- The hyphen rules: none at the start or the end, and not both the third and fourth. -/
def hyphensOk (label : List Nat) : Bool :=
  label.head? != some 0x2D && label.getLast? != some 0x2D &&
    !(label[2]? == some 0x2D && label[3]? == some 0x2D)

/-- Whether the joining types before a point, nearest first, reach a left- or dual-joining
letter past transparent ones; and likewise after it, a right- or dual-joining one. -/
def joinsOn (wanted : JoiningType) : List Nat → Bool
  | [] => false
  | code :: rest =>
    match joiningType code with
    | .transparent => joinsOn wanted rest
    | .dual => true
    | found => found == wanted

/-- The joiner rules at every point of a label; `before` holds the points before, nearest
first. -/
def joinersOk : List Nat → List Nat → Bool
  | _, [] => true
  | before, code :: after =>
    let afterVirama := (before.head?.map viramaTable.contains).getD false
    let ok :=
      if code == 0x200D then afterVirama
      else if code == 0x200C then afterVirama || (joinsOn .left before && joinsOn .right after)
      else true
    ok && joinersOk (code :: before) after

/-- Whether a class may stand in a left-to-right label. -/
def leftToRightAllows : BidiClass → Bool
  | .leftToRight | .europeanNumber | .europeanSeparator | .commonSeparator | .europeanTerminator
  | .otherNeutral | .boundaryNeutral | .nonspacingMark => true
  | _ => false

/-- Whether a class may stand in a right-to-left label. -/
def rightToLeftAllows : BidiClass → Bool
  | .rightToLeft | .arabicLetter | .arabicNumber | .europeanNumber | .europeanSeparator
  | .commonSeparator | .europeanTerminator | .otherNeutral | .boundaryNeutral
  | .nonspacingMark => true
  | _ => false

/-- The bidi rule of RFC 5893 for one label: it starts with a left-to-right or right-to-left
letter; a left-to-right label holds only the classes `leftToRightAllows` and ends, before any
trailing marks, in a left-to-right letter or a European digit; a right-to-left label holds only
the classes `rightToLeftAllows`, ends in a right-to-left letter or a digit, and does not mix
European and Arabic digits. -/
def bidiOk (label : List Nat) : Bool :=
  let classes := label.map bidiClass
  let last := (classes.reverse.dropWhile (· == .nonspacingMark)).head?
  match classes with
  | [] => true
  | first :: rest =>
    match first with
    | .leftToRight =>
      rest.all leftToRightAllows &&
        (last == some .leftToRight || last == some .europeanNumber || last == none)
    | .rightToLeft | .arabicLetter =>
      rest.all rightToLeftAllows &&
        (last == some .rightToLeft || last == some .arabicLetter ||
          last == some .europeanNumber || last == some .arabicNumber) &&
        !(rest.contains .europeanNumber && rest.contains .arabicNumber)
    | _ => false

/-- Whether a name holds a right-to-left letter or an Arabic digit, which puts all its labels
under the bidi rule. -/
def isBidiName (labels : List (List Nat)) : Bool :=
  labels.any fun label => label.any fun code =>
    match bidiClass code with
    | .rightToLeft | .arabicLetter | .arabicNumber => true
    | _ => false

/-- Whether a label passes the checks of UTS #46. -/
def labelOk (bidi : Bool) (label : List Nat) : Bool :=
  hyphensOk label && !((label.head?.map markTable.contains).getD false) &&
    joinersOk [] label && (!bidi || bidiOk label)

/-- Whether a code point may stand in a decoded A-label: an ASCII character the STD3 rules allow
but the dot, or a point the mapping table keeps as it is. -/
def isDecodedPoint (code : Nat) : Bool :=
  if code < 0x80 then isStd3 code && code != 0x2E
  else
    match idnaTable.find code with
    | .valid | .deviation => true
    | _ => false

/-- Whether a label is an A-label: it starts with `xn--`. -/
def isALabel (label : List Nat) : Bool :=
  label.take 4 == [0x78, 0x6E, 0x2D, 0x2D]

/-- A label after mapping in its Unicode form: an A-label is decoded, and must then hold a point
beyond ASCII and only points that `isDecodedPoint` admits; any other label stands as it is. -/
def unicodeLabel (label : List Nat) : Option (List Nat) :=
  if isALabel label then do
    let decoded ← decodePunycode (label.drop 4)
    if decoded.all (· < 0x80) || !decoded.all isDecodedPoint then none else pure decoded
  else pure label

/-- The ASCII form of a label, given the label after mapping and its Unicode form. -/
def asciiLabel (mapped label : List Nat) : String :=
  if label.all (· < 0x80) || isALabel mapped then String.ofList (mapped.map Char.ofNat)
  else "xn--" ++ punycode label

/-- Whether an ASCII name keeps to the lengths of the domain name system. -/
def lengthsOk (labels : List String) : Bool :=
  let size := (labels.map String.length).foldr (· + ·) 0 + labels.length - 1
  size ≤ 253 && labels.all fun label => !label.isEmpty && label.length ≤ 63

/-- The labels of a domain name in their Unicode form, paired with their ASCII form, or none when
processing fails. -/
def processLabels (name : String) : Option (List (List Nat × String)) := do
  let mapped ← mappedLabels name
  let labels ← mapped.mapM unicodeLabel
  let bidi := isBidiName labels
  if labels.all (labelOk bidi) then
    let ascii := (mapped.zip labels).map fun (mapped, label) => asciiLabel mapped label
    if lengthsOk ascii then pure (labels.zip ascii) else none
  else none

/-- The ASCII form of a domain name, or none when processing fails. -/
def toAscii (name : String) : Option String :=
  (processLabels name).map fun labels => ".".intercalate (labels.map Prod.snd)

/-- The Unicode form of a domain name, its labels decoded and joined by dots, or none when
processing fails. -/
def toUnicode (name : String) : Option (List Nat) :=
  (processLabels name).map fun labels => ([0x2E] : List Nat).intercalate (labels.map Prod.fst)

/-! ### Contextual rules of IDNA2008 -/

/-- The code points IDNA2008 disallows although the mapping table keeps them: the Arabic
tatweel, the N'Ko lajanyalan, the Hangul tone marks and the Japanese kana repeat marks. -/
def isDisallowedException (code : Nat) : Bool :=
  code == 0x0640 || code == 0x07FA || code == 0x302E || code == 0x302F ||
    (0x3031 ≤ code && code ≤ 0x3035) || code == 0x303B

/-- The viramas after which a zero width joiner may stand: those of the Brahmic scripts of
India and of Sinhala, Thai, Tibetan, Myanmar, Tagalog, Hanunoo and Khmer. -/
def joinerViramas : List Nat :=
  [0x094D, 0x09CD, 0x0A4D, 0x0ACD, 0x0B4D, 0x0BCD, 0x0C4D, 0x0CCD, 0x0D4D, 0x0DCA, 0x0E3A,
    0x0F84, 0x1039, 0x1714, 0x1734, 0x17D2]

/-- Whether a code point lies in the Greek and Coptic block. -/
def inGreekBlock (code : Nat) : Bool := 0x0370 ≤ code && code ≤ 0x03FF

/-- Whether a code point lies in the Hebrew block. -/
def inHebrewBlock (code : Nat) : Bool := 0x0590 ≤ code && code ≤ 0x05FF

/-- Whether a code point, other than the katakana middle dot, lies in the Hiragana or Katakana
block or among the unified ideographs of the main block. -/
def isKanaOrHan (code : Nat) : Bool :=
  code != 0x30FB &&
    ((0x3040 ≤ code && code ≤ 0x30FF) || (0x4E00 ≤ code && code ≤ 0x9FFF))

/-- The rules for the characters that IDNA2008 allows only in context, at every point of a
name's Unicode form; `before` holds the points before, nearest first. A middle dot stands
between two `l`s; a Greek keraia precedes a point of the Greek block; a Hebrew geresh or
gershayim follows a point of the Hebrew block; a zero width joiner follows one of the
`joinerViramas`; a katakana middle dot needs kana or a Han ideograph somewhere in the name. -/
def contextOk (name : List Nat) : List Nat → List Nat → Bool
  | _, [] => true
  | before, code :: after =>
    let ok :=
      if code == 0x00B7 then before.head? == some 0x6C && after.head? == some 0x6C
      else if code == 0x0375 then (after.head?.map inGreekBlock).getD false
      else if code == 0x05F3 || code == 0x05F4 then (before.head?.map inHebrewBlock).getD false
      else if code == 0x200D then (before.head?.map joinerViramas.contains).getD false
      else if code == 0x30FB then name.any isKanaOrHan
      else !isDisallowedException code
    ok && contextOk name (code :: before) after

/-- Whether a name's Unicode form keeps the contextual rules of IDNA2008, Arabic-Indic digits
and extended Arabic-Indic digits not mixed in it. -/
def nameInContext (name : List Nat) : Bool :=
  contextOk name [] name &&
    !(name.any (fun code => 0x0660 ≤ code && code ≤ 0x0669) &&
      name.any (fun code => 0x06F0 ≤ code && code ≤ 0x06F9))

/-- Whether a domain name is an internationalized host name: processing succeeds and its
Unicode form keeps the contextual rules. -/
def isHostName (name : String) : Bool :=
  match toUnicode name with
  | some unicode => nameInContext unicode
  | none => false

end Idna

end Recast.Unicode
