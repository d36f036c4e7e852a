import Recast.Json.Basic
/-!
Reading JSON text.

The reader walks the text once, from left to right, and builds a `Node`: the value together
with where each part of it starts and ends, and with the members of each object in the order they
were written, repeated keys included. When the text stops making sense the reader stops too:
the node read so far ends in the error, so that whoever consumes the node meets the error exactly
where a reader that decodes while it reads would have met it.

Places are counted as a line (from 1) and the number of bytes before the place on its line. An
error names either the place after the last character read, or, when it is about the character
just ahead, the place after that character's first byte.

Numbers: an integer literal that fits an unsigned 64-bit word stays exact, and so does a negative
one that fits a signed word; `-0` and every other number become binary64 values. The decimal
digits are gathered into a 64-bit significand (digits past that only move the exponent) and
scaled by one correctly rounded power of ten, or by steps of `10^308` beyond the table; a result
too large is an error, never an infinity. Containers may nest 127 deep.
-/

namespace Recast.Json

/-- A place in a text: the line, from 1, and the number of bytes before the place on its line. -/
structure Pos where
  line : Nat
  column : Nat
  deriving Inhabited, DecidableEq

/-- What can stop a reader. -/
inductive ReadFault where
  | eofWhileParsingValue
  | eofWhileParsingList
  | eofWhileParsingObject
  | eofWhileParsingString
  | expectedColon
  | expectedListCommaOrEnd
  | expectedObjectCommaOrEnd
  | expectedSomeIdent
  | expectedSomeValue
  | invalidEscape
  | invalidNumber
  | numberOutOfRange
  | controlCharacterWhileParsingString
  | keyMustBeAString
  | loneLeadingSurrogateInHexEscape
  | trailingComma
  | trailingCharacters
  | unexpectedEndOfHexEscape
  | recursionLimitExceeded
  deriving Inhabited, DecidableEq

/-- The words for each fault. -/
def ReadFault.message : ReadFault → String
  | .eofWhileParsingValue => "EOF while parsing a value"
  | .eofWhileParsingList => "EOF while parsing a list"
  | .eofWhileParsingObject => "EOF while parsing an object"
  | .eofWhileParsingString => "EOF while parsing a string"
  | .expectedColon => "expected `:`"
  | .expectedListCommaOrEnd => "expected `,` or `]`"
  | .expectedObjectCommaOrEnd => "expected `,` or `\x7d`"
  | .expectedSomeIdent => "expected ident"
  | .expectedSomeValue => "expected value"
  | .invalidEscape => "invalid escape"
  | .invalidNumber => "invalid number"
  | .numberOutOfRange => "number out of range"
  | .controlCharacterWhileParsingString =>
    "control character (\\u0000-\\u001F) found while parsing a string"
  | .keyMustBeAString => "key must be a string"
  | .loneLeadingSurrogateInHexEscape => "lone leading surrogate in hex escape"
  | .trailingComma => "trailing comma"
  | .trailingCharacters => "trailing characters"
  | .unexpectedEndOfHexEscape => "unexpected end of hex escape"
  | .recursionLimitExceeded => "recursion limit exceeded"

/-- A fault and the place where the reader stopped. -/
structure ReadError where
  fault : ReadFault
  pos : Pos
  deriving Inhabited

/-- The text of a place, as it follows a message. -/
def Pos.suffix (pos : Pos) : String :=
  " at line " ++ toString pos.line ++ " column " ++ toString pos.column

/-- The text of a read error. -/
def ReadError.message (error : ReadError) : String :=
  error.fault.message ++ error.pos.suffix

/-- A value read from text, with its places; an object keeps repeated keys, each with the place
after its closing quote. Each item and each member also carries the place where a reader stands
after trying to close its container right behind it: past the blanks that follow it, and past a
closing bracket that comes next, or, in an array, past a comma that comes next and the blanks
after that. A container that the reader could not finish ends in `cut`.

A member's value may be skipped rather than read, and skipping is laxer than reading (see
`skipValue`). So each member also carries the error that skipping its value meets, if any; when
reading the value fails but skipping it succeeds, the members after it are read from where the
skip ended, for whoever skips the member. -/
inductive Node where
  | scalar (value : Json) (start stop : Pos)
  | arr (items : List (Node × Pos)) (cut : Option ReadError) (start stop : Pos)
  | obj (members : List (String × Pos × Node × Pos × Option ReadError)) (cut : Option ReadError)
      (start stop : Pos)
  | broken (error : ReadError)
  deriving Inhabited

namespace Node

/-- Where the node starts. -/
def start : Node → Pos
  | .scalar _ start _ | .arr _ _ start _ | .obj _ _ start _ => start
  | .broken error => error.pos

/-- Where the node stops. -/
def stop : Node → Pos
  | .scalar _ _ stop | .arr _ _ _ stop | .obj _ _ _ stop => stop
  | .broken error => error.pos

mutual

/-- Whether reading stopped inside the node, whatever is skipped in it. Reading stops right
after the item or member where it stopped, so only the last one needs a look. -/
def failed : Node → Bool
  | .scalar .. => false
  | .arr items cut _ _ => cut.isSome || lastItemFailed items
  | .obj members cut _ _ => cut.isSome || lastMemberFailed members
  | .broken _ => true

/-- Whether reading stopped inside the last item. -/
def lastItemFailed : List (Node × Pos) → Bool
  | [] => false
  | [(item, _)] => failed item
  | _ :: rest => lastItemFailed rest

/-- Whether reading stopped inside the last member, both reading and skipping its value. -/
def lastMemberFailed : List (String × Pos × Node × Pos × Option ReadError) → Bool
  | [] => false
  | [(_, _, node, _, skip)] => failed node && skip.isSome
  | _ :: rest => lastMemberFailed rest

end

mutual

/-- The value of a node, or the first error in it. A repeated key keeps its first place and
its last value. -/
def toJson : Node → Except ReadError Json
  | .scalar value _ _ => .ok value
  | .arr items cut _ _ => do
    let values ← itemsToJson items
    match cut with
    | some error => .error error
    | none => .ok (.arr values)
  | .obj members cut _ _ => do
    let fields ← membersToJson [] members
    match cut with
    | some error => .error error
    | none => .ok (.obj fields)
  | .broken error => .error error

def itemsToJson : List (Node × Pos) → Except ReadError (List Json)
  | [] => .ok []
  | (item, _) :: rest => do
    let value ← toJson item
    let values ← itemsToJson rest
    .ok (value :: values)

def membersToJson (fields : Table Json) :
    List (String × Pos × Node × Pos × Option ReadError) → Except ReadError (Table Json)
  | [] => .ok fields
  | (key, _, node, _, _) :: rest => do
    let value ← toJson node
    membersToJson (Table.insert fields key value) rest

end

/-- The place every node made from a value carries. -/
def nowhere : Pos := ⟨0, 0⟩

mutual

/-- A value as a node with no places. -/
def ofJson : Json → Node
  | .arr items => .arr (ofItems items) none nowhere nowhere
  | .obj fields => .obj (ofFields fields) none nowhere nowhere
  | value => .scalar value nowhere nowhere

def ofItems : List Json → List (Node × Pos)
  | [] => []
  | item :: rest => (ofJson item, nowhere) :: ofItems rest

def ofFields : List (String × Json) → List (String × Pos × Node × Pos × Option ReadError)
  | [] => []
  | (key, value) :: rest => (key, nowhere, ofJson value, nowhere, none) :: ofFields rest

end

end Node

/-- The reader's place in the text: what is left and where that starts. -/
structure Cursor where
  rest : List Char
  pos : Pos

namespace Cursor

/-- The place after one more character. -/
def Pos.past (pos : Pos) (c : Char) : Pos :=
  if c = '\n' then ⟨pos.line + 1, 0⟩ else ⟨pos.line, pos.column + c.utf8Size⟩

/-- Steps over the next character. -/
def bump (cursor : Cursor) : Cursor :=
  match cursor.rest with
  | [] => cursor
  | c :: rest => ⟨rest, Pos.past cursor.pos c⟩

/-- The next character. -/
def peek (cursor : Cursor) : Option Char :=
  cursor.rest.head?

/-- The place after the first byte of the next character, or the end. -/
def peekPos (cursor : Cursor) : Pos :=
  match cursor.rest with
  | [] => cursor.pos
  | c :: _ => if c = '\n' then ⟨cursor.pos.line + 1, 0⟩ else ⟨cursor.pos.line, cursor.pos.column + 1⟩

/-- An error about what was read last. -/
def fail (cursor : Cursor) (fault : ReadFault) : ReadError :=
  ⟨fault, cursor.pos⟩

/-- An error about the character ahead. -/
def failAhead (cursor : Cursor) (fault : ReadFault) : ReadError :=
  ⟨fault, cursor.peekPos⟩

/-- Whether a character is a blank between tokens. -/
def isBlank (c : Char) : Bool :=
  c = ' ' || c = '\n' || c = '\t' || c = '\r'

/-- Steps over blanks. -/
def skipBlank (cursor : Cursor) : Cursor :=
  go cursor.rest cursor.pos
where
  go : List Char → Pos → Cursor
    | c :: rest, pos => if isBlank c then go rest (Pos.past pos c) else ⟨c :: rest, pos⟩
    | [], pos => ⟨[], pos⟩

/-- Where a reader stands after trying to close an array right behind an item that ends here:
past the blanks, and past a closing bracket, or a comma and the blanks after it. -/
def settleItem (cursor : Cursor) : Pos :=
  let trail := cursor.skipBlank
  match trail.peek with
  | some ']' => trail.bump.pos
  | some ',' => trail.bump.skipBlank.pos
  | _ => trail.pos

/-- Where a reader stands after trying to close an object right behind a member that ends here:
past the blanks, and past a closing brace; a comma stays ahead. -/
def settleMember (cursor : Cursor) : Pos :=
  let trail := cursor.skipBlank
  match trail.peek with
  | some '}' => trail.bump.pos
  | _ => trail.pos

end Cursor

/-! ### Strings -/

/-- The value of one hexadecimal digit. -/
def hexValue (c : Char) : Option Nat :=
  if '0' ≤ c ∧ c ≤ '9' then some (c.toNat - '0'.toNat)
  else if 'a' ≤ c ∧ c ≤ 'f' then some (c.toNat - 'a'.toNat + 10)
  else if 'A' ≤ c ∧ c ≤ 'F' then some (c.toNat - 'A'.toNat + 10)
  else none

/-- Reads the four hexadecimal digits of a `\u` escape. -/
def readHex4 (cursor : Cursor) : Except ReadError (Nat × Cursor) :=
  match cursor.rest with
  | a :: b :: c :: d :: rest =>
    let after : Cursor := ⟨rest, [a, b, c, d].foldl Cursor.Pos.past cursor.pos⟩
    match hexValue a, hexValue b, hexValue c, hexValue d with
    | some a, some b, some c, some d => .ok (((a * 16 + b) * 16 + c) * 16 + d, after)
    | _, _, _, _ => .error (after.fail .invalidEscape)
  | rest =>
    let atEnd : Cursor := ⟨[], rest.foldl Cursor.Pos.past cursor.pos⟩
    .error (atEnd.fail .eofWhileParsingString)

/-- Reads what follows `\u`: one code, or a surrogate pair written as two escapes. -/
def readUnicodeEscape (cursor : Cursor) : Except ReadError (Char × Cursor) := do
  let (first, cursor) ← readHex4 cursor
  if 0xDC00 ≤ first ∧ first ≤ 0xDFFF then
    throw (cursor.fail .loneLeadingSurrogateInHexEscape)
  if first < 0xD800 ∨ 0xDBFF < first then
    return (Char.ofNat first, cursor)
  match cursor.peek with
  | none => throw (cursor.fail .eofWhileParsingString)
  | some '\\' => pure ()
  | some _ => throw (cursor.bump.fail .unexpectedEndOfHexEscape)
  let cursor := cursor.bump
  match cursor.peek with
  | none => throw (cursor.fail .eofWhileParsingString)
  | some 'u' => pure ()
  | some _ => throw (cursor.bump.fail .unexpectedEndOfHexEscape)
  let (second, cursor) ← readHex4 cursor.bump
  if second < 0xDC00 ∨ 0xDFFF < second then
    throw (cursor.fail .loneLeadingSurrogateInHexEscape)
  return (Char.ofNat (((first - 0xD800) * 1024 + (second - 0xDC00)) + 0x10000), cursor)

/-- Reads the body of a string after its opening quote, up to and including the closing quote.
The fuel bounds the number of characters and escapes read. -/
def readStringBody : Nat → List Char → Cursor → Except ReadError (String × Cursor)
  | 0, _, cursor => .error (cursor.fail .eofWhileParsingString)
  | fuel + 1, done, cursor =>
    match cursor.rest with
    | [] => .error (cursor.fail .eofWhileParsingString)
    | '"' :: _ => .ok (String.ofList done.reverse, cursor.bump)
    | '\\' :: _ =>
      let cursor := cursor.bump
      match cursor.rest with
      | [] => .error (cursor.fail .eofWhileParsingString)
      | c :: _ =>
        let simple : Option Char :=
          if c = '"' then some '"' else if c = '\\' then some '\\'
          else if c = '/' then some '/' else if c = 'b' then some (Char.ofNat 8)
          else if c = 'f' then some (Char.ofNat 12) else if c = 'n' then some '\n'
          else if c = 'r' then some '\r' else if c = 't' then some '\t' else none
        match simple with
        | some unescaped => readStringBody fuel (unescaped :: done) cursor.bump
        | none =>
          if c = 'u' then
            match readUnicodeEscape cursor.bump with
            | .ok (unescaped, cursor) => readStringBody fuel (unescaped :: done) cursor
            | .error error => .error error
          else .error (cursor.bump.fail .invalidEscape)
    | c :: _ =>
      if c.toNat < 32 then .error (cursor.bump.fail .controlCharacterWhileParsingString)
      else readStringBody fuel (c :: done) cursor.bump

/-- Reads a string whose opening quote is the next character. -/
def readString (cursor : Cursor) : Except ReadError (String × Cursor) :=
  readStringBody (cursor.rest.length + 1) [] cursor.bump

/-! ### Numbers -/

/-- The largest unsigned 64-bit word. -/
def wordMax : Nat := Nat.pow 2 64 - 1

/-- The largest signed 32-bit exponent. -/
def exponentMax : Nat := Nat.pow 2 31 - 1

/-- `10^k` rounded to the nearest binary64 value. -/
def powerOfTen (k : Nat) : Float :=
  Float.ofScientific 1 false k

/-- Scales a significand by a power of ten: one correctly rounded power of ten from the table
up to `10^308`, and steps of `10^308` below it. `none` when the result is too large. -/
def scaleByTen (significand : Nat) (exponent : Int) : Option Float :=
  go 8 (Float.ofNat significand) exponent
where
  go : Nat → Float → Int → Option Float
    | 0, value, _ => some value
    | fuel + 1, value, exponent =>
      if exponent.natAbs ≤ 308 then
        if 0 ≤ exponent then
          let scaled := value * powerOfTen exponent.natAbs
          if scaled.isInf then none else some scaled
        else some (value / powerOfTen exponent.natAbs)
      else if value == 0 then some value
      else if 0 ≤ exponent then none
      else go fuel (value / powerOfTen 308) (exponent + 308)

/-- A binary64 number with its sign. -/
def signedFloat (positive : Bool) (value : Float) : Number :=
  .float (if positive then value else -value).toBits

/-- Finishes a number from its significand and decimal exponent. -/
def finishFloat (positive : Bool) (significand : Nat) (exponent : Int) (cursor : Cursor) :
    Except ReadError (Number × Cursor) :=
  match scaleByTen significand exponent with
  | some value => .ok (signedFloat positive value, cursor)
  | none => .error (cursor.fail .numberOutOfRange)

/-- Whether a character is a decimal digit. -/
def isDigit (c : Char) : Bool := '0' ≤ c && c ≤ '9'

/-- The value of a decimal digit. -/
def digitValue (c : Char) : Nat := c.toNat - '0'.toNat

/-- Steps over digits. -/
def skipDigits (cursor : Cursor) : Cursor :=
  go cursor.rest cursor.pos
where
  go : List Char → Pos → Cursor
    | c :: rest, pos => if isDigit c then go rest (Cursor.Pos.past pos c) else ⟨c :: rest, pos⟩
    | [], pos => ⟨[], pos⟩

/-- Reads the digits of an exponent whose first digit was just read, up to `2^31 - 1`. -/
def exponentDigits : List Char → Pos → Nat → Option (Nat × Cursor) × Cursor
  | c :: rest, pos, value =>
    if isDigit c then
      let pos := Cursor.Pos.past pos c
      let next := value * 10 + digitValue c
      if exponentMax < next then (none, ⟨rest, pos⟩)
      else exponentDigits rest pos next
    else (some (value, ⟨c :: rest, pos⟩), ⟨c :: rest, pos⟩)
  | [], pos, value => (some (value, ⟨[], pos⟩), ⟨[], pos⟩)

/-- Reads an exponent whose `e` is the next character. -/
def readExponent (positive : Bool) (significand : Nat) (start : Int) (cursor : Cursor) :
    Except ReadError (Number × Cursor) :=
  let cursor := cursor.bump
  let (upward, cursor) :=
    match cursor.peek with
    | some '+' => (true, cursor.bump)
    | some '-' => (false, cursor.bump)
    | _ => (true, cursor)
  match cursor.rest with
  | [] => .error (cursor.fail .eofWhileParsingValue)
  | c :: _ =>
    if !isDigit c then .error (cursor.bump.fail .invalidNumber)
    else
      let after := cursor.bump
      match exponentDigits after.rest after.pos (digitValue c) with
      | (some (value, cursor), _) =>
        let exponent : Int := if upward then start + value else start - value
        let clamped : Int := max (-(Int.pow 2 31)) (min exponent exponentMax)
        finishFloat positive significand clamped cursor
      | (none, overflowed) =>
        if significand ≠ 0 ∧ upward then .error (overflowed.fail .numberOutOfRange)
        else .ok (signedFloat positive 0, skipDigits overflowed)

/-- Reads the digits after a decimal point, which is the next character. -/
def readFraction (positive : Bool) (significand : Nat) (start : Int) (cursor : Cursor) :
    Except ReadError (Number × Cursor) :=
  go (cursor.rest.length + 1) significand 0 cursor.bump
where
  go : Nat → Nat → Nat → Cursor → Except ReadError (Number × Cursor)
    | 0, significand, count, cursor => finishFloat positive significand (start - count) cursor
    | fuel + 1, significand, count, cursor =>
      match cursor.peek with
      | some c =>
        if isDigit c then
          let next := significand * 10 + digitValue c
          if wordMax < next then
            -- further digits cannot change the significand
            let cursor := skipDigits cursor
            match cursor.peek with
            | some 'e' | some 'E' => readExponent positive significand (start - count) cursor
            | _ => finishFloat positive significand (start - count) cursor
          else go fuel next (count + 1) cursor.bump
        else if count = 0 then .error (cursor.failAhead .invalidNumber)
        else if c = 'e' ∨ c = 'E' then readExponent positive significand (start - count) cursor
        else finishFloat positive significand (start - count) cursor
      | none =>
        if count = 0 then .error (cursor.failAhead .eofWhileParsingValue)
        else finishFloat positive significand (start - count) cursor

/-- Continues a number after its integer digits. -/
def readAfterInteger (positive : Bool) (significand : Nat) (cursor : Cursor) :
    Except ReadError (Number × Cursor) :=
  match cursor.peek with
  | some '.' => readFraction positive significand 0 cursor
  | some 'e' | some 'E' => readExponent positive significand 0 cursor
  | _ =>
    if positive then .ok (.int significand, cursor)
    else if significand = 0 then .ok (signedFloat false 0, cursor)
    else if significand ≤ Nat.pow 2 63 then .ok (.int (-(significand : Int)), cursor)
    else .ok (signedFloat false (Float.ofNat significand), cursor)

/-- Reads integer digits past a full significand: each one raises the exponent. -/
def readLongInteger (positive : Bool) (significand : Nat) (cursor : Cursor) :
    Except ReadError (Number × Cursor) :=
  go (cursor.rest.length + 1) 0 cursor
where
  go : Nat → Nat → Cursor → Except ReadError (Number × Cursor)
    | 0, extra, cursor => finishFloat positive significand extra cursor
    | fuel + 1, extra, cursor =>
      match cursor.peek with
      | some '.' => readFraction positive significand extra cursor
      | some 'e' | some 'E' => readExponent positive significand extra cursor
      | some c =>
        if isDigit c then go fuel (extra + 1) cursor.bump
        else finishFloat positive significand extra cursor
      | none => finishFloat positive significand extra cursor

/-- Reads the integer digits of a number whose sign, if any, was read. -/
def readUnsigned (positive : Bool) (cursor : Cursor) : Except ReadError (Number × Cursor) :=
  match cursor.rest with
  | [] => .error (cursor.fail .eofWhileParsingValue)
  | c :: _ =>
    let cursor := cursor.bump
    if c = '0' then
      match cursor.peek with
      | some d => if isDigit d then .error (cursor.failAhead .invalidNumber)
                  else readAfterInteger positive 0 cursor
      | none => readAfterInteger positive 0 cursor
    else if isDigit c then
      go (cursor.rest.length + 1) (digitValue c) cursor
    else .error (cursor.fail .invalidNumber)
where
  go : Nat → Nat → Cursor → Except ReadError (Number × Cursor)
    | 0, significand, cursor => readAfterInteger positive significand cursor
    | fuel + 1, significand, cursor =>
      match cursor.peek with
      | some d =>
        if isDigit d then
          let next := significand * 10 + digitValue d
          if wordMax < next then readLongInteger positive significand cursor
          else go fuel next cursor.bump
        else readAfterInteger positive significand cursor
      | none => readAfterInteger positive significand cursor

/-- Reads a number whose first character is next. -/
def readNumber (cursor : Cursor) : Except ReadError (Number × Cursor) :=
  match cursor.peek with
  | some '-' => readUnsigned false cursor.bump
  | _ => readUnsigned true cursor

/-! ### Values -/

/-- What stepping over a node read by itself met: the cursor after it, or its error. -/
def Node.skipped : Node × Cursor → Except ReadError Cursor
  | (.broken error, _) => .error error
  | (_, cursor) => .ok cursor

/-- Reads the rest of a literal word whose first letter is next. -/
def readWord (word : List Char) (value : Json) (cursor : Cursor) : Node × Cursor :=
  go word cursor.bump
where
  go : List Char → Cursor → Node × Cursor
    | [], after => (.scalar value cursor.pos after.pos, after)
    | c :: more, here =>
      match here.rest with
      | [] => (.broken (here.fail .eofWhileParsingValue), here)
      | d :: _ =>
        if c = d then go more here.bump
        else (.broken (here.bump.fail .expectedSomeIdent), here.bump)

/-! ### Skipping -/

/-- Steps over the rest of an exponent whose `e` is the next character: a sign, then at least
one digit. -/
def skipExponent (cursor : Cursor) : Except ReadError Cursor :=
  let cursor := cursor.bump
  let cursor := match cursor.peek with
    | some '+' | some '-' => cursor.bump
    | _ => cursor
  match cursor.peek with
  | some c => if isDigit c then .ok (skipDigits cursor.bump) else .error (cursor.bump.fail .invalidNumber)
  | none => .error (cursor.fail .invalidNumber)

/-- Steps over a number whose sign, if any, was stepped over: the digits are checked, the
value is not, so no number is out of range. -/
def skipNumber (cursor : Cursor) : Except ReadError Cursor := do
  let cursor ← match cursor.rest with
    | '0' :: d :: _ =>
      if isDigit d then throw (cursor.bump.failAhead .invalidNumber) else pure cursor.bump
    | '0' :: [] => pure cursor.bump
    | c :: _ => if isDigit c then pure (skipDigits cursor.bump) else throw (cursor.bump.fail .invalidNumber)
    | [] => throw (cursor.fail .invalidNumber)
  match cursor.peek with
  | some '.' =>
    let afterPoint := cursor.bump
    match afterPoint.peek with
    | some d =>
      if isDigit d then
        let cursor := skipDigits afterPoint
        match cursor.peek with
        | some 'e' | some 'E' => skipExponent cursor
        | _ => pure cursor
      else throw (afterPoint.failAhead .invalidNumber)
    | none => throw (afterPoint.failAhead .invalidNumber)
  | some 'e' | some 'E' => skipExponent cursor
  | _ => pure cursor

/-- Steps over the body of a string after its opening quote, up to and including the closing
quote: escapes must be well formed, but a `\u` escape is only checked to have four hexadecimal
digits, so lone surrogates pass. A control character is refused where it stands. -/
def skipStringBody : Nat → Cursor → Except ReadError Cursor
  | 0, cursor => .error (cursor.fail .eofWhileParsingString)
  | fuel + 1, cursor =>
    match cursor.rest with
    | [] => .error (cursor.fail .eofWhileParsingString)
    | '"' :: _ => .ok cursor.bump
    | '\\' :: _ =>
      let cursor := cursor.bump
      match cursor.rest with
      | [] => .error (cursor.fail .eofWhileParsingString)
      | c :: _ =>
        if c = '"' ∨ c = '\\' ∨ c = '/' ∨ c = 'b' ∨ c = 'f' ∨ c = 'n' ∨ c = 'r' ∨ c = 't' then
          skipStringBody fuel cursor.bump
        else if c = 'u' then
          match readHex4 cursor.bump with
          | .ok (_, cursor) => skipStringBody fuel cursor
          | .error error => .error error
        else .error (cursor.bump.fail .invalidEscape)
    | c :: _ =>
      if c.toNat < 32 then .error (cursor.fail .controlCharacterWhileParsingString)
      else skipStringBody fuel cursor.bump

mutual

/-- Steps over one value after blanks, as a reader does with a value nobody asked for: the
syntax is checked, but numbers may be out of range, strings may hold lone surrogates, and
containers may nest without limit. `fuel` bounds the number of steps. -/
def skipWith : Nat → Cursor → Except ReadError Cursor
  | 0, cursor => .error (cursor.fail .eofWhileParsingValue)
  | fuel + 1, cursor =>
    let cursor := cursor.skipBlank
    match cursor.rest with
    | [] => .error (cursor.failAhead .eofWhileParsingValue)
    | c :: _ =>
      if c = 'n' then Node.skipped (readWord ['u', 'l', 'l'] .null cursor)
      else if c = 't' then Node.skipped (readWord ['r', 'u', 'e'] (.bool true) cursor)
      else if c = 'f' then Node.skipped (readWord ['a', 'l', 's', 'e'] (.bool false) cursor)
      else if c = '-' then skipNumber cursor.bump
      else if isDigit c then skipNumber cursor
      else if c = '"' then skipStringBody (cursor.rest.length + 1) cursor.bump
      else if c = '[' then
        let cursor := cursor.bump.skipBlank
        match cursor.peek with
        | some ']' => .ok cursor.bump
        | some _ => skipItems fuel cursor
        | none => .error (cursor.failAhead .eofWhileParsingList)
      else if c = '{' then
        let cursor := cursor.bump.skipBlank
        match cursor.peek with
        | some '}' => .ok cursor.bump
        | some _ => skipMembers fuel cursor
        | none => .error (cursor.failAhead .eofWhileParsingObject)
      else .error (cursor.failAhead .expectedSomeValue)

/-- Steps over the items of an array from its next item, up to and including the closing
bracket. -/
def skipItems : Nat → Cursor → Except ReadError Cursor
  | 0, cursor => .error (cursor.fail .eofWhileParsingList)
  | fuel + 1, cursor => do
    let cursor := (← skipWith fuel cursor).skipBlank
    match cursor.peek with
    | some ',' => skipItems fuel cursor.bump
    | some ']' => pure cursor.bump
    | some _ => throw (cursor.failAhead .expectedListCommaOrEnd)
    | none => throw (cursor.failAhead .eofWhileParsingList)

/-- Steps over the members of an object from its next key, up to and including the closing
brace. -/
def skipMembers : Nat → Cursor → Except ReadError Cursor
  | 0, cursor => .error (cursor.fail .eofWhileParsingObject)
  | fuel + 1, cursor => do
    let cursor := cursor.skipBlank
    let afterKey ← match cursor.peek with
      | some '"' => skipStringBody (cursor.rest.length + 1) cursor.bump
      | some _ => throw (cursor.failAhead .keyMustBeAString)
      | none => throw (cursor.failAhead .eofWhileParsingObject)
    let atColon := afterKey.skipBlank
    match atColon.peek with
    | some ':' => pure ()
    | some _ => throw (atColon.failAhead .expectedColon)
    | none => throw (atColon.failAhead .eofWhileParsingObject)
    let cursor := (← skipWith fuel atColon.bump).skipBlank
    match cursor.peek with
    | some ',' => skipMembers fuel cursor.bump
    | some '}' => pure cursor.bump
    | some _ => throw (cursor.failAhead .expectedObjectCommaOrEnd)
    | none => throw (cursor.failAhead .eofWhileParsingObject)

end

/-- Steps over one value after blanks, with fuel for the whole rest of the text. -/
def skipValue (cursor : Cursor) : Except ReadError Cursor :=
  skipWith (2 * cursor.rest.length + 2) cursor

/-- The deepest nesting that containers may reach, counting the outermost as one. -/
def depthLimit : Nat := 128

mutual

/-- Reads one value after blanks. `depth` is how many more containers may open; `fuel` bounds
the number of steps, and the wrapper `Node.read` gives enough for the whole text. -/
def readValue : Nat → Nat → Cursor → Node × Cursor
  | 0, _, cursor => (.broken (cursor.fail .eofWhileParsingValue), cursor)
  | fuel + 1, depth, cursor =>
    let cursor := cursor.skipBlank
    match cursor.rest with
    | [] => (.broken (cursor.failAhead .eofWhileParsingValue), cursor)
    | c :: _ =>
      if c = 'n' then readWord ['u', 'l', 'l'] .null cursor
      else if c = 't' then readWord ['r', 'u', 'e'] (.bool true) cursor
      else if c = 'f' then readWord ['a', 'l', 's', 'e'] (.bool false) cursor
      else if c = '-' ∨ isDigit c then
        match readNumber cursor with
        | .ok (number, after) => (.scalar (.num number) cursor.pos after.pos, after)
        | .error error => (.broken error, cursor)
      else if c = '"' then
        match readString cursor with
        | .ok (text, after) => (.scalar (.str text) cursor.pos after.pos, after)
        | .error error => (.broken error, cursor)
      else if c = '[' then
        if depth ≤ 1 then (.broken (cursor.failAhead .recursionLimitExceeded), cursor)
        else
          let (items, cut, after) := readItems fuel (depth - 1) true [] cursor.bump
          (.arr items cut cursor.pos after.pos, after)
      else if c = '{' then
        if depth ≤ 1 then (.broken (cursor.failAhead .recursionLimitExceeded), cursor)
        else
          let (members, cut, after) := readMembers fuel (depth - 1) true [] cursor.bump
          (.obj members cut cursor.pos after.pos, after)
      else (.broken (cursor.failAhead .expectedSomeValue), cursor)

/-- Reads the items of an array after its opening bracket, up to and including the closing
bracket. -/
def readItems : Nat → Nat → Bool → List (Node × Pos) → Cursor →
    List (Node × Pos) × Option ReadError × Cursor
  | 0, _, _, done, cursor => (done.reverse, some (cursor.fail .eofWhileParsingList), cursor)
  | fuel + 1, depth, first, done, cursor =>
    let cursor := cursor.skipBlank
    if cursor.peek = some ']' then (done.reverse, none, cursor.bump)
    else
      let next : Except ReadError Cursor :=
        match cursor.peek with
        | some ',' =>
          if first then .ok cursor else .ok cursor.bump.skipBlank
        | some _ =>
          if first then .ok cursor else .error (cursor.failAhead .expectedListCommaOrEnd)
        | none => .error (cursor.failAhead .eofWhileParsingList)
      match next with
      | .error error => (done.reverse, some error, cursor)
      | .ok cursor =>
        match cursor.peek with
        | some ']' => (done.reverse, some (cursor.failAhead .trailingComma), cursor)
        | none => (done.reverse, some (cursor.failAhead .eofWhileParsingValue), cursor)
        | some _ =>
          let (item, after) := readValue fuel depth cursor
          let done := (item, after.settleItem) :: done
          if item.failed then (done.reverse, none, after)
          else readItems fuel depth false done after

/-- Reads the members of an object after its opening brace, up to and including the closing
brace. -/
def readMembers : Nat → Nat → Bool → List (String × Pos × Node × Pos × Option ReadError) →
    Cursor → List (String × Pos × Node × Pos × Option ReadError) × Option ReadError × Cursor
  | 0, _, _, done, cursor => (done.reverse, some (cursor.fail .eofWhileParsingObject), cursor)
  | fuel + 1, depth, first, done, cursor =>
    let cursor := cursor.skipBlank
    if cursor.peek = some '}' then (done.reverse, none, cursor.bump)
    else
      let next : Except ReadError Cursor :=
        match cursor.peek with
        | some ',' =>
          if first then .error (cursor.failAhead .keyMustBeAString)
          else .ok cursor.bump.skipBlank
        | some _ =>
          if first then .ok cursor else .error (cursor.failAhead .expectedObjectCommaOrEnd)
        | none => .error (cursor.failAhead .eofWhileParsingObject)
      match next with
      | .error error => (done.reverse, some error, cursor)
      | .ok cursor =>
        match cursor.peek with
        | some '"' =>
          match readString cursor with
          | .error error => (done.reverse, some error, cursor)
          | .ok (key, afterKey) =>
            let atColon := afterKey.skipBlank
            match atColon.peek with
            | some ':' =>
              let (value, after) := readValue fuel depth atColon.bump
              if value.failed then
                match skipValue atColon.bump with
                | .error skipped =>
                  let done := (key, afterKey.pos, value, after.settleMember, some skipped) :: done
                  (done.reverse, none, after)
                | .ok skipped =>
                  let done := (key, afterKey.pos, value, skipped.settleMember, none) :: done
                  readMembers fuel depth false done skipped
              else
                let done := (key, afterKey.pos, value, after.settleMember, none) :: done
                readMembers fuel depth false done after
            | some _ => (done.reverse, some (atColon.failAhead .expectedColon), atColon)
            | none => (done.reverse, some (atColon.failAhead .eofWhileParsingObject), atColon)
        | some '}' => (done.reverse, some (cursor.failAhead .trailingComma), cursor)
        | some _ => (done.reverse, some (cursor.failAhead .keyMustBeAString), cursor)
        | none => (done.reverse, some (cursor.failAhead .eofWhileParsingValue), cursor)

end

/-- A whole text read as one value: the node, and the error for anything but blanks after it. -/
def Node.read (text : String) : Node × Option ReadError :=
  let chars := text.toList
  let (node, after) := readValue (4 * chars.length + 8) depthLimit ⟨chars, ⟨1, 0⟩⟩
  if node.failed then (node, none)
  else
    let after := after.skipBlank
    match after.rest with
    | [] => (node, none)
    | _ => (node, some (after.failAhead .trailingCharacters))

/-- Reads a whole text as one value. -/
def read (text : String) : Except ReadError Json := do
  let (node, trailing) := Node.read text
  let value ← node.toJson
  match trailing with
  | some error => throw error
  | none => pure value

end Recast.Json
