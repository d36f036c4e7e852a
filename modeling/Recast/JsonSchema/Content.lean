import Recast.Json.Reader
/-!
The string encodings and media types that drafts 6 and 7 check in `contentEncoding` and
`contentMediaType`.

The one encoding is `base64` with the standard alphabet and canonical padding: the characters
close their last group of four, there are at most two `=` and only at the end, and the bits the
padding stands for are zero; an empty string is the encoding of nothing. The one media type is
`application/json`: the text is one JSON value, with blanks around it allowed. When both are
given, the decoded bytes must be UTF-8 and then read as the media type; bytes that are not UTF-8
are reported where they first go wrong.
-/

namespace Recast.JsonSchema

namespace Content

/-- The value of a character of the standard base64 alphabet. -/
def base64Value? (c : Char) : Option Nat :=
  if 'A' ≤ c && c ≤ 'Z' then some (c.toNat - 'A'.toNat)
  else if 'a' ≤ c && c ≤ 'z' then some (c.toNat - 'a'.toNat + 26)
  else if '0' ≤ c && c ≤ '9' then some (c.toNat - '0'.toNat + 52)
  else if c == '+' then some 62
  else if c == '/' then some 63
  else none

/-- Six bits at a time into bytes: the bytes so far, reversed, and the bits not yet used. -/
def base64Step (state : List UInt8 × Nat × Nat) (value : Nat) : List UInt8 × Nat × Nat :=
  let (out, acc, count) := state
  let acc := acc * 64 + value
  let count := count + 6
  if 8 ≤ count then
    ((acc / Nat.pow 2 (count - 8)).toUInt8 :: out, acc % Nat.pow 2 (count - 8), count - 8)
  else (out, acc, count)

/-- Decodes standard base64 with canonical padding. -/
def decodeBase64? (text : String) : Option (List UInt8) := do
  let chars := text.toList
  let padding := (chars.reverse.takeWhile (· == '=')).length
  guard (padding ≤ 2)
  let body := chars.take (chars.length - padding)
  guard ((body.length + padding) % 4 == 0)
  let values ← body.mapM base64Value?
  let (out, acc, _) := values.foldl base64Step ([], 0, 0)
  guard (acc == 0)
  pure out.reverse

/-- The length of the UTF-8 sequence a leading byte starts, if it can start one. -/
def sequenceLength (lead : UInt8) : Option Nat :=
  if lead < 0x80 then some 1
  else if 0xC2 ≤ lead && lead ≤ 0xDF then some 2
  else if 0xE0 ≤ lead && lead ≤ 0xEF then some 3
  else if 0xF0 ≤ lead && lead ≤ 0xF4 then some 4
  else none

/-- Whether a byte may follow a leading byte as the first continuation byte. -/
def firstContinuationOk (lead next : UInt8) : Bool :=
  if lead == 0xE0 then 0xA0 ≤ next && next ≤ 0xBF
  else if lead == 0xED then 0x80 ≤ next && next ≤ 0x9F
  else if lead == 0xF0 then 0x90 ≤ next && next ≤ 0xBF
  else if lead == 0xF4 then 0x80 ≤ next && next ≤ 0x8F
  else 0x80 ≤ next && next ≤ 0xBF

/-- Whether a byte continues a UTF-8 sequence. -/
def isContinuation (byte : UInt8) : Bool :=
  0x80 ≤ byte && byte ≤ 0xBF

/-- How a sequence of `length` bytes that starts with `lead` goes on: `.ok` when it is whole,
`.error none` when the bytes end inside it, `.error (some n)` when the first `n` bytes are all
of it that is valid. -/
def checkSequence (lead : UInt8) (length : Nat) (rest : List UInt8) : Except (Option Nat) Unit :=
  match rest with
  | [] => .error none
  | first :: more =>
    if !firstContinuationOk lead first then .error (some 1)
    else if length == 2 then .ok ()
    else
      match more with
      | [] => .error none
      | second :: more =>
        if !isContinuation second then .error (some 2)
        else if length == 3 then .ok ()
        else
          match more with
          | [] => .error none
          | third :: _ => if isContinuation third then .ok () else .error (some 3)

/-- Where bytes first fail to be UTF-8: the index, and the length of the bad sequence, or
`none` when the bytes end inside a sequence. -/
def utf8Fault : Nat → List UInt8 → Option (Nat × Option Nat)
  | _, [] => none
  | index, lead :: rest =>
    match sequenceLength lead with
    | none => some (index, some 1)
    | some 1 => utf8Fault (index + 1) rest
    | some length =>
      match checkSequence lead length rest with
      | .ok () => utf8Fault (index + length) (rest.drop (length - 1))
      | .error fault => some (index, fault)
termination_by _ bytes => bytes.length
decreasing_by all_goals simp only [List.length_drop, List.length_cons]; omega

/-- The words for bytes that are not UTF-8. -/
def utf8Message : Nat × Option Nat → String
  | (index, some length) =>
    "invalid utf-8 sequence of " ++ toString length ++ " bytes from index " ++ toString index
  | (index, none) => "incomplete utf-8 byte sequence from index " ++ toString index

/-- Whether an encoding is one that is checked. -/
def knowsEncoding (encoding : String) : Bool :=
  encoding == "base64"

/-- Whether a media type is one that is checked. -/
def knowsMediaType (mediaType : String) : Bool :=
  mediaType == "application/json"

/-- Whether text is in an encoding. -/
def isEncoded (encoding text : String) : Bool :=
  encoding != "base64" || (decodeBase64? text).isSome

/-- Whether text is of a media type. -/
def isMediaType (mediaType text : String) : Bool :=
  mediaType != "application/json" || (Json.read text).toBool

/-- The text that decoding gives, or why it is not text: `.error none` when the encoding is
broken, `.error (some words)` when the bytes are not UTF-8. -/
def decode (encoding text : String) : Except (Option String) String :=
  if encoding != "base64" then .ok text
  else
    match decodeBase64? text with
    | none => .error none
    | some bytes =>
      match utf8Fault 0 bytes with
      | some fault => .error (some (utf8Message fault))
      | none =>
        match String.fromUTF8? ⟨bytes.toArray⟩ with
        | some decoded => .ok decoded
        | none => .error none

end Content

end Recast.JsonSchema
