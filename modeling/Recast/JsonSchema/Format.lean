import Recast.JsonSchema.Uri
import Recast.JsonSchema.Draft
import Recast.JsonSchema.Pattern
import Recast.Unicode.Idna
/-!
The string formats that `format` asserts in drafts 4, 6 and 7.

Each format is a predicate on text; only string instances are checked, and a format an edition
does not know is not checked at all. Draft 4 knows `date`, `date-time`, `email`, `hostname`,
`idn-email`, `ipv4`, `ipv6`, `regex`, `time` and `uri`; draft 6 adds `json-pointer`,
`uri-reference` and `uri-template`; draft 7 adds `idn-hostname`, `iri`, `iri-reference` and
`relative-json-pointer`.

Dates are `YYYY-MM-DD` with a real day of a real month, leap years counted. Times are
`HH:MM:SS`, an optional fraction, and a zone, `Z` or an offset `+HH:MM`; a leap second is
allowed only when the time is 23:59 in UTC. The fields' digits are read as `nibble?` says, so the
bytes `:` to `?` pass as digits worth 10 to 15. A date-time is a date, `T`, and a time. A host name
is dot-separated labels of ASCII letters, digits and hyphens, each of 1 to 63 characters and
neither starting nor ending with a hyphen, at most 253 bytes in all. An e-mail address is a
local part of at most 64 bytes, dot-separated atoms or a quoted string, then `@` and a domain:
a host name, or an IPv4 address, or `IPv6:` and an IPv6 address, in brackets.
-/

namespace Recast.JsonSchema

namespace Format

/-! ### Dates and times -/

/-- The value of a byte read as a digit of a date or time. The reading subtracts `0` from a
whole word at once and asks only that no byte's high nibble be left over, so it accepts the
sixteen bytes from `0` to `?` and gives `:` to `?` the values 10 to 15. -/
def nibble? (b : UInt8) : Option Nat :=
  if 48 ≤ b && b ≤ 63 then some (b.toNat - 48) else none

/-- The value of the digits of a field, read positionally in base ten with `nibble?`. -/
def fieldValue? (bytes : List UInt8) : Option Nat :=
  bytes.foldlM (fun acc b => (nibble? b).map fun d => acc * 10 + d) 0

/-- The value of a two-byte field. -/
def twoDigits? (bytes : List UInt8) : Option Nat :=
  if bytes.length == 2 then fieldValue? bytes else none

/-- Whether a year has a 29th of February. -/
def isLeapYear (year : Nat) : Bool :=
  year % 4 == 0 && (year % 100 != 0 || year % 400 == 0)

/-- The number of days of a month. -/
def daysIn (year month : Nat) : Nat :=
  if month == 2 then (if isLeapYear year then 29 else 28)
  else if month == 4 || month == 6 || month == 9 || month == 11 then 30
  else 31

/-- Whether bytes are a date `YYYY-MM-DD`. -/
def isDateBytes (bytes : List UInt8) : Bool :=
  bytes.length == 10 && bytes[4]? == some 45 && bytes[7]? == some 45 &&
    match fieldValue? (bytes.take 4), twoDigits? ((bytes.drop 5).take 2),
        twoDigits? ((bytes.drop 8).take 2) with
    | some year, some month, some day =>
      1 ≤ month && month ≤ 12 && 1 ≤ day && day ≤ daysIn year month
    | _, _, _ => false

/-- Whether a leap second written at a local time and offset falls at 23:59 in UTC. -/
def leapSecondAllowed (hour minute : Nat) (ahead : Bool) (offsetHours offsetMinutes : Nat) :
    Bool :=
  let written : Int := hour * 60 + minute
  let shift : Int := offsetHours * 60 + offsetMinutes
  let utc := (written - (if ahead then shift else -shift)) % (24 * 60)
  utc == 23 * 60 + 59

/-- Whether bytes are a time with a zone. -/
def isTimeBytes (bytes : List UInt8) : Bool :=
  if bytes.length < 9 || bytes[2]? != some 58 || bytes[5]? != some 58 then false
  else
    match twoDigits? (bytes.take 2), twoDigits? ((bytes.drop 3).take 2),
        twoDigits? ((bytes.drop 6).take 2) with
    | some hour, some minute, some second =>
      if 23 < hour || 59 < minute || 60 < second then false
      else
        let rest := bytes.drop 8
        let zone : Option (List UInt8) := match rest with
          | 46 :: more =>
            let fraction := more.takeWhile fun b => 48 ≤ b && b ≤ 57
            if fraction.isEmpty then none else some (more.drop fraction.length)
          | _ => some rest
        match zone with
        | some [90] | some [122] => second != 60 || (hour == 23 && minute == 59)
        | some [sign, h1, h2, 58, m1, m2] =>
          if sign != 43 && sign != 45 then false
          else
            match twoDigits? [h1, h2], twoDigits? [m1, m2] with
            | some offsetHours, some offsetMinutes =>
              offsetHours ≤ 23 && offsetMinutes ≤ 59 &&
                (second != 60 || leapSecondAllowed hour minute (sign == 43) offsetHours offsetMinutes)
            | _, _ => false
        | _ => false
    | _, _, _ => false

/-- Whether text is a date. -/
def isDate (text : String) : Bool :=
  isDateBytes text.toUTF8.toList

/-- Whether text is a time. -/
def isTime (text : String) : Bool :=
  isTimeBytes text.toUTF8.toList

/-- Whether text is a date-time: a date and a time, split at the first `T` or `t`. -/
def isDateTime (text : String) : Bool :=
  let bytes := text.toUTF8.toList
  match bytes.findIdx? fun b => b == 84 || b == 116 with
  | some split => isDateBytes (bytes.take split) && isTimeBytes (bytes.drop (split + 1))
  | none => false

/-! ### Hosts and addresses -/

/-- Whether a label of a host name is well formed. -/
def isLabel (label : List Char) : Bool :=
  !label.isEmpty && label.length ≤ 63 && label.head? != some '-' && label.getLast? != some '-' &&
    label.all fun c => ('a' ≤ c && c ≤ 'z') || ('A' ≤ c && c ≤ 'Z') || ('0' ≤ c && c ≤ '9') ||
      c == '-'

/-- Whether text is a host name. -/
def isHostname (text : String) : Bool :=
  !text.isEmpty && text.utf8ByteSize ≤ 253 &&
    (text.splitOn ".").all fun label => isLabel label.toList

/-- Whether text is an internationalized host name: its ASCII form under UTS #46 exists, and its
labels keep the contextual rules of IDNA2008. -/
def isIdnHostname (text : String) : Bool :=
  Unicode.Idna.isHostName text

/-- Whether a character beyond ASCII passes the test an address reader applies for the UTF-8 of
RFC 6532. The test reads the four bytes of the code point's number as if they were the bytes of
an encoding; a number up to `U+10FFFF` has a zero first byte, so the only pattern it can fit is
that of a two-byte sequence in its last two bytes with a zero second byte: a lead byte from `C2`
to `DF`, then a byte from `80` to `BF`. -/
def isEncodedLike (c : Char) : Bool :=
  let n := c.toNat
  0xC2 ≤ n / 256 && n / 256 ≤ 0xDF && 0x80 ≤ n % 256 && n % 256 ≤ 0xBF

/-- Characters of an unquoted local part or of a domain label: letters and digits of any
script, the specials of RFC 5322's `atext`, and the characters `isEncodedLike` admits. -/
def isAtomChar (c : Char) : Bool :=
  Unicode.isAlphanumeric c || c.toNat == 96 || c == '{' || c == '}' ||
    "!#$%&'*+-/=?^_|~".toList.contains c || isEncodedLike c

/-- Whether a quoted local part's inside is well formed: printable ASCII but the quote and the
backslash, blanks, and characters `isEncodedLike` admits, with a backslash escaping a printable
ASCII character. -/
def isQuotedContent : List Char → Bool
  | [] => true
  | '\\' :: c :: rest => 0x21 ≤ c.toNat && c.toNat ≤ 0x7E && isQuotedContent rest
  | ['\\'] => false
  | c :: rest =>
    (c == ' ' || c == '\t' || c.toNat == 0x21 || (0x23 ≤ c.toNat && c.toNat ≤ 0x5B) ||
      (0x5D ≤ c.toNat && c.toNat ≤ 0x7E) || isEncodedLike c) && isQuotedContent rest

/-- Whether a local part is well formed. -/
def isLocalPart (part : String) : Bool :=
  let chars := part.toList
  if part.isEmpty || 64 < part.utf8ByteSize then false
  else if chars.head? == some '"' && chars.getLast? == some '"' then
    2 < chars.length && isQuotedContent ((chars.drop 1).dropLast)
  else (part.splitOn ".").all fun atom => !atom.isEmpty && atom.toList.all isAtomChar

/-- Whether a domain of an e-mail address is well formed, for a host-name rule: an address
literal in brackets, or labels of atom characters that start and end with a letter or digit, at
most 63 bytes each, which the host-name rule then judges as a whole. -/
def isDomain (hostname : String → Bool) (domain : String) : Bool :=
  let chars := domain.toList
  if domain.isEmpty || 254 < domain.utf8ByteSize then false
  else if chars.head? == some '[' && chars.getLast? == some ']' then
    let inside := String.ofList ((chars.drop 1).dropLast)
    if inside.startsWith "IPv6:" then Network.isIpv6 (inside.drop 5).toString
    else Network.isIpv4 inside
  else
    (domain.splitOn ".").all (fun label =>
      let chars := label.toList
      !label.isEmpty && (chars.head?.map Unicode.isAlphanumeric).getD false &&
        (chars.getLast?.map Unicode.isAlphanumeric).getD false &&
        label.utf8ByteSize ≤ 63 && chars.all isAtomChar) && hostname domain

/-- The characters after the last blank that is followed by `<`, if there is one. -/
def afterLastOpening : List Char → Option (List Char)
  | [] => none
  | c :: rest =>
    match afterLastOpening rest with
    | some after => some after
    | none =>
      match c, rest with
      | ' ', '<' :: after => some after
      | _, _ => none

/-- A text without the white space at its ends. -/
def trimWhiteSpace (chars : List Char) : List Char :=
  ((chars.dropWhile Unicode.isWhiteSpace).reverse.dropWhile Unicode.isWhiteSpace).reverse

/-- The address inside a text that may carry a display name: when the text holds a blank
followed by `<`, the part after the last such pair, without white space at its ends, must end
with `>`, and the address is what stands before that `>`; otherwise the text is the address. -/
def addressPart (text : String) : Option String :=
  match afterLastOpening text.toList with
  | none => some text
  | some after =>
    let after := trimWhiteSpace after
    if after.getLast? == some '>' then some (String.ofList after.dropLast) else none

/-- Whether text is an e-mail address, its domain checked by a host-name rule. The address may
come with a display name, `Name <address>`; it is split at its last `@`. -/
def isEmailWith (hostname : String → Bool) (text : String) : Bool :=
  match addressPart text with
  | none => false
  | some address =>
    let chars := address.toList
    match chars.reverse.findIdx? (· == '@') with
    | some fromEnd =>
      let split := chars.length - fromEnd - 1
      isLocalPart (String.ofList (chars.take split)) &&
        isDomain hostname (String.ofList (chars.drop (split + 1)))
    | none => false

/-! ### References and templates -/

/-- Whether text is a JSON pointer: empty, or `/`-led tokens whose `~` escapes are `~0` or
`~1`. -/
def isJsonPointer (text : String) : Bool :=
  let rec escapesOk : List Char → Bool
    | [] => true
    | '~' :: c :: rest => (c == '0' || c == '1') && escapesOk rest
    | ['~'] => false
    | _ :: rest => escapesOk rest
  (text.isEmpty || text.startsWith "/") && escapesOk text.toList

/-- Whether text is a relative JSON pointer: a count without leading zeros, then `#` or a JSON
pointer. -/
def isRelativeJsonPointer (text : String) : Bool :=
  let chars := text.toList
  let count := chars.takeWhile Char.isDigit
  let rest := chars.drop count.length
  !count.isEmpty && (count.length == 1 || count.head? != some '0') &&
    (rest == ['#'] || isJsonPointer (String.ofList rest))

/-- Whether a character may stand as itself in a URI template. -/
def isTemplateLiteral (c : Char) : Bool :=
  0x20 < c.toNat && c.toNat != 96 && c != '{' && c != '}' && !"\"'<>%\\^|".toList.contains c

/-- Whether a character may stand in a template variable name: the check is case-sensitive
and admits lower-case letters only. -/
def isVariableChar (c : Char) : Bool :=
  ('a' ≤ c && c ≤ 'z') || ('0' ≤ c && c ≤ '9') || c == '_'

/-- Whether a character is a hexadecimal digit of a template's `%HH` escape; as with names, only
the lower-case letters count. -/
def isTemplateHex (c : Char) : Bool :=
  ('0' ≤ c && c ≤ '9') || ('a' ≤ c && c ≤ 'f')

/-- Reads a variable name of a template: characters and `%HH` escapes, at least one. -/
def readVariableName : List Char → Nat → Option (List Char)
  | '%' :: a :: b :: rest, count =>
    if isTemplateHex a && isTemplateHex b then readVariableName rest (count + 1) else none
  | c :: rest, count => if isVariableChar c then readVariableName rest (count + 1)
    else if count == 0 then none else some (c :: rest)
  | [], count => if count == 0 then none else some []

/-- Reads a variable of a template with its modifier: `:` and a length of 1 to 4 digits
without a leading zero, or `*`. -/
def readVariable (chars : List Char) : Option (List Char) := do
  let rest ← readVariableName chars 0
  match rest with
  | ':' :: more =>
    let digits := more.takeWhile Char.isDigit
    if digits.isEmpty || 4 < digits.length || digits.head? == some '0' then none
    else some (more.drop digits.length)
  | '*' :: more => some more
  | _ => some rest

/-- Reads the variables of an expression, separated by commas, up to its closing brace. -/
def readVariables : Nat → List Char → Option (List Char)
  | 0, _ => none
  | fuel + 1, chars => do
    let rest ← readVariable chars
    match rest with
    | ',' :: more => readVariables fuel more
    | '}' :: more => some more
    | _ => none

/-- Whether text is a URI template (RFC 6570). -/
def isUriTemplate (text : String) : Bool :=
  go text.length text.toList
where
  go : Nat → List Char → Bool
    | _, [] => true
    | 0, _ => false
    | fuel + 1, '{' :: rest =>
      let body := match rest with
        | c :: more => if "+#./;?&=,!@|".toList.contains c then more else rest
        | [] => rest
      match readVariables (body.length + 1) body with
      | some after => go fuel after
      | none => false
    | fuel + 1, '%' :: a :: b :: rest => isTemplateHex a && isTemplateHex b && go fuel rest
    | fuel + 1, c :: rest => isTemplateLiteral c && go fuel rest

/-- Whether text is a URI or, with `international`, an IRI reference; with `absolute`, one with a
scheme. -/
def isReference (absolute international : Bool) (text : String) : Bool :=
  (Uri.readWith absolute international text).toBool

/-- The check of a format an edition knows. -/
def check? (draft : Draft) (name : String) : Option (String → Bool) :=
  match name with
  | "date" => some isDate
  | "date-time" => some isDateTime
  | "time" => some isTime
  | "email" => some (isEmailWith isHostname)
  | "idn-email" => some (isEmailWith isIdnHostname)
  | "hostname" => some isHostname
  | "idn-hostname" => if draft.atLeast .draft7 then some isIdnHostname else none
  | "ipv4" => some Network.isIpv4
  | "ipv6" => some Network.isIpv6
  | "uri" => some (isReference true false)
  | "uri-reference" => if draft.atLeast .draft6 then some (isReference false false) else none
  | "iri" => if draft.atLeast .draft7 then some (isReference true true) else none
  | "iri-reference" => if draft.atLeast .draft7 then some (isReference false true) else none
  | "uri-template" => if draft.atLeast .draft6 then some isUriTemplate else none
  | "json-pointer" => if draft.atLeast .draft6 then some isJsonPointer else none
  | "relative-json-pointer" => if draft.atLeast .draft7 then some isRelativeJsonPointer else none
  | "regex" => some Pattern.isRegex
  | _ => none

end Format

end Recast.JsonSchema
