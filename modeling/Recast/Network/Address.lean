/-!
Textual IP addresses.

An IPv4 address is four decimal octets joined by dots; an octet is at most three digits, at most
255, and has no leading zero unless it is `0`. An IPv6 address is up to eight groups of one to
four hexadecimal digits joined by colons; one `::` stands for one or more groups of zeros, and
the last two groups may be written as an IPv4 address, though not before the `::`. A reader at
the front of a text takes the longest address there; a text is an address when that reader
takes all of it.
-/

namespace Recast.Network

/-- The value of a digit in a radix. -/
def digitValue (radix : Nat) (c : Char) : Option Nat :=
  let value :=
    if '0' ≤ c && c ≤ '9' then some (c.toNat - '0'.toNat)
    else if 'a' ≤ c && c ≤ 'z' then some (c.toNat - 'a'.toNat + 10)
    else if 'A' ≤ c && c ≤ 'Z' then some (c.toNat - 'A'.toNat + 10)
    else none
  value.bind fun v => if v < radix then some v else none

/-- Reads a number of `1` to `most` digits, no larger than `limit`: all the digits there are
are taken, and too many, too large a value, or a leading zero when `zeros` is off refuse it. -/
def readNumber (radix most limit : Nat) (zeros : Bool) (chars : List Char) :
    Option (Nat × List Char) :=
  let digits := chars.takeWhile fun c => (digitValue radix c).isSome
  let value := digits.foldl (fun acc c => acc * radix + (digitValue radix c).getD 0) 0
  if digits.isEmpty || most < digits.length || limit < value then none
  else if !zeros && digits.length > 1 && digits.head? == some '0' then none
  else some (value, chars.drop digits.length)

/-- Reads an IPv4 address at the front of a text. -/
def readIpv4 (chars : List Char) : Option (List Char) := do
  let (_, rest) ← readNumber 10 3 255 false chars
  let rest ← match rest with
    | '.' :: rest => some rest
    | _ => none
  let (_, rest) ← readNumber 10 3 255 false rest
  let rest ← match rest with
    | '.' :: rest => some rest
    | _ => none
  let (_, rest) ← readNumber 10 3 255 false rest
  let rest ← match rest with
    | '.' :: rest => some rest
    | _ => none
  let (_, rest) ← readNumber 10 3 255 false rest
  pure rest

/-- Whether a text is an IPv4 address. -/
def isIpv4 (text : String) : Bool :=
  readIpv4 text.toList == some []

/-- Reads up to `limit` groups, each but the first after a colon; an IPv4 address may stand for
the last two when two are left. The number of groups read, whether the last was an IPv4
address, and the rest. A group that cannot be read ends the run before its colon. -/
def readGroups : Nat → Nat → List Char → Nat × Bool × List Char
  | 0, _, chars => (0, false, chars)
  | fuel + 1, index, chars =>
    let afterSeparator : Option (List Char) :=
      if index = 0 then some chars
      else match chars with
        | ':' :: rest => some rest
        | _ => none
    match afterSeparator with
    | none => (index, false, chars)
    | some body =>
      let embedded := if fuel ≥ 1 then readIpv4 body else none
      match embedded with
      | some rest => (index + 2, true, rest)
      | none =>
        match readNumber 16 4 65535 true body with
        | some (_, rest) => readGroups fuel (index + 1) rest
        | none => (index, false, chars)

/-- Reads an IPv6 address at the front of a text, as long a one as there is; the rest. -/
def readIpv6 (chars : List Char) : Option (List Char) :=
  let (head, headIpv4, rest) := readGroups 8 0 chars
  if head == 8 then some rest
  else if headIpv4 then none
  else
    match rest with
    | ':' :: ':' :: tail => some (readGroups (8 - (head + 1)) 0 tail).2.2
    | _ => none

/-- Whether a text is an IPv6 address. -/
def isIpv6 (text : String) : Bool :=
  readIpv6 text.toList == some []

end Recast.Network
