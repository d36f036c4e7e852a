import Recast.Table
import Recast.Network.Address
/-!
URI references (RFC 3986): reading, resolving against a base, and normal form.

A reference is read into its five parts, scheme, authority, path, query and fragment, and is
refused at the first character the grammar does not allow, which a fault names by its index:
an unexpected character, a `%` not followed by two hexadecimal digits, or a bracketed host that
starts neither an IPv6 address nor a future IP literal. An IRI reference (RFC 3987) also admits
the characters beyond ASCII of `isIriChar` in its user information, host, path, query and
fragment, and those for private use in its query.

The authority is read as a run of the characters of user information. When an `@` ends the run,
a host and a port follow it. When the run is empty, a bracketed IP literal and a port may follow.
Otherwise the run is the host and port: with one colon, the port after it must be digits, and
more than one colon is refused at the last. An IPv6 address in brackets is the longest one the
text starts with, and the closing bracket must follow it. Resolution follows the algorithm of RFC 3986, section 5.2, and refuses a base
that carries a fragment, or a reference other than a bare fragment against a base with no
authority and a path that does not start with `/`. The normal form has a lower-case scheme and
host, upper-case hexadecimal digits in escapes, no escapes of unreserved characters, and no dot
segments in a path that starts with `/`.
-/

namespace Recast.JsonSchema

/-- A URI reference split into its parts; a part that is absent differs from an empty one. -/
structure UriRef where
  scheme : Option String
  authority : Option String
  path : String
  query : Option String
  fragment : Option String
  deriving DecidableEq, Inhabited, Repr

/-- Why a text is no URI reference, with the index of the offending character. -/
inductive UriFault where
  | unexpectedChar (index : Nat)
  | invalidEscape (index : Nat)
  | invalidIpv6 (index : Nat)
  deriving DecidableEq, Inhabited, Repr

/-- The words of a fault. -/
def UriFault.message : UriFault → String
  | .unexpectedChar index => "unexpected character at index " ++ toString index
  | .invalidEscape index => "invalid percent-encoded octet at index " ++ toString index
  | .invalidIpv6 index => "invalid IPv6 address at index " ++ toString index

/-- Why a reference cannot be resolved against a base. -/
inductive ResolveFault where
  | baseWithFragment
  | opaqueBase
  deriving DecidableEq, Inhabited, Repr

/-- The words of a resolution fault. -/
def ResolveFault.message : ResolveFault → String
  | .baseWithFragment => "base URI/IRI with fragment"
  | .opaqueBase =>
    "relative reference must be empty or start with '#' when resolved against authority-less " ++
      "base URI/IRI with rootless path"

namespace Uri

/-! ### Characters -/

/-- ASCII letters. -/
def isAlpha (c : Char) : Bool := ('a' ≤ c && c ≤ 'z') || ('A' ≤ c && c ≤ 'Z')

/-- ASCII digits. -/
def isDigit (c : Char) : Bool := '0' ≤ c && c ≤ '9'

/-- Hexadecimal digits. -/
def isHex (c : Char) : Bool := isDigit c || ('a' ≤ c && c ≤ 'f') || ('A' ≤ c && c ≤ 'F')

/-- Unreserved characters. -/
def isUnreserved (c : Char) : Bool :=
  isAlpha c || isDigit c || c == '-' || c == '.' || c == '_' || c == '~'

/-- Sub-delimiters. -/
def isSubDelim (c : Char) : Bool :=
  c == '!' || c == '$' || c == '&' || c == '\'' || c == '(' || c == ')' || c == '*' ||
    c == '+' || c == ',' || c == ';' || c == '='

/-- Characters of a path segment. -/
def isPathChar (c : Char) : Bool :=
  isUnreserved c || isSubDelim c || c == ':' || c == '@'

/-- The value of a hexadecimal digit. -/
def hexDigit? (c : Char) : Option Nat :=
  if isDigit c then some (c.toNat - '0'.toNat)
  else if 'a' ≤ c && c ≤ 'f' then some (c.toNat - 'a'.toNat + 10)
  else if 'A' ≤ c && c ≤ 'F' then some (c.toNat - 'A'.toNat + 10)
  else none

/-- Characters of a scheme after its first letter. -/
def isSchemeChar (c : Char) : Bool :=
  isAlpha c || isDigit c || c == '+' || c == '-' || c == '.'

/-- Whether a character beyond ASCII may stand wherever an unreserved character may in an IRI
(RFC 3987's `ucschar`): the planes' last two code points, the noncharacters `U+FDD0` to
`U+FDEF`, the specials from `U+FFF0`, private use and the tags' block `U+E0000` to `U+E0FFF`
are left out. -/
def isIriChar (c : Char) : Bool :=
  let n := c.toNat
  (0xA0 ≤ n && n ≤ 0xD7FF) || (0xF900 ≤ n && n ≤ 0xFDCF) || (0xFDF0 ≤ n && n ≤ 0xFFEF) ||
    (0x10000 ≤ n && n < 0xE0000 && n % 0x10000 ≤ 0xFFFD) ||
    (0xE1000 ≤ n && n ≤ 0xEFFFD)

/-- Whether a character is for private use (RFC 3987's `iprivate`), which an IRI admits in its
query only. -/
def isPrivateUse (c : Char) : Bool :=
  let n := c.toNat
  (0xE000 ≤ n && n ≤ 0xF8FF) || (0xF0000 ≤ n && n ≤ 0xFFFFD) || (0x100000 ≤ n && n ≤ 0x10FFFD)

/-! ### Reading -/

/-- Checks characters against a class, `%HH` escapes allowed, starting at `index`; the index
of the first fault, if any. -/
def checkRun (allowed : Char → Bool) : List Char → Nat → Option UriFault
  | [], _ => none
  | '%' :: rest, index =>
    match rest with
    | a :: b :: more =>
      if isHex a && isHex b then checkRun allowed more (index + 3)
      else some (.invalidEscape index)
    | _ => some (.invalidEscape index)
  | c :: rest, index => if allowed c then checkRun allowed rest (index + 1)
    else some (.unexpectedChar index)

/-- Reads a run of a class, `%HH` escapes allowed, from `index`: the index where the run ends,
or the fault of a bad escape within it. -/
def scanRun (allowed : Char → Bool) : List Char → Nat → Except UriFault Nat
  | [], index => .ok index
  | '%' :: rest, index =>
    match rest with
    | a :: b :: more =>
      if isHex a && isHex b then scanRun allowed more (index + 3)
      else .error (.invalidEscape index)
    | _ => .error (.invalidEscape index)
  | c :: rest, index => if allowed c then scanRun allowed rest (index + 1) else .ok index

/-- Checks what follows a host at `index`: an optional port of digits after a colon, and then
nothing more of the authority. -/
def checkPort (rest : List Char) (index : Nat) : Option UriFault :=
  let (rest, index) :=
    match rest with
    | ':' :: port => (port.dropWhile isDigit, index + 1 + (port.takeWhile isDigit).length)
    | _ => (rest, index)
  if rest.isEmpty then none else some (.unexpectedChar index)

/-- Reads a future IP literal, `v`, hexadecimal digits, a dot and a run of unreserved
characters, sub-delimiters and colons: the rest after it. -/
def readFuture : List Char → Option (List Char)
  | [] => none
  | c :: more =>
    if c == 'v' || c == 'V' then
      let digits := more.takeWhile isHex
      match more.drop digits.length with
      | '.' :: tail =>
        let body := tail.takeWhile fun c => isUnreserved c || isSubDelim c || c == ':'
        if digits.isEmpty || body.isEmpty then none else some (tail.drop body.length)
      | _ => none
    else none

/-- Checks an IP literal whose text after the opening bracket starts at `index`, with the port
after it. -/
def checkIpLiteral (chars : List Char) (index : Nat) : Option UriFault :=
  match (Network.readIpv6 chars).orElse fun _ => readFuture chars with
  | none => some (.invalidIpv6 index)
  | some rest =>
    let closing := index + (chars.length - rest.length)
    match rest with
    | ']' :: more => checkPort more (closing + 1)
    | _ => some (.unexpectedChar closing)

/-- The characters of user information; `international` admits those of `isIriChar` too. -/
def isUserChar (international : Bool) (c : Char) : Bool :=
  isUnreserved c || isSubDelim c || c == ':' || (international && isIriChar c)

/-- The characters of a registered host name; `international` admits those of `isIriChar`. -/
def isHostChar (international : Bool) (c : Char) : Bool :=
  isUnreserved c || isSubDelim c || (international && isIriChar c)

/-- Checks a host and port read as the one run `part` from `index`: no colon,
one colon with digits after it, or a fault at the last of several colons. -/
def checkHostPort (part : List Char) (index : Nat) : Option UriFault :=
  let colons := (List.range part.length).filter fun i => part[i]? == some ':'
  match colons with
  | [] => none
  | [colon] =>
    ((part.drop (colon + 1)).findIdx? (!isDigit ·)).map fun bad =>
      .unexpectedChar (index + colon + 1 + bad)
  | _ => some (.unexpectedChar (index + colons.getLast?.getD 0))

/-- Checks an authority that starts at `index`, as the reading above describes. -/
def checkAuthority (international : Bool) (chars : List Char) (index : Nat) :
    Option UriFault :=
  match scanRun (isUserChar international) chars index with
  | .error fault => some fault
  | .ok reached =>
    let scanned := reached - index
    match chars.drop scanned with
    | '@' :: hostPart =>
      match hostPart with
      | '[' :: literal => checkIpLiteral literal (reached + 2)
      | _ =>
        match scanRun (isHostChar international) hostPart (reached + 1) with
        | .error fault => some fault
        | .ok hostEnd => checkPort (hostPart.drop (hostEnd - (reached + 1))) hostEnd
    | rest =>
      if scanned == 0 then
        match rest with
        | '[' :: literal => checkIpLiteral literal (index + 1)
        | [] => none
        | _ => some (.unexpectedChar index)
      else
        (checkHostPort (chars.take scanned) index).orElse fun _ =>
          if rest.isEmpty then none else some (.unexpectedChar reached)

/-- Reads a URI reference, or with `international` an IRI reference. With `absolute`, a scheme
is required. -/
def readWith (absolute international : Bool) (text : String) : Except UriFault UriRef :=
  let wide := fun c => international && isIriChar c
  let chars := text.toList
  let schemeChars := chars.takeWhile isSchemeChar
  let hasScheme := match chars.drop schemeChars.length with
    | ':' :: _ => !schemeChars.isEmpty
    | _ => false
  if hasScheme && !(schemeChars.head?.map isAlpha).getD false then .error (.unexpectedChar 0)
  else if absolute && !hasScheme then .error (.unexpectedChar schemeChars.length)
  else
    let scheme := if hasScheme then some (String.ofList schemeChars) else none
    let start := if hasScheme then schemeChars.length + 1 else 0
    let rest := chars.drop start
    let (authority, afterAuthority, pathStart) :=
      match rest with
      | '/' :: '/' :: more =>
        let auth := more.takeWhile fun c => c != '/' && c != '?' && c != '#'
        (some auth, more.drop auth.length, start + 2 + auth.length)
      | _ => (none, rest, start)
    let authorityFault := authority.bind fun auth =>
      checkAuthority international auth (start + 2)
    match authorityFault with
    | some fault => .error fault
    | none =>
      let path := afterAuthority.takeWhile fun c => c != '?' && c != '#'
      let afterPath := afterAuthority.drop path.length
      -- without scheme or authority, a colon may not stand in the first segment
      let firstSegment := path.takeWhile (· != '/')
      let colonFault : Option UriFault :=
        if scheme.isNone && authority.isNone then
          (firstSegment.findIdx? (· == ':')).map fun i => .unexpectedChar (pathStart + i)
        else none
      let pathFault :=
        (checkRun (fun c => isPathChar c || c == '/' || wide c) path pathStart).orElse
          fun _ => colonFault
      match pathFault with
      | some fault => .error fault
      | none =>
        let queryStart := pathStart + path.length + 1
        let (query, afterQuery) :=
          match afterPath with
          | '?' :: more =>
            let q := more.takeWhile (· != '#')
            (some q, more.drop q.length)
          | _ => (none, afterPath)
        let queryFault := query.bind fun q =>
          checkRun (fun c => isPathChar c || c == '/' || c == '?' || wide c ||
            (international && isPrivateUse c)) q queryStart
        match queryFault with
        | some fault => .error fault
        | none =>
          let fragmentStart := pathStart + path.length + (query.map (·.length + 1)).getD 0 + 1
          let fragment := match afterQuery with
            | '#' :: more => some more
            | _ => none
          let fragmentFault := fragment.bind fun f =>
            checkRun (fun c => isPathChar c || c == '/' || c == '?' || wide c) f fragmentStart
          match fragmentFault with
          | some fault => .error fault
          | none =>
            .ok { scheme, authority := authority.map String.ofList, path := String.ofList path,
                  query := query.map String.ofList, fragment := fragment.map String.ofList }

/-- Reads a URI reference, relative or absolute. -/
def parse (text : String) : Except UriFault UriRef :=
  readWith false false text

/-- Reads an absolute URI, which has a scheme. -/
def parseAbsolute (text : String) : Except UriFault UriRef :=
  readWith true false text

end Uri

/-! ### Writing and normal form -/

/-- The text of a reference. -/
def UriRef.text (uri : UriRef) : String :=
  (uri.scheme.map (· ++ ":")).getD "" ++ (uri.authority.map ("//" ++ ·)).getD "" ++ uri.path ++
    (uri.query.map ("?" ++ ·)).getD "" ++ (uri.fragment.map ("#" ++ ·)).getD ""

namespace Uri

/-- The pieces of a text between the occurrences of one character, empty pieces kept. -/
def splitChars (separator : Char) : List Char → List (List Char)
  | [] => [[]]
  | c :: rest =>
    match splitChars separator rest with
    | first :: others => if c == separator then [] :: first :: others else (c :: first) :: others
    | [] => [[c]]

/-- Removes the dot segments of a path (RFC 3986, section 5.2.4). -/
def removeDotSegments (path : String) : String :=
  let segments := (splitChars '/' path.toList).map String.ofList
  let absolute := path.startsWith "/"
  let body := if absolute then segments.drop 1 else segments
  let lastIsDir := match body.getLast? with
    | some "." | some ".." => true
    | _ => false
  let kept := body.foldl (fun (stack : List String) segment =>
    if segment == "." then stack
    else if segment == ".." then stack.dropLast
    else stack ++ [segment]) []
  let kept := if lastIsDir then kept ++ [""] else kept
  (if absolute then "/" else "") ++ "/".intercalate kept

/-- Upper-cases the digits of escapes and decodes escapes of unreserved characters. -/
def normalizeEscapes : List Char → List Char
  | '%' :: a :: b :: rest =>
    if isHex a && isHex b then
      let value :=
        (if isDigit a then a.toNat - '0'.toNat else a.toLower.toNat - 'a'.toNat + 10) * 16 +
        (if isDigit b then b.toNat - '0'.toNat else b.toLower.toNat - 'a'.toNat + 10)
      let decoded := Char.ofNat value
      if value < 128 && isUnreserved decoded then decoded :: normalizeEscapes rest
      else '%' :: a.toUpper :: b.toUpper :: normalizeEscapes rest
    else '%' :: normalizeEscapes (a :: b :: rest)
  | c :: rest => c :: normalizeEscapes rest
  | [] => []

/-- The normal form of a part. -/
def normalPart (part : String) : String :=
  String.ofList (normalizeEscapes part.toList)

end Uri

/-- The normal form of a reference. -/
def UriRef.normalize (uri : UriRef) : UriRef :=
  let normalPart := Uri.normalPart
  let removeDotSegments := Uri.removeDotSegments
  let authority := uri.authority.map fun auth =>
    let chars := auth.toList
    match chars.findIdx? (· == '@') with
    | some at_ =>
      normalPart (String.ofList (chars.take (at_ + 1))) ++
        (normalPart (String.ofList (chars.drop (at_ + 1)))).toLower
    | none => (normalPart auth).toLower
  let path := normalPart uri.path
  let path := if path.startsWith "/" then removeDotSegments path else path
  { scheme := uri.scheme.map String.toLower, authority, path,
    query := uri.query.map normalPart, fragment := uri.fragment.map normalPart }

/-! ### Resolving -/

namespace Uri

/-- Merges a relative path with the base's (RFC 3986, section 5.2.3). -/
def mergePaths (base : UriRef) (path : String) : String :=
  if base.authority.isSome && base.path.isEmpty then "/" ++ path
  else
    let chars := base.path.toList
    match chars.reverse.findIdx? (· == '/') with
    | some fromEnd => String.ofList (chars.take (chars.length - fromEnd)) ++ path
    | none => path

/-- Resolves a reference against an absolute base (RFC 3986, section 5.2.2). -/
def resolve (base reference : UriRef) : Except ResolveFault UriRef :=
  if base.fragment.isSome then .error .baseWithFragment
  else if reference.scheme.isSome then
    .ok { reference with path := removeDotSegments reference.path }
  else if base.authority.isNone && !base.path.startsWith "/" &&
      !(reference.authority.isNone && reference.path.isEmpty && reference.query.isNone) then
    .error .opaqueBase
  else if reference.authority.isSome then
    .ok { reference with scheme := base.scheme, path := removeDotSegments reference.path }
  else if reference.path.isEmpty then
    .ok { scheme := base.scheme, authority := base.authority, path := base.path,
          query := reference.query.orElse fun _ => base.query, fragment := reference.fragment }
  else
    let path := if reference.path.startsWith "/" then reference.path
      else mergePaths base reference.path
    .ok { scheme := base.scheme, authority := base.authority, path := removeDotSegments path,
          query := reference.query, fragment := reference.fragment }

end Uri

/-- The reference without its fragment. -/
def UriRef.withoutFragment (uri : UriRef) : UriRef :=
  { uri with fragment := none }

end Recast.JsonSchema
