import Recast.Json.Basic
import Recast.Decimal.Shortest
/-!
Writing JSON values as text.

Two shapes are written: the compact one, with no blank at all, and the indented one used for
files, with two spaces per level, a blank after each colon, each member and item on a line of its
own, and `{}` and `[]` for empty containers. Members keep their order.

Inside strings a quote and a backslash are escaped, the control characters U+0000 to U+001F use
`\n \r \t \b \f` where those exist and `\u00XX` otherwise, and every other character is written
as itself. Integers are written exactly; a binary64 value is written with its shortest digits
under `Number.layout`.
-/

namespace Recast

namespace Number

/-- Numbers are written positionally when the decimal point falls after at most sixteen digits
and before at most four leading zeros, and scientifically otherwise; a whole number keeps `.0`,
and the exponent always carries its sign. -/
def layout : Decimal.Layout :=
  { positional := some (-5, 16), wholeSuffix := ".0" }

/-- The text of a number. -/
def text : Number → String
  | .int value => toString value
  | .float bits => layout.format bits

end Number

namespace Json

/-- Four lowercase hexadecimal digits of a code below `2^16`. -/
def hex4 (code : Nat) : String :=
  let digit (n : Nat) : Char := (Nat.toDigits 16 (n % 16)).headD '0'
  String.ofList [digit (code / 4096), digit (code / 256), digit (code / 16), digit code]

/-- The escaped form of one character inside a JSON string. -/
def escapeChar (c : Char) : String :=
  if c = '"' then "\\\""
  else if c = '\\' then "\\\\"
  else if c = '\n' then "\\n"
  else if c = '\r' then "\\r"
  else if c = '\t' then "\\t"
  else if c.toNat = 8 then "\\b"
  else if c.toNat = 12 then "\\f"
  else if c.toNat < 32 then "\\u" ++ hex4 c.toNat
  else String.singleton c

/-- A string between quotes, escaped. -/
def quote (text : String) : String :=
  "\"" ++ String.join (text.toList.map escapeChar) ++ "\""

/-- The opening and closing braces of an object. -/
def openBrace : String := "\x7b"

def closeBrace : String := "\x7d"

mutual

/-- The compact text of a value. -/
def compact : Json → String
  | .null => "null"
  | .bool true => "true"
  | .bool false => "false"
  | .num value => value.text
  | .str value => quote value
  | .arr items => "[" ++ compactItems items ++ "]"
  | .obj fields => openBrace ++ compactFields fields ++ closeBrace

/-- The compact text of array items, separated by commas. -/
def compactItems : List Json → String
  | [] => ""
  | [item] => compact item
  | item :: rest => compact item ++ "," ++ compactItems rest

/-- The compact text of object members, separated by commas. -/
def compactFields : List (String × Json) → String
  | [] => ""
  | [(key, value)] => quote key ++ ":" ++ compact value
  | (key, value) :: rest => quote key ++ ":" ++ compact value ++ "," ++ compactFields rest

end

/-- The blank before a line at a depth. -/
def pad (depth : Nat) : String :=
  String.ofList (List.replicate (2 * depth) ' ')

mutual

/-- The indented text of a value at a depth. -/
def prettyAt (depth : Nat) : Json → String
  | .arr [] => "[]"
  | .arr items => "[" ++ prettyItems (depth + 1) items ++ "\n" ++ pad depth ++ "]"
  | .obj [] => openBrace ++ closeBrace
  | .obj fields =>
    openBrace ++ prettyFields (depth + 1) fields ++ "\n" ++ pad depth ++ closeBrace
  | .null => "null"
  | .bool true => "true"
  | .bool false => "false"
  | .num value => value.text
  | .str value => quote value

/-- Array items, one per line at a depth. -/
def prettyItems (depth : Nat) : List Json → String
  | [] => ""
  | [item] => "\n" ++ pad depth ++ prettyAt depth item
  | item :: rest => "\n" ++ pad depth ++ prettyAt depth item ++ "," ++ prettyItems depth rest

/-- Object members, one per line at a depth. -/
def prettyFields (depth : Nat) : List (String × Json) → String
  | [] => ""
  | [(key, value)] => "\n" ++ pad depth ++ quote key ++ ": " ++ prettyAt depth value
  | (key, value) :: rest =>
    "\n" ++ pad depth ++ quote key ++ ": " ++ prettyAt depth value ++ "," ++
      prettyFields depth rest

end

/-- The indented text of a value, with no line break at the end. -/
def pretty (value : Json) : String :=
  prettyAt 0 value

end Json

end Recast
