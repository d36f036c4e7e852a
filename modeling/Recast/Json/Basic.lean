import Recast.Table
/-!
JSON values as this library reads, holds and writes them.

A number keeps the form the reader gave it: an integer literal that fits a 64-bit word (unsigned
when non-negative, signed when negative) stays an exact integer, and every other number is a
binary64 value, held by its bits so that values can be compared and stored without reference to
floating-point operations. An object is a `Table`, so its members keep the order in which they
were read or inserted.
-/

namespace Recast

/-- A JSON number: an exact machine integer or a binary64 value given by its bits. -/
inductive Number where
  /-- An integer in the range `-2^63 ≤ value < 2^64`. -/
  | int (value : Int)
  /-- A binary64 value that is not an exact machine integer literal. -/
  | float (bits : UInt64)
  deriving DecidableEq, Inhabited

/-- A JSON value. -/
inductive Json where
  | null
  | bool (value : Bool)
  | num (value : Number)
  | str (value : String)
  | arr (items : List Json)
  | obj (fields : List (String × Json))
  deriving Inhabited

namespace Number

/-- The binary64 value of a number, rounded to nearest for large integers. -/
def toFloat : Number → Float
  | .int value => if value < 0 then -Float.ofNat value.natAbs else Float.ofNat value.toNat
  | .float bits => Float.ofBits bits

/-- The number as an unsigned word, when it is an exact integer in range. -/
def toNat? : Number → Option Nat
  | .int value => if 0 ≤ value then some value.toNat else none
  | .float _ => none

/-- The number as a signed word, when it is an exact integer in range. -/
def toInt? : Number → Option Int
  | .int value => if value < Int.pow 2 63 then some value else none
  | .float _ => none

end Number

namespace Json

/-- A non-negative integer. -/
def nat (value : Nat) : Json := .num (.int value)

/-- The members of an object, or nothing for any other value. -/
def fields? : Json → Option (Table Json)
  | .obj fields => some fields
  | _ => none

/-- The items of an array, or nothing for any other value. -/
def items? : Json → Option (List Json)
  | .arr items => some items
  | _ => none

/-- The text of a string, or nothing for any other value. -/
def str? : Json → Option String
  | .str value => some value
  | _ => none

/-- The member of an object under a key. -/
def field? (value : Json) (key : String) : Option Json :=
  match value with
  | .obj fields => Table.get? fields key
  | _ => none

/-- Whether a value is an object. -/
def isObject : Json → Bool
  | .obj _ => true
  | _ => false

/-- Whether a value is an array. -/
def isArray : Json → Bool
  | .arr _ => true
  | _ => false

/-- Whether a value is a string. -/
def isString : Json → Bool
  | .str _ => true
  | _ => false

end Json

end Recast
