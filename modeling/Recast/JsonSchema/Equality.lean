import Recast.JsonSchema.Number
/-!
When two instances are the same, for `enum`, `const` and `uniqueItems`.

Two instances are equal when they have the same kind and equal contents: numbers by their exact
values, whatever their forms (`1` and `1.0` are equal, `9007199254740993` and
`9007199254740992` are not), arrays item by item, and objects by their members regardless of
order. A `const` whose value is a number is the exception: it admits every number whose binary64
value lies within the binary64 epsilon of its own.

`uniqueItems` compares every pair of items of an array of at most fifteen; in a longer array two
items are repeats only when they are equal and also spell their numbers alike: every number,
integer or not, is spelled by the bits of its binary64 value. Equal numbers have the same value
and so the same bits, except zero and negative zero, so `1` and `1.0` repeat each other in a
long array while `0` and `-0.0` do not.
-/

namespace Recast.JsonSchema

mutual

/-- Equality of instances: numbers by exact value, objects regardless of member order. -/
def Json.equal : Json → Json → Bool
  | .null, .null => true
  | .bool left, .bool right => left == right
  | .num left, .num right => Number.compareExact left right == .eq
  | .str left, .str right => left == right
  | .arr left, .arr right => Json.equalItems left right
  | .obj left, .obj right => left.length == right.length && Json.equalFields right left
  | _, _ => false

/-- Item-by-item equality of two lists of instances. -/
def Json.equalItems : List Json → List Json → Bool
  | [], [] => true
  | left :: lefts, right :: rights => Json.equal left right && Json.equalItems lefts rights
  | _, _ => false

/-- Whether every member of the second list has an equal member of the same name in the first. -/
def Json.equalFields (other : List (String × Json)) : List (String × Json) → Bool
  | [] => true
  | (key, value) :: rest =>
    (match Table.get? other key with
      | some found => Json.equal value found
      | none => false) && Json.equalFields other rest

end

mutual

/-- Whether two instances spell their numbers alike throughout. -/
def Json.spelledAlike : Json → Json → Bool
  | .num left, .num right => left.toFloat.toBits == right.toFloat.toBits
  | .arr left, .arr right => Json.itemsSpelledAlike left right
  | .obj left, .obj right => Json.fieldsSpelledAlike right left
  | _, _ => true

/-- Item-by-item `spelledAlike`. -/
def Json.itemsSpelledAlike : List Json → List Json → Bool
  | left :: lefts, right :: rights => Json.spelledAlike left right && Json.itemsSpelledAlike lefts rights
  | _, _ => true

/-- Member-by-member `spelledAlike`, by name. -/
def Json.fieldsSpelledAlike (other : List (String × Json)) : List (String × Json) → Bool
  | [] => true
  | (key, value) :: rest =>
    (match Table.get? other key with
      | some found => Json.spelledAlike value found
      | none => true) && Json.fieldsSpelledAlike other rest

end

/-- The largest array whose items are compared pair by pair. -/
def pairwiseLimit : Nat := 15

/-- Whether two items of an array of `size` items repeat each other. -/
def Json.repeats (size : Nat) (left right : Json) : Bool :=
  Json.equal left right && (size ≤ pairwiseLimit || Json.spelledAlike left right)

/-- Whether some item of a list repeats a later one. -/
def hasRepeat (size : Nat) : List Json → Bool
  | [] => false
  | item :: rest => rest.any (Json.repeats size item) || hasRepeat size rest

/-- The binary64 epsilon, `2^-52`. -/
def floatEpsilon : Float := Float.ofBits 0x3CB0000000000000

/-- Whether an instance matches a `const`: a number within epsilon of a numeric constant, or an
equal instance. -/
def Json.matchesConst (constant value : Json) : Bool :=
  match constant, value with
  | .num expected, .num actual => (expected.toFloat - actual.toFloat).abs < floatEpsilon
  | .num _, _ => false
  | _, _ => Json.equal constant value

end Recast.JsonSchema
