/-!
The shortest decimal text of a binary64 value.

A finite binary64 value `m · 2^q` stands for every real number that rounds to it: the interval
between the midpoints to its two neighbours, ends included when `m` is even (a tie on reading
goes to the even significand). The shortest decimal that reads back is the first grid
`10^j`, from coarse to fine, that has a point in that interval; of the value's two neighbours on
that grid, the nearer one is taken, and an exact tie goes to the even digit. All arithmetic is
exact, on natural numbers.

How the digits are laid out as text (positional or scientific, a trailing `.0` or not) is a
`Layout`, a record chosen by each format that writes numbers.
-/

namespace Recast.Decimal

/-- A finite binary64 value split into sign, significand and power of two: its magnitude is
`significand * 2^exponent`. -/
structure Binary where
  negative : Bool
  significand : Nat
  exponent : Int
  /-- At a power of two above the smallest normal value the next smaller value is twice as
  near as the next larger one. -/
  narrowBelow : Bool

/-- Splits the bits of a binary64 value. Infinities and NaNs, which JSON cannot hold, are read
as if their exponent were an ordinary one. -/
def Binary.ofBits (bits : UInt64) : Binary :=
  let raw : Nat := bits.toNat
  let fraction : Nat := raw % Nat.pow 2 52
  let biased : Nat := raw / Nat.pow 2 52 % Nat.pow 2 11
  let negative := decide (Nat.pow 2 63 ≤ raw)
  if biased = 0 then
    { negative, significand := fraction, exponent := -1074, narrowBelow := false }
  else
    { negative, significand := fraction + Nat.pow 2 52, exponent := (biased : Int) - 1075,
      narrowBelow := decide (fraction = 0 ∧ 1 < biased) }

/-- Compares `a * 10^j` with `b * 2^e`, exactly. -/
def compareScaled (a : Nat) (j : Int) (b : Nat) (e : Int) : Ordering :=
  compare (a * Nat.pow 10 j.toNat * Nat.pow 2 (-e).toNat)
    (b * Nat.pow 2 e.toNat * Nat.pow 10 (-j).toNat)

/-- `⌊b * 2^e / 10^j⌋`, exactly. -/
def floorScaled (b : Nat) (e : Int) (j : Int) : Nat :=
  b * Nat.pow 2 e.toNat * Nat.pow 10 (-j).toNat / (Nat.pow 10 j.toNat * Nat.pow 2 (-e).toNat)

/-- The number of decimal digits of a positive number. -/
def digitCount (n : Nat) : Nat :=
  (Nat.toDigits 10 n).length

/-- The least `K` with `significand * 2^exponent < 10^K`, for a positive significand. -/
def magnitude (significand : Nat) (exponent : Int) : Int :=
  if 0 ≤ exponent then
    digitCount (significand * Nat.pow 2 exponent.toNat)
  else if Nat.pow 2 (-exponent).toNat ≤ significand then
    digitCount (significand / Nat.pow 2 (-exponent).toNat)
  else
    1 - (digitCount ((Nat.pow 2 (-exponent).toNat - 1) / significand) : Int)

/-- Whether `d * 10^j` lies in the interval of reals that read back as the value. The interval
is measured in quarters of the value's last place: the value is `4m`, its ends `4m - 2` (or
`4m - 1` below a power of two) and `4m + 2`. -/
def readsBack (value : Binary) (d : Nat) (j : Int) : Bool :=
  let quarter := value.exponent - 2
  let low := 4 * value.significand - (if value.narrowBelow then 1 else 2)
  let high := 4 * value.significand + 2
  let closed := value.significand % 2 == 0
  let aboveLow :=
    match compareScaled d j low quarter with
    | .gt => true
    | .eq => closed
    | .lt => false
  let belowHigh :=
    match compareScaled d j high quarter with
    | .lt => true
    | .eq => closed
    | .gt => false
  aboveLow && belowHigh

/-- The digits of the value on the grid `10^j`, if a neighbour of the value on that grid reads
back: of two, the nearer, and of two as near, the even one. -/
def onGrid (value : Binary) (j : Int) : Option Nat :=
  let quarter := value.exponent - 2
  let scaled := 4 * value.significand
  let below := floorScaled scaled quarter j
  let above := below + 1
  match readsBack value below j, readsBack value above j with
  | true, true =>
    -- compare twice the value with the midpoint of the two neighbours
    match compareScaled (below + above) j (2 * scaled) quarter with
    | .gt => some below
    | .lt => some above
    | .eq => some (if below % 2 == 0 then below else above)
  | true, false => some below
  | false, true => some above
  | false, false => none

/-- Drops trailing zeros from digits, raising the exponent to match. -/
def trimZeros (digits : Nat) (exponent : Int) : Nat × Int :=
  go (digitCount digits) digits exponent
where
  go : Nat → Nat → Int → Nat × Int
    | 0, digits, exponent => (digits, exponent)
    | fuel + 1, digits, exponent =>
      if digits ≠ 0 ∧ digits % 10 = 0 then go fuel (digits / 10) (exponent + 1)
      else (digits, exponent)

/-- The shortest digits `d` and exponent `k` with `d * 10^k` reading back as the magnitude of
the value; zero is `(0, 0)`. Seventeen significant digits always suffice. -/
def shortest (value : Binary) : Nat × Int :=
  if value.significand = 0 then (0, 0)
  else
    let top := magnitude value.significand value.exponent
    let rec search : Nat → Nat → Nat × Int
      | 0, _ =>
        let j := top - 17
        (floorScaled (4 * value.significand) (value.exponent - 2) j, j)
      | fuel + 1, count =>
        let j := top - count
        match onGrid value j with
        | some digits => trimZeros digits j
        | none => search fuel (count + 1)
    search 17 1

/-- Where a format writes digits positionally and what it adds around them. -/
structure Layout where
  /-- The positions `p` of the decimal point (the value is `0.digits × 10^p`) written
  positionally: `lowPoint < p ≤ highPoint`; `none` writes every value positionally. -/
  positional : Option (Int × Int)
  /-- Written after a whole number in positional notation. -/
  wholeSuffix : String

/-- `count` zeros. -/
def zeros (count : Nat) : String :=
  String.ofList (List.replicate count '0')

/-- Lays out the digits `d` and exponent `k` of a magnitude `d * 10^k`. -/
def Layout.render (layout : Layout) (digits : Nat) (exponent : Int) : String :=
  let text := toString digits
  let count : Int := text.length
  let point := exponent + count
  let inside := match layout.positional with
    | none => true
    | some (low, high) => decide (low < point ∧ point ≤ high)
  if inside then
    if 0 ≤ exponent then text ++ zeros exponent.toNat ++ layout.wholeSuffix
    else if 0 < point then
      String.ofList (text.toList.take point.toNat) ++ "." ++
        String.ofList (text.toList.drop point.toNat)
    else "0." ++ zeros (-point).toNat ++ text
  else
    let mantissa := match text.toList with
      | first :: rest@(_ :: _) => String.ofList [first] ++ "." ++ String.ofList rest
      | _ => text
    let power := point - 1
    mantissa ++ "e" ++ (if 0 ≤ power then "+" else "-") ++ toString power.natAbs

/-- The text of a binary64 value under a layout, with a minus sign for negative values and
negative zero. -/
def Layout.format (layout : Layout) (bits : UInt64) : String :=
  let value := Binary.ofBits bits
  let (digits, exponent) := shortest value
  (if value.negative then "-" else "") ++ layout.render digits exponent

end Recast.Decimal
