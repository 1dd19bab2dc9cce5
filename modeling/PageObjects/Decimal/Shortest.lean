import PageObjects.Decimal.Binary64

/-!
# Shortest decimal digits

The shortest decimal that reads back as a given positive binary64 magnitude
`significand * 2 ^ exponent`. The magnitudes that read back as it form an
interval around it, reaching halfway to each neighbour on the binary grid, with
its ends included exactly when the significand is even. For 1, 2, … 17 digits,
the two points of that decimal grid on either side of the value are tested, in
exact natural-number arithmetic: the first grid with a point in the interval
wins, of two such points the nearer, and of two equally near the even one.

Exact magnitudes are compared as `a * 2 ^ p * 10 ^ q` with integer `p` and `q`,
by moving negative exponents to the other side.
-/

namespace PageObjects.Decimal

/-- A positive decimal `digits * 10 ^ exponent`. -/
structure DecimalValue where
  digits : Nat
  exponent : Int
  deriving DecidableEq, Repr

/-- A magnitude `coefficient * 2 ^ twos * 10 ^ tens`. -/
structure Scaled where
  coefficient : Nat
  twos : Int
  tens : Int

namespace Scaled

/-- The part of an exponent above zero. -/
def up (e : Int) : Nat := e.toNat

/-- The part of an exponent below zero, as a positive power. -/
def down (e : Int) : Nat := (-e).toNat

/-- Both sides of a comparison with every power moved to where it is positive. -/
def sides (a b : Scaled) : Nat × Nat :=
  (a.coefficient * Nat.pow 2 (up a.twos) * Nat.pow 10 (up a.tens) * Nat.pow 2 (down b.twos) * Nat.pow 10 (down b.tens),
   b.coefficient * Nat.pow 2 (up b.twos) * Nat.pow 10 (up b.tens) * Nat.pow 2 (down a.twos) * Nat.pow 10 (down a.tens))

/-- Whether the first magnitude is below the second. -/
def lt (a b : Scaled) : Bool := (sides a b).1 < (sides a b).2

/-- Whether the first magnitude is at most the second. -/
def le (a b : Scaled) : Bool := (sides a b).1 ≤ (sides a b).2

/-- `⌊a / 10 ^ tens⌋` for a magnitude `a`. -/
def floorOver (a : Scaled) (tens : Int) : Nat :=
  let (top, bottom) := sides a ⟨1, 0, tens⟩
  top / bottom

end Scaled

/-- The interval of magnitudes that read back as a binary64 magnitude, in units
of a quarter of its binary step: `low`, the value, `high`, and whether the ends
belong to it. -/
structure ReadBack where
  low : Scaled
  value : Scaled
  high : Scaled
  closed : Bool

/-- The read-back interval of `significand * 2 ^ exponent`. The step below the
value is half as wide when the significand is the least normal one and a
smaller exponent exists. -/
def readBack (significand : Nat) (exponent : Int) : ReadBack :=
  let unit := exponent - 2
  let narrowBelow := significand == Nat.pow 2 (Binary64.precision - 1) && Binary64.leastExponent < exponent
  { low := ⟨if narrowBelow then 4 * significand - 1 else 4 * significand - 2, unit, 0⟩
    value := ⟨4 * significand, unit, 0⟩
    high := ⟨4 * significand + 2, unit, 0⟩
    closed := significand % 2 == 0 }

/-- Whether the decimal `d * 10 ^ tens` lies in the interval. -/
def ReadBack.admits (interval : ReadBack) (d : Nat) (tens : Int) : Bool :=
  let point : Scaled := ⟨d, 0, tens⟩
  if interval.closed then interval.low.le point && point.le interval.high
  else interval.low.lt point && point.lt interval.high

/-- Moves an estimate of `⌊log₁₀ v⌋` towards the true value, one step at a time. -/
def floorLog10From (value : Scaled) : Nat → Int → Int
  | 0, e => e
  | fuel + 1, e =>
    if value.lt ⟨1, 0, e⟩ then floorLog10From value fuel (e - 1)
    else if Scaled.le ⟨1, 0, e + 1⟩ value then floorLog10From value fuel (e + 1)
    else e

/-- `⌊log₁₀ v⌋` of a positive magnitude, found from an estimate that is off by
at most a few steps. -/
def floorLog10 (value : Scaled) (estimate : Int) : Int :=
  floorLog10From value 8 estimate

/-- Removes trailing zero digits, raising the exponent for each. -/
def trimZeros (d : Nat) (tens : Int) : Nat → DecimalValue
  | 0 => ⟨d, tens⟩
  | fuel + 1 => if d != 0 && d % 10 == 0 then trimZeros (d / 10) (tens + 1) fuel else ⟨d, tens⟩

/-- The candidate of the grid with step `10 ^ tens`, if one of the two grid
points around the value lies in the interval. -/
def gridCandidate (interval : ReadBack) (tens : Int) : Option DecimalValue :=
  let below := interval.value.floorOver tens
  let above := below + 1
  let belowOk := interval.admits below tens
  let aboveOk := interval.admits above tens
  if belowOk && aboveOk then
    -- compare twice the value with the midpoint of the two grid points
    let twice : Scaled := ⟨2 * interval.value.coefficient, interval.value.twos, 0⟩
    let middle : Scaled := ⟨2 * below + 1, 0, tens⟩
    if twice.lt middle then some ⟨below, tens⟩
    else if middle.lt twice then some ⟨above, tens⟩
    else if below % 2 == 0 then some ⟨below, tens⟩ else some ⟨above, tens⟩
  else if belowOk then some ⟨below, tens⟩
  else if aboveOk then some ⟨above, tens⟩
  else none

/-- The first grid, from `count` digits on, that has a candidate. -/
def firstCandidate (interval : ReadBack) (leading : Int) : Nat → Nat → Option DecimalValue
  | _, 0 => none
  | count, fuel + 1 =>
    match gridCandidate interval (leading - count + 1) with
    | some found => some found
    | none => firstCandidate interval leading (count + 1) fuel

/-- The shortest decimal that reads back as the positive magnitude
`significand * 2 ^ exponent`, nearest among the shortest. -/
def shortest (significand : Nat) (exponent : Int) : DecimalValue :=
  let interval := readBack significand exponent
  let estimate : Int := ((Nat.log2 significand : Int) + exponent) * 30103 / 100000
  let leading := floorLog10 interval.value estimate
  match firstCandidate interval leading 1 17 with
  | some found => trimZeros found.digits found.exponent 20
  | none => ⟨significand, 0⟩

end PageObjects.Decimal
