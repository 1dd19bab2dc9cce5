/-!
# Binary64 values

A double-precision value is a sign with either a finite magnitude
`significand * 2 ^ exponent`, an infinity, or not-a-number. A finite magnitude
is kept in its canonical form: zero has significand and exponent zero; a normal
value has a significand of exactly 53 bits and an exponent from -1074 to 971;
a subnormal value has a shorter significand and the exponent -1074.

`Binary64.ofDecimal` reads a decimal `mantissa * 10 ^ exponent` as the nearest
such value, a tie going to the even significand, and overflows to infinity from
2 ^ 1024 on.
-/

namespace PageObjects.Decimal

/-- A double-precision floating-point value. -/
inductive Binary64 where
  | finite (negative : Bool) (significand : Nat) (exponent : Int)
  | infinite (negative : Bool)
  | nan
  deriving DecidableEq, Repr, Inhabited

namespace Binary64

/-- The least exponent of the binary grid, that of the smallest subnormal. -/
def leastExponent : Int := -1074

/-- The greatest exponent of a finite value. -/
def greatestExponent : Int := 971

/-- The number of bits of a normal significand. -/
def precision : Nat := 53

/-- Whether the value is a zero of either sign. -/
def isZero : Binary64 → Bool
  | finite _ significand _ => significand == 0
  | _ => false

/-- The value with its sign turned. -/
def negate : Binary64 → Binary64
  | finite negative significand exponent => finite (!negative) significand exponent
  | infinite negative => infinite (!negative)
  | nan => nan

/-- `numerator / denominator` rounded to the nearest natural number, a tie
going to the even one. -/
def roundHalfEven (numerator denominator : Nat) : Nat :=
  let quotient := numerator / denominator
  let twice := 2 * (numerator % denominator)
  if twice < denominator then quotient
  else if denominator < twice then quotient + 1
  else if quotient % 2 == 0 then quotient else quotient + 1

/-- `⌊log₂ (numerator / denominator)⌋` for positive numbers. -/
def floorLog2 (numerator denominator : Nat) : Int :=
  let guess : Int := (Nat.log2 numerator : Int) - (Nat.log2 denominator : Int)
  let below :=
    if 0 ≤ guess then numerator < denominator * Nat.pow 2 guess.toNat
    else numerator * Nat.pow 2 (-guess).toNat < denominator
  if below then guess - 1 else guess

/-- The nearest binary64 magnitude to the positive rational
`numerator / denominator`, a tie going to the even significand. -/
def ofRatio (negative : Bool) (numerator denominator : Nat) : Binary64 :=
  if numerator == 0 || denominator == 0 then finite negative 0 0
  else
    let exponent := max (floorLog2 numerator denominator - (precision - 1 : Nat)) leastExponent
    let significand :=
      if 0 ≤ exponent then roundHalfEven numerator (denominator * Nat.pow 2 exponent.toNat)
      else roundHalfEven (numerator * Nat.pow 2 (-exponent).toNat) denominator
    let (significand, exponent) :=
      if significand == Nat.pow 2 precision then (significand / 2, exponent + 1) else (significand, exponent)
    if significand == 0 then finite negative 0 0
    else if greatestExponent < exponent then infinite negative
    else finite negative significand exponent

/-- Whether two values are equal as numbers: zeros of either sign are equal,
and not-a-number equals nothing. Finite values are canonical, so equal
magnitudes have equal significands and exponents. -/
def sameNumber : Binary64 → Binary64 → Bool
  | finite negative significand exponent, finite negative' significand' exponent' =>
    (significand == 0 && significand' == 0) ||
      (negative == negative' && significand == significand' && exponent == exponent')
  | infinite negative, infinite negative' => negative == negative'
  | _, _ => false

/-- Whether a value equals a whole number. -/
def equalsInt (x : Binary64) (n : Int) : Bool :=
  match x with
  | finite negative significand exponent =>
    let magnitude? : Option Nat :=
      if 0 ≤ exponent then some (significand * Nat.pow 2 exponent.toNat)
      else if significand % Nat.pow 2 (-exponent).toNat == 0 then some (significand / Nat.pow 2 (-exponent).toNat)
      else none
    match magnitude? with
    | some m => (if negative then -(m : Int) else (m : Int)) == n
    | none => false
  | _ => false

/-- The number of decimal digits of a natural number (one for zero). -/
def decimalLength (n : Nat) : Nat :=
  (Nat.toDigits 10 n).length

/-- The nearest binary64 value to `mantissa * 10 ^ exponent`. Magnitudes far
beyond the finite range are decided by their digit count alone. -/
def ofDecimal (negative : Bool) (mantissa : Nat) (exponent : Int) : Binary64 :=
  if mantissa == 0 then finite negative 0 0
  else
    let magnitude := (decimalLength mantissa : Int) + exponent
    if 310 < magnitude then infinite negative
    else if magnitude < -330 then finite negative 0 0
    else if 0 ≤ exponent then ofRatio negative (mantissa * Nat.pow 10 exponent.toNat) 1
    else ofRatio negative mantissa (Nat.pow 10 (-exponent).toNat)

end Binary64

end PageObjects.Decimal
