import PageObjects.Decimal.Shortest

/-!
# Number text

How integers and binary64 values are written. An integer is its decimal digits
with a leading minus sign when negative. A binary64 value is written with the
shortest digits that read back as it (`PageObjects.Decimal.shortest`) and laid
out by a `NumberStyle`: positionally while the decimal point falls within a
range of positions, with a `.0` after an integral value, and otherwise as one
digit, the other digits after a point, and a signed exponent of at least two
digits.

An integer text of more than `digitLimit` digits is not read at all, as
reading and writing such numbers takes time that grows faster than their
length.
-/

namespace PageObjects.Decimal

/-- The decimal digits of a natural number. -/
def natText (n : Nat) : String :=
  String.ofList (Nat.toDigits 10 n)

/-- The decimal text of an integer. -/
def intText (n : Int) : String :=
  if n < 0 then "-" ++ natText n.natAbs else natText n.toNat

/-- The most decimal digits an integer text may hold to be read. -/
def digitLimit : Nat := 4300

/-- The refusal to read an integer text of more than `digitLimit` digits. -/
def digitLimitMessage (digits : Nat) : String :=
  "Exceeds the limit (" ++ natText digitLimit ++
    " digits) for integer string conversion: value has " ++ natText digits ++
    " digits; use sys.set_int_max_str_digits() to increase the limit"

/-- The layout decisions for binary64 text. The point position of a decimal
`0.d₁d₂… × 10 ^ p` is `p`. -/
structure NumberStyle where
  /-- The least point position written positionally. -/
  leastPositional : Int
  /-- The greatest point position written positionally. -/
  greatestPositional : Int
  /-- The least number of exponent digits. -/
  exponentWidth : Nat
  /-- The text of an infinite value, after its sign. -/
  infinity : String
  /-- The text of a value that is not a number. -/
  notANumber : String

/-- Values in listings and messages: positional for point positions from -3 to
16 (so `1e+16`, `1e-05` and `0.0001`), exponents of two digits or more,
`inf` and `nan`. -/
def NumberStyle.listing : NumberStyle :=
  { leastPositional := -3
    greatestPositional := 16
    exponentWidth := 2
    infinity := "inf"
    notANumber := "nan" }

/-- Values in JSON output: as in listings, with the JSON words for infinity
and not-a-number. -/
def NumberStyle.json : NumberStyle :=
  { NumberStyle.listing with infinity := "Infinity", notANumber := "NaN" }

/-- Lays out decimal digits with the point at position `point`. -/
def layoutDigits (style : NumberStyle) (digits : List Char) (point : Int) : String :=
  let n := digits.length
  if style.leastPositional ≤ point ∧ point ≤ style.greatestPositional then
    if point ≤ 0 then
      "0." ++ String.ofList (List.replicate (-point).toNat '0' ++ digits)
    else if point < n then
      String.ofList (digits.take point.toNat ++ '.' :: digits.drop point.toNat)
    else
      String.ofList (digits ++ List.replicate (point.toNat - n) '0') ++ ".0"
  else
    let mantissa :=
      match digits with
      | [] => "0"
      | [d] => String.ofList [d]
      | d :: rest => String.ofList (d :: '.' :: rest)
    let e := point - 1
    let sign := if e < 0 then "-" else "+"
    let magnitude := Nat.toDigits 10 e.natAbs
    let padded := List.replicate (style.exponentWidth - magnitude.length) '0' ++ magnitude
    mantissa ++ "e" ++ sign ++ String.ofList padded

/-- The text of a binary64 value in a style. -/
def Binary64.text (style : NumberStyle) : Binary64 → String
  | .nan => style.notANumber
  | .infinite negative => (if negative then "-" else "") ++ style.infinity
  | .finite negative significand exponent =>
    let sign := if negative then "-" else ""
    if significand == 0 then sign ++ "0.0"
    else
      let d := shortest significand exponent
      let digits := Nat.toDigits 10 d.digits
      sign ++ layoutDigits style digits (d.exponent + digits.length)

end PageObjects.Decimal
