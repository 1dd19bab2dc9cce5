/-!
# Code-point tables

A character property of the Unicode standard is kept here as a short text of
hexadecimal numbers and decoded once into an array. Two shapes occur:

* `CodeRanges`, a set of code points given as sorted, disjoint closed
  intervals `a-b` (or a single point `a`), looked up by binary search;
* `CaseRun`, a run of code points `start.count.stride.delta` that a case
  mapping moves by the same offset, together with `SpecialCase` entries
  `c=a,b,c` for the mappings that give more than one character.
-/

namespace PageObjects.Text

/-- The value of one hexadecimal digit; any other character counts as zero. -/
def hexDigitValue (c : Char) : Nat :=
  if '0' ≤ c ∧ c ≤ '9' then c.toNat - '0'.toNat
  else if 'a' ≤ c ∧ c ≤ 'f' then c.toNat - 'a'.toNat + 10
  else if 'A' ≤ c ∧ c ≤ 'F' then c.toNat - 'A'.toNat + 10
  else 0

/-- The value of an ASCII hexadecimal digit, none for any other character. -/
def hexDigit? (c : Char) : Option Nat :=
  if ('0' ≤ c ∧ c ≤ '9') ∨ ('a' ≤ c ∧ c ≤ 'f') ∨ ('A' ≤ c ∧ c ≤ 'F') then some (hexDigitValue c)
  else none

/-- The number written by a word of hexadecimal digits. -/
def hexValue (word : String) : Nat :=
  word.foldl (fun acc c => acc * 16 + hexDigitValue c) 0

/-- The words of a table text, split at single spaces. -/
def tableWords (text : String) : List String :=
  (text.splitOn " ").filter (fun word => word ≠ "")

/-- A set of code points: sorted, disjoint closed intervals. -/
structure CodeRanges where
  intervals : Array (Nat × Nat)

namespace CodeRanges

/-- One interval word, `a-b` or `a`. -/
def intervalOfWord (word : String) : Nat × Nat :=
  match word.splitOn "-" with
  | [a] => (hexValue a, hexValue a)
  | [a, b] => (hexValue a, hexValue b)
  | _ => (1, 0)

/-- Decodes a table text of interval words. -/
def ofText (text : String) : CodeRanges :=
  ⟨((tableWords text).map intervalOfWord).toArray⟩

/-- Binary search for `point` among the intervals with index in `[lo, hi)`. -/
def containsBetween (intervals : Array (Nat × Nat)) (point lo hi : Nat) : Bool :=
  if lo < hi then
    let mid := (lo + hi) / 2
    let interval := intervals.getD mid (1, 0)
    if point < interval.1 then containsBetween intervals point lo mid
    else if interval.2 < point then containsBetween intervals point (mid + 1) hi
    else true
  else false
termination_by hi - lo

/-- Whether the set holds a code point. -/
def contains (set : CodeRanges) (point : Nat) : Bool :=
  containsBetween set.intervals point 0 set.intervals.size

/-- Whether the set holds a character. -/
def has (set : CodeRanges) (c : Char) : Bool :=
  set.contains c.toNat

end CodeRanges

/-- Code points `start`, `start + stride`, … (`count` of them), each moved by
`delta` under a case mapping. -/
structure CaseRun where
  start : Nat
  count : Nat
  stride : Nat
  delta : Int

namespace CaseRun

/-- A signed hexadecimal word, with a leading `-` for negative values. -/
def signedHex (word : String) : Int :=
  match word.toList with
  | '-' :: digits => -(Int.ofNat (hexValue (String.ofList digits)))
  | _ => Int.ofNat (hexValue word)

/-- One run word `start.count.stride.delta`. -/
def ofWord (word : String) : CaseRun :=
  match word.splitOn "." with
  | [s, n, k, d] => ⟨hexValue s, hexValue n, hexValue k, signedHex d⟩
  | _ => ⟨0, 0, 1, 0⟩

/-- Decodes a table text of run words. -/
def ofText (text : String) : Array CaseRun :=
  ((tableWords text).map ofWord).toArray

/-- The image of a code point when the run covers it. -/
def image? (run : CaseRun) (point : Nat) : Option Nat :=
  if run.start ≤ point ∧ point < run.start + run.count * run.stride ∧
      (point - run.start) % run.stride = 0 then
    some (Int.toNat (Int.ofNat point + run.delta))
  else none

end CaseRun

/-- A case mapping of one code point to several. -/
structure SpecialCase where
  point : Nat
  image : List Nat

namespace SpecialCase

/-- One entry word `c=a,b,c`. -/
def ofWord (word : String) : SpecialCase :=
  match word.splitOn "=" with
  | [c, image] => ⟨hexValue c, (image.splitOn ",").map hexValue⟩
  | _ => ⟨0, []⟩

/-- Decodes a table text of entry words. -/
def ofText (text : String) : List SpecialCase :=
  (tableWords text).map ofWord

end SpecialCase

/-- The image of a character under a case mapping given by its runs and its
special entries; a character that neither covers maps to itself. -/
def caseImage (runs : Array CaseRun) (special : List SpecialCase) (c : Char) : List Char :=
  match special.find? (fun entry => entry.point == c.toNat) with
  | some entry => entry.image.map Char.ofNat
  | none =>
    match runs.toList.findSome? (fun run => run.image? c.toNat) with
    | some point => [Char.ofNat point]
    | none => [c]

end PageObjects.Text
