import PageObjects.Text.CodePoint

/-!
# Offsets and positions

An editor position is a line and a character within it, both from zero, where
only the line feed ends a line. The position of an offset counts the line
feeds before it, and the characters since the last of them.

An offset below zero counts from the end of the text, and one past either end
is cut to it, when the text before the offset is taken; the character count is
measured from the offset as given. A position is only formed when both counts
lie between zero and `maxCoordinate`, the largest unsigned 31-bit number.
Offsets and characters count the code points of the held text.

The language server forms its positions with the `lsprotocol` package, which
lies outside this library. That package documents its positions as the
Language Server Protocol's: a line and a character that are each a `uinteger`,
from zero to `2^31 - 1`, and it refuses any other value. `Position.validate`
is written from that documented behaviour, not from the package's code, and
every result that locates an offset at a position rests on it.
-/

namespace PageObjects.Editor

/-- An editor position. -/
structure Position where
  line : Int
  character : Int
  deriving DecidableEq, Repr

/-- The largest line or character an editor position may hold: the largest
`uinteger` of the Language Server Protocol, `2^31 - 1`. -/
def maxCoordinate : Int := 2147483647

/-- Why a position cannot be formed: a coordinate outside zero to `maxCoordinate`. -/
inductive PositionError where
  | lineOutOfRange (value : Int)
  | characterOutOfRange (value : Int)
  deriving DecidableEq, Repr

/-- The text of a position error. -/
def PositionError.message : PositionError → String
  | .lineOutOfRange value =>
    "Position.line should be in range [0:2147483647], but was " ++ toString value ++ "."
  | .characterOutOfRange value =>
    "Position.character should be in range [0:2147483647], but was " ++ toString value ++ "."

/-- A position whose coordinates are in range, the line checked first.

This follows the documented check of the `lsprotocol` package's positions (each
coordinate a protocol `uinteger`, from zero to `maxCoordinate`, the line
refused before the character, with the texts of `PositionError.message`); the
package itself is outside this library. It is the assumption behind the
in-range part of the round trip of offsets and positions (`locate_text`,
`offset_position_round_trip`): an offset is located at its position exactly
when both coordinates fit. -/
def Position.validate (p : Position) : Except PositionError Position :=
  if p.line < 0 ∨ p.line > maxCoordinate then .error (.lineOutOfRange p.line)
  else if p.character < 0 ∨ p.character > maxCoordinate then .error (.characterOutOfRange p.character)
  else .ok p

/-- The number of characters of a text before an offset: counted from the end
when negative, cut to the text's ends. -/
def prefixLength (length : Nat) (offset : Int) : Nat :=
  let fromEnd := if offset < 0 then offset + length else offset
  (max 0 (min fromEnd length)).toNat

/-- The code point of the line feed. -/
def lineFeed : Nat := '\n'.toNat

/-- The index of the last line feed among code points, if any. -/
def lastLineFeed? (ps : List Nat) : Option Nat :=
  (ps.reverse.findIdx? (· == lineFeed)).map (fun k => ps.length - 1 - k)

/-- The position of an offset in a text. -/
def positionOf (source : String) (offset : Int) : Position :=
  let ps := Text.points source.toList
  let before := ps.take (prefixLength ps.length offset)
  let line := before.count lineFeed
  match lastLineFeed? before with
  | some last => ⟨line, offset - last - 1⟩
  | none => ⟨line, offset⟩

/-- The position of an offset in a text, when its coordinates are in range. -/
def locate (source : String) (offset : Int) : Except PositionError Position :=
  (positionOf source offset).validate

/-- The offset of a position: the lengths of the lines before it, each with its
line feed, then its character. -/
def offsetOf (source : String) (p : Position) : Int :=
  let lines := source.toList.splitOn '\n'
  (((lines.take p.line.toNat).foldl (fun total line => total + Text.pointCount line + 1) 0 : Nat) : Int) + p.character

end PageObjects.Editor
