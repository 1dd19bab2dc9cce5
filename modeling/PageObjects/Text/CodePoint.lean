/-!
# Code points held in Lean text

A JSON text may name any code point up to U+10FFFF, a UTF-16 surrogate
standing alone included, and such a text is a value like any other. No Lean
character is a surrogate, so a text is held in a Lean string by a prefix code:
the character `mark`, U+D0000, opens a glyph of two characters. The surrogate
`0xD800 + k` is held as `mark` followed by the character `surrogateBase + k`,
and the mark's own code point as `mark` twice; every other code point is its
own character.

The code is chosen so that work done character by character needs no
decoding. Both characters of a two-character glyph are unassigned in Unicode,
so that, like a surrogate, neither is a letter, a digit, a blank or printable,
has a case or is skipped by a case rule; neither is ASCII, so splitting at,
or looking for, ASCII text finds the same places; and a text is held code
point by code point, so joined texts are held by the joined forms and equal
texts by equal forms. Counting, ordering and printing look through the code,
by the `glyphs` of a held text.
-/

namespace PageObjects.Text

/-- The character that opens a two-character glyph, U+D0000, which Unicode
leaves unassigned. -/
def mark : Char := Char.ofNat 0xD0000

/-- The code point of the character that follows `mark` for the surrogate
U+D800; the surrogate `0xD800 + k` is followed by `surrogateBase + k`. -/
def surrogateBase : Nat := 0xD0001

/-- Whether a code point is a UTF-16 surrogate. -/
def isSurrogate (n : Nat) : Bool := 0xD800 ≤ n && n < 0xE000

/-- The characters that hold a code point. -/
def held (n : Nat) : List Char :=
  if isSurrogate n then [mark, Char.ofNat (surrogateBase + (n - 0xD800))]
  else if n == mark.toNat then [mark, mark]
  else [Char.ofNat n]

/-- The held form of a text whose characters each stand for themselves, such
as a line of input or the contents of a file. -/
def hold (s : String) : String :=
  String.ofList (s.toList.flatMap (fun c => held c.toNat))

/-- The glyphs of held characters: the characters that hold each code point,
in order. -/
def glyphs : List Char → List (List Char)
  | [] => []
  | [c] => [[c]]
  | c :: rest@(d :: more) => if c == mark then [c, d] :: glyphs more else [c] :: glyphs rest
termination_by cs => cs.length

/-- Splitting held characters into glyphs loses none and adds none. -/
theorem flatten_glyphs : ∀ cs : List Char, (glyphs cs).flatten = cs
  | [] => by simp [glyphs]
  | [_] => by simp [glyphs]
  | c :: d :: more => by
    by_cases h : c = mark
    · simp [glyphs, h, flatten_glyphs more]
    · simp [glyphs, h, flatten_glyphs (d :: more)]

/-- The code point a glyph holds. -/
def glyphPoint : List Char → Nat
  | [c, d] =>
    if c != mark then c.toNat
    else if d == mark then mark.toNat
    else d.toNat - surrogateBase + 0xD800
  | c :: _ => c.toNat
  | [] => 0

/-- The code points of held characters. -/
def points (cs : List Char) : List Nat := (glyphs cs).map glyphPoint

/-- The number of code points of held characters. -/
def pointCount (cs : List Char) : Nat := (glyphs cs).length

/-- The first glyph of held characters, empty when there are none. -/
def leadGlyph (cs : List Char) : List Char := ((glyphs cs).head?).getD []

/-- The plain text of a held text, for output that is not quoted: every
surrogate is written as the replacement character U+FFFD. -/
def release (s : String) : String :=
  String.ofList ((points s.toList).map (fun n => if isSurrogate n then Char.ofNat 0xFFFD else Char.ofNat n))

/-- Whether one held text comes before another or equals it, comparing code
points from the start; a text comes before its extensions. -/
def codeLE (cs ds : List Char) : Bool :=
  go (points cs) (points ds)
where
  /-- Compares code points from the start. -/
  go : List Nat → List Nat → Bool
    | [], _ => true
    | _ :: _, [] => false
    | a :: as, b :: bs => if a < b then true else if b < a then false else go as bs

end PageObjects.Text
