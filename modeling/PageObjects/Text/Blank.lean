/-!
# Blanks and line breaks

The blank characters of Unicode 14.0 (the twenty-nine characters with the
White_Space property or the bidirectional class of a separator), the characters
that end a line, and the operations built on them: stripping blanks from both
ends of a text and splitting a text into lines.

A text splits into the pieces between line breaks, where `\r\n` counts as one
break; a break at the very end opens no further line.
-/

namespace PageObjects.Text

/-- The blank characters: tab to carriage return, the four information
separators, space, next line, no-break space, ogham space, the typographic
spaces, the line and paragraph separators, and the ideographic space. -/
def isBlank (c : Char) : Bool :=
  let n := c.toNat
  (0x09 ≤ n ∧ n ≤ 0x0d) || (0x1c ≤ n ∧ n ≤ 0x20) || n == 0x85 || n == 0xa0 ||
    n == 0x1680 || (0x2000 ≤ n ∧ n ≤ 0x200a) || n == 0x2028 || n == 0x2029 ||
    n == 0x202f || n == 0x205f || n == 0x3000

/-- The characters that end a line: line feed, vertical tab, form feed,
carriage return, the file, group and record separators, next line, and the
line and paragraph separators. -/
def isLineBreak (c : Char) : Bool :=
  let n := c.toNat
  n == 0x0a || n == 0x0b || n == 0x0c || n == 0x0d || n == 0x1c || n == 0x1d ||
    n == 0x1e || n == 0x85 || n == 0x2028 || n == 0x2029

/-- Whether a text holds nothing but blanks, so that stripping leaves it empty. -/
def isBlankText (s : String) : Bool :=
  s.toList.all isBlank

/-- The characters with blanks removed from both ends. -/
def stripBlanks (cs : List Char) : List Char :=
  ((cs.dropWhile isBlank).reverse.dropWhile isBlank).reverse

/-- Splits after the characters of the current line (kept reversed). -/
def splitLinesFrom : List Char → List Char → List (List Char)
  | current, [] => if current.isEmpty then [] else [current.reverse]
  | current, '\r' :: '\n' :: rest => current.reverse :: splitLinesFrom [] rest
  | current, c :: rest =>
    if isLineBreak c then current.reverse :: splitLinesFrom [] rest
    else splitLinesFrom (c :: current) rest

/-- The lines of a text, without their line breaks. -/
def splitLines (s : String) : List String :=
  (splitLinesFrom [] s.toList).map String.ofList

end PageObjects.Text
