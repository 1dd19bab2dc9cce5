import PageObjects.Compile.Action
import PageObjects.Text.Alnum
import PageObjects.Text.CodePoint

/-!
# Hover text

The word under a character of a line is the longest run of alphanumeric
characters and `_` around it; a character outside the line, or not of a word,
has none; characters are the code points of the held line. When the word
names an action, the hover text gives the action's description, capability and
result type.
-/

namespace PageObjects.Editor

/-- Whether a character belongs to a hover word. -/
def isHoverChar (c : Char) : Bool := Text.isAlnum c || c == '_'

/-- Whether the glyph of one code point is a character of a hover word; the
two-character glyph of a surrogate or of the mark is none. -/
def isHoverGlyph : List Char → Bool
  | [c] => isHoverChar c
  | _ => false

/-- The word under a character of a line, empty when there is none. -/
def wordAt (line : String) (character : Int) : String :=
  let gs := Text.glyphs line.toList
  if character < 0 || gs.length ≤ character.toNat then ""
  else
    let k := character.toNat
    match gs[k]? with
    | some g =>
      if !isHoverGlyph g then ""
      else
        let left := ((gs.take k).reverse.takeWhile isHoverGlyph).reverse
        let right := (gs.drop k).takeWhile isHoverGlyph
        String.ofList (left ++ right).flatten
    | none => ""

/-- The hover text of a word that names an action. -/
def hoverText (word : String) : Option String :=
  (Action.find? word).map (fun a => "**" ++ word ++ "**: " ++ a.summary)

end PageObjects.Editor
