import PageObjects.Json.Basic
import PageObjects.Decimal.Text
import PageObjects.Text.Quoted

/-!
# Writing JSON text

Writes a value as compact JSON text: texts in their printable-ASCII quoted
form, integers in decimal, binary64 values in their shortest form, and arrays
and objects with commas and colons and no blanks.
-/

namespace PageObjects.Json

mutual

/-- The JSON text of a value. -/
def render : Json → String
  | .null => "null"
  | .bool true => "true"
  | .bool false => "false"
  | .int n => Decimal.intText n
  | .float x => Decimal.Binary64.text Decimal.NumberStyle.json x
  | .str s => Text.jsonQuote s
  | .arr items => "[" ++ renderItems items ++ "]"
  | .obj fields => "\x7b" ++ renderFields fields ++ "\x7d"

/-- The JSON texts of array items, separated by commas. -/
def renderItems : List Json → String
  | [] => ""
  | [item] => render item
  | item :: rest => render item ++ "," ++ renderItems rest

/-- The JSON texts of object fields, separated by commas. -/
def renderFields : List (String × Json) → String
  | [] => ""
  | [(k, v)] => Text.jsonQuote k ++ ":" ++ render v
  | (k, v) :: rest => Text.jsonQuote k ++ ":" ++ render v ++ "," ++ renderFields rest

end

end PageObjects.Json
