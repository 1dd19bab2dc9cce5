import PageObjects.Json.Basic
import PageObjects.Decimal.Text
import PageObjects.Text.Quoted

/-!
# Values in messages

How a decoded value is named and shown inside a message. The plain text of a
value is the text itself for a text and its listing form otherwise: `None`,
`True`, `False`, decimal numbers, texts as quoted literals, arrays in brackets
and objects in braces, items separated by a comma and a space. Each kind of
value has a type name (`NoneType`, `bool`, `int`, `float`, `str`, `list`,
`dict`), and a value is empty (null, false, zero, the empty text, array or
object) or not.
-/

namespace PageObjects.Json

mutual

/-- The listing form of a value, as an item of a list shown in a message. -/
def listing : Json → String
  | .null => "None"
  | .bool true => "True"
  | .bool false => "False"
  | .int n => Decimal.intText n
  | .float x => Decimal.Binary64.text Decimal.NumberStyle.listing x
  | .str s => Text.literal s
  | .arr items => "[" ++ listingItems items ++ "]"
  | .obj fields => "\x7b" ++ listingFields fields ++ "\x7d"

/-- The listing forms of items, separated by a comma and a space. -/
def listingItems : List Json → String
  | [] => ""
  | [item] => listing item
  | item :: rest => listing item ++ ", " ++ listingItems rest

/-- The listing forms of fields, each `key: value`, separated by a comma and a
space. -/
def listingFields : List (String × Json) → String
  | [] => ""
  | [(k, v)] => Text.literal k ++ ": " ++ listing v
  | (k, v) :: rest => Text.literal k ++ ": " ++ listing v ++ ", " ++ listingFields rest

end

/-- The plain text of a value: a text stands for itself, anything else is
shown in its listing form. -/
def plain : Json → String
  | .str s => s
  | other => listing other

/-- The type name of a value. -/
def typeName : Json → String
  | .null => "NoneType"
  | .bool _ => "bool"
  | .int _ => "int"
  | .float _ => "float"
  | .str _ => "str"
  | .arr _ => "list"
  | .obj _ => "dict"

/-- Whether a value is non-empty: not null, false, zero, or an empty text,
array or object. A value that is not a number counts as non-empty. -/
def truthy : Json → Bool
  | .null => false
  | .bool b => b
  | .int n => n != 0
  | .float x => !x.isZero
  | .str s => !s.isEmpty
  | .arr items => !items.isEmpty
  | .obj fields => !fields.isEmpty

end PageObjects.Json

namespace PageObjects.Text

/-- A list of names in its listing form, such as `['alpha', 'zeta']`. -/
def nameListing (names : List String) : String :=
  "[" ++ ", ".intercalate (names.map literal) ++ "]"

end PageObjects.Text
