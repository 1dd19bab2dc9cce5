import PageObjects.Compile.Action
import PageObjects.Types.Registry
import PageObjects.Text.Alnum
import PageObjects.Text.Blank

/-!
# Completion

The text before the cursor decides what is offered. After `"apply"`, blanks,
a colon, blanks, an optional quote and a run of word characters, every action
is offered, in catalog order, with its summary. Otherwise, after `"type"` in
the same way, with `-` and `/` counted as word characters too, every type
token is offered, in registry order. Otherwise nothing is. The text may end
with one line feed after such a tail.
-/

namespace PageObjects.Editor

/-- Whether characters end with `"field"`, blanks, a colon, blanks, an
optional quote and a run of characters of a class. -/
def endsWithFieldValue (field : String) (valueChar : Char → Bool) (cs : List Char) : Bool :=
  let reversed := cs.reverse.dropWhile valueChar
  let afterQuote := match reversed with
    | '"' :: rest => rest
    | other => other
  match afterQuote.dropWhile Text.isBlank with
  | ':' :: rest =>
    let key := ('"' :: (field.toList ++ ['"'])).reverse
    key.isPrefixOf (rest.dropWhile Text.isBlank)
  | _ => false

/-- Whether a text ends with such a field value, or does so before one final
line feed. -/
def endsWithField (field : String) (valueChar : Char → Bool) (text : String) : Bool :=
  let cs := text.toList
  endsWithFieldValue field valueChar cs ||
    (cs.getLast? == some '\n' && endsWithFieldValue field valueChar cs.dropLast)

/-- The kind of a completion item. -/
inductive CompletionKind where
  | method
  | typeParameter
  deriving DecidableEq, Repr

/-- The protocol code of a completion kind. -/
def CompletionKind.code : CompletionKind → Nat
  | .method => 2
  | .typeParameter => 25

/-- An item offered for completion. -/
structure CompletionItem where
  label : String
  kind : CompletionKind
  detail : Option String
  deriving DecidableEq, Repr

/-- Whether a character may stand in a type token being typed. -/
def isTypeTokenChar (c : Char) : Bool := Text.isWordChar c || c == '-' || c == '/'

/-- The items offered after a text. -/
def completions (before : String) : List CompletionItem :=
  if endsWithField "apply" Text.isWordChar before then
    Action.catalog.map (fun a => ⟨a.name, .method, some a.summary⟩)
  else if endsWithField "type" isTypeTokenChar before then
    Registry.tokens.map (fun t => ⟨t, .typeParameter, none⟩)
  else []

end PageObjects.Editor
