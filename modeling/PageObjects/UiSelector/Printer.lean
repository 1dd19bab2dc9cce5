import PageObjects.UiSelector.Parser

/-!
# Writing UiSelector chains

A chain of calls is written `m1(a1).m2(a2)…`: a flag as `true` or `false`, a
number in decimal, a placeholder as it stands and a text between double quotes
around its raw form, which the lexer reads back unchanged when it has no
unescaped quote and no backslash before a line feed or at its end.
-/

namespace PageObjects.UiSelector

/-- The text of a call argument. -/
def Argument.render : Argument → String
  | .text raw => "\"" ++ raw ++ "\""
  | .number value => Decimal.intText value
  | .placeholder shownText => shownText
  | .flag value => if value then "true" else "false"

/-- The text of one call, `method(argument)`. -/
def Call.render (call : Call) : String :=
  call.method ++ "(" ++ ((call.argument.map Argument.render).getD "") ++ ")"

/-- The text of a chain of calls, joined by dots, without the prefix. -/
def renderChain (calls : List Call) : String :=
  ".".intercalate (calls.map Call.render)

end PageObjects.UiSelector
